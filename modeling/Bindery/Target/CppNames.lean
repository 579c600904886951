import Bindery.Target.Basic

/-!
# Names and types in C++

Interface and rpc names are used as written. Only a parameter that is a keyword changes: it gets a
trailing underscore.
-/

namespace Bindery.Cpp

/-- The words that cannot name a parameter. -/
def keywords : List String :=
  ["alignas", "alignof", "and", "asm", "auto", "bool", "break", "case", "catch", "char", "class",
   "const", "continue", "default", "delete", "do", "double", "else", "enum", "explicit", "export",
   "extern", "false", "float", "for", "friend", "goto", "if", "inline", "int", "long", "mutable",
   "namespace", "new", "not", "operator", "or", "private", "protected", "public", "register",
   "return", "short", "signed", "sizeof", "static", "struct", "switch", "template", "this",
   "throw", "true", "try", "typedef", "typename", "union", "unsigned", "using", "virtual", "void",
   "volatile", "while", "xor"]

/-- The names a generated routine uses for something other than its parameters. -/
def reservedLocals : List String :=
  ["cursor", "DecodeFromBuffer", "EncodeToBuffer", "Send", "SendCursor"]

/-- Types as the transport's overloads take them. -/
def dialect : Dialect where
  scalar
    | .text => .borrowed "string" "const string&"
    | .u8 => .copied "uint8_t"
    | .u16 => .copied "uint16_t"
    | .u32 => .copied "uint32_t"
  sequence element := .borrowed ("vector<" ++ element ++ ">") ("const vector<" ++ element ++ ">&")

def className (interface : String) (role : Role) : String :=
  interface ++ role.label ++ "Ipc"

/-- The transport class that the generated class derives from. -/
def baseClass (role : Role) : String :=
  "Ipc" ++ role.label ++ "Interface"

def parameterName (name : String) : String :=
  if keywords.contains name then name ++ "_" else name

/-- The members of a class that belong to a message. -/
def naming : Naming where
  sender message := match message.leg with
    | .request => "SendRequest" ++ message.rpc.name
    | .reply => "SendReplyFor" ++ message.rpc.name
  handler message := "Process" ++ message.rpc.name ++ message.leg.label
  reader message := "Parse" ++ message.rpc.name ++ message.leg.label
  parameter := parameterName

/-- The parameters of a routine, each with the type that `spelled` picks. -/
def parameterList (spelled : Spelling → String) (parameters : List Parameter) : String :=
  if parameters.isEmpty then "void"
  else ", ".intercalate <| parameters.map fun p =>
    spelled (dialect.spell p.type) ++ " " ++ parameterName p.name

/-- Claims the members for an accepted message, then, apart, the names in its reading routine,
which calls the handler by its bare name. -/
def claimIncoming (interface : String) (members : Scope) (message : Message) :
    Except GenerateError Scope := do
  let rpc := message.rpc.name
  let members ← members.claimAll interface
    [(rpc, naming.handler message), (rpc, naming.reader message)]
  let _ ← (Scope.empty reservedLocals).claimAll interface
    ((rpc, naming.handler message) :: naming.parameters message)
  return members

/-- Claims the member for a sent message, then, apart, its parameters. -/
def claimOutgoing (interface : String) (members : Scope) (message : Message) :
    Except GenerateError Scope := do
  let members ← members.claim interface message.rpc.name (naming.sender message)
  let _ ← (Scope.empty reservedLocals).claimAll interface (naming.parameters message)
  return members

/-- Claims every name in the class for a plan. -/
def checkNames (plan : RolePlan) : Except GenerateError Unit := do
  let interface := plan.interface.name
  let members ← plan.incoming.foldlM (claimIncoming interface) (Scope.empty ["Dispatch"])
  let _ ← plan.outgoing.foldlM (claimOutgoing interface) members

end Bindery.Cpp
