import Bindery.Target.Basic
import Bindery.Text.Words

/-!
# Names and types in Rust

Modules, routines and parameters are written in snake case and traits in camel case. A parameter
that is a keyword is written as a raw identifier; the few keywords that cannot be raw get a
trailing underscore.
-/

namespace Bindery.Rust

open Text

/-- The keywords that can be written as raw identifiers. -/
def keywords : List String :=
  ["abstract", "as", "async", "await", "become", "box", "break", "const", "continue", "do", "dyn",
   "else", "enum", "extern", "false", "final", "fn", "for", "gen", "if", "impl", "in", "let",
   "loop", "macro", "match", "mod", "move", "mut", "override", "priv", "pub", "ref", "return",
   "static", "struct", "trait", "true", "try", "type", "typeof", "unsafe", "unsized", "use",
   "virtual", "where", "while", "yield"]

/-- The keywords that cannot. -/
def pathKeywords : List String := ["crate", "self", "super"]

/-- The variables of generated routines, and `_`, which cannot be read once it is bound. -/
def reservedLocals : List String := ["_", "cursor", "handler", "message"]

/-- Types by their full paths, so that nothing in scope can hide them. -/
def dialect : Dialect where
  scalar
    | .text => .borrowed "::std::string::String" "&str"
    | .u8 => .copied "u8"
    | .u16 => .copied "u16"
    | .u32 => .copied "u32"
  sequence element := .borrowed ("::std::vec::Vec<" ++ element ++ ">") ("&[" ++ element ++ "]")

def moduleName (interface : String) (role : Role) : String :=
  snakeCase interface ++ "_" ++ role.name

def traitName (interface : String) (role : Role) : String :=
  camelCase interface ++ role.label ++ "Ipc"

/-- The leg as the last word of a name. -/
def legSuffix : Leg → String
  | .request => "request"
  | .reply => "reply"

def parameterName (name : String) : String :=
  let snake := snakeCase name
  if pathKeywords.contains snake then snake ++ "_"
  else if keywords.contains snake then "r#" ++ snake
  else snake

/-- The routines that belong to a message. -/
def naming : Naming where
  sender message := match message.leg with
    | .request => "send_request_" ++ snakeCase message.rpc.name
    | .reply => "send_reply_for_" ++ snakeCase message.rpc.name
  handler message := "process_" ++ snakeCase message.rpc.name ++ "_" ++ legSuffix message.leg
  reader message := "parse_" ++ snakeCase message.rpc.name ++ "_" ++ legSuffix message.leg
  parameter := parameterName

/-- The parameters of a routine after the receiver, each with the type that `spelled` picks. -/
def parameterList (spelled : Spelling → String) (parameters : List Parameter) : String :=
  String.join <| parameters.map fun p =>
    ", " ++ parameterName p.name ++ ": " ++ spelled (dialect.spell p.type)

/-- Claims the parameters of a message in a scope of their own. -/
def checkParameters (interface : String) (message : Message) : Except GenerateError Unit := do
  let _ ← (Scope.empty reservedLocals).claimAll interface (naming.parameters message)

/-- Claims the method and the reading routine for an accepted message, and its parameters. -/
def claimIncoming (interface : String) (scopes : Scope × Scope) (message : Message) :
    Except GenerateError (Scope × Scope) := do
  let methods ← scopes.1.claim interface message.rpc.name (naming.handler message)
  let readers ← scopes.2.claim interface message.rpc.name (naming.reader message)
  checkParameters interface message
  return (methods, readers)

/-- Claims the method for a sent message, and its parameters. -/
def claimOutgoing (interface : String) (methods : Scope) (message : Message) :
    Except GenerateError Scope := do
  let methods ← methods.claim interface message.rpc.name (naming.sender message)
  checkParameters interface message
  return methods

/-- Claims every name in the module for a plan: the module and its trait side by side, the methods
of the trait, and the reading routines. -/
def checkNames (plan : RolePlan) : Except GenerateError Unit := do
  let interface := plan.interface.name
  let _ ← (Scope.empty []).claimAll interface
    [(interface, moduleName interface plan.role), (interface, traitName interface plan.role)]
  let (methods, _) ← plan.incoming.foldlM (claimIncoming interface)
    (Scope.empty ["dispatch", "send"], Scope.empty ["dispatch"])
  let _ ← plan.outgoing.foldlM (claimOutgoing interface) methods

/-- Claims the modules of all interfaces, which stand side by side in the file. -/
def checkModules (role : Role) (interfaces : List Interface) : Except GenerateError Unit := do
  let _ ← interfaces.foldlM (fun (modules : Scope) interface =>
    modules.claim interface.name interface.name (moduleName interface.name role)) (Scope.empty [])

end Bindery.Rust
