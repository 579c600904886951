import Bindery.Schema.Model
import Bindery.Text.Quoted
import Std.Data.HashSet

/-!
# Checking definitions

Names must be ASCII identifiers, distinct where they stand side by side, and a list of rpcs must
not outgrow its opcodes. Checks run in the order of the definition and the first fault is the
answer. `Definitions` holds only interfaces that passed.

One pattern returns: each item of a list is checked by itself, and then its key must not have been
seen earlier in the list (`checkDistinct`).
-/

namespace Bindery

/-! ## Faults -/

/-- What is wrong with a set of interfaces. -/
inductive SchemaError where
  /-- The list holds more rpcs than there are opcodes for it. -/
  | tooManyRpcs (interface : String) (list : RpcList) (count : Nat)
  | duplicateInterface (name : String)
  | duplicateRpc (interface : String) (list : RpcList) (name : String)
  | duplicateParameter (rpc name : String)
  | invalidIdentifier (name : String)
  /-- Generated code needs the name for itself. -/
  | reservedName (rpc name : String)
  | unknownType (spelling : String)
  deriving DecidableEq, Repr

def SchemaError.message : SchemaError → String
  | .tooManyRpcs interface .sends count =>
    "interface " ++ interface ++ ": " ++ toString count ++ " sends declared, at most " ++
      toString (RpcList.capacity .sends) ++ " fit below the receive space"
  | .tooManyRpcs interface .receives count =>
    "interface " ++ interface ++ ": " ++ toString count ++ " receives declared, at most " ++
      toString (RpcList.capacity .receives) ++ " fit in a 16-bit opcode"
  | .duplicateInterface name => "interface " ++ name ++ " is declared more than once"
  | .duplicateRpc interface list name =>
    "interface " ++ interface ++ ": rpc " ++ name ++ " appears more than once in " ++ list.name
  | .duplicateParameter rpc name =>
    "rpc " ++ rpc ++ ": parameter " ++ name ++ " appears more than once"
  | .invalidIdentifier name => Text.quote name ++ " is not a valid identifier"
  | .reservedName rpc name =>
    "rpc " ++ rpc ++ ": parameter name " ++ name ++ " is reserved for generated code"
  | .unknownType spelling => "unknown parameter type " ++ Text.quote spelling

/-! ## Items that must differ -/

section Distinct

variable {α κ ε : Type} [BEq κ] [Hashable κ]

/-- Checks the items in order, given the keys `seen` before them. -/
def checkDistinctFrom (key : α → κ) (check : α → Except ε Unit) (clash : α → ε)
    (seen : Std.HashSet κ) : List α → Except ε Unit
  | [] => .ok ()
  | a :: rest =>
    match check a with
    | .error e => .error e
    | .ok () =>
      if seen.contains (key a) then .error (clash a)
      else checkDistinctFrom key check clash (seen.insert (key a)) rest

/-- Checks the items in order: each by itself, then that no earlier item has the same key. -/
def checkDistinct (key : α → κ) (check : α → Except ε Unit) (clash : α → ε) (items : List α) :
    Except ε Unit :=
  checkDistinctFrom key check clash ∅ items

end Distinct

/-! ## Names and types -/

/-- Whether the text is a letter or underscore followed by letters, digits and underscores, all of
ASCII. -/
def isIdentifier (cs : List Char) : Bool :=
  match cs with
  | [] => false
  | c :: rest => (c.isAlpha || c == '_') && rest.all fun c => c.isAlphanum || c == '_'

def checkIdentifier (name : String) : Except SchemaError Unit :=
  if isIdentifier name.toList then .ok () else .error (.invalidIdentifier name)

/-- The names that generated routines use for their own variables. -/
def reservedParameterNames : List String := ["cursor", "handler", "message"]

/-- The type a definition spells. A fault in the spelling of an element is reported as one of the
sequence, so the error carries the whole spelling, wherever its fault is. -/
def ParamType.parse (spelling : String) : Except SchemaError ParamType :=
  match h : ParamType.elementSpelling? (Text.trim spelling.toList) with
  | some inner =>
    have : inner.length < spelling.toList.length :=
      Nat.lt_of_lt_of_le (ParamType.length_lt_of_elementSpelling? h)
        (Text.length_trim_le spelling.toList)
    ((ParamType.parse (String.ofList inner)).map .repeated).mapError fun _ => .unknownType spelling
  | none =>
    match Scalar.ofKeyword? (Text.trim spelling.toList) with
    | some s => .ok (.scalar s)
    | none => .error (.unknownType spelling)
  termination_by spelling.toList.length

namespace Rpc

/-- Checks the name of one parameter. -/
def checkParameter (rpc : Rpc) (parameter : Parameter) : Except SchemaError Unit := do
  checkIdentifier parameter.name
  if reservedParameterNames.contains parameter.name then
    throw (.reservedName rpc.name parameter.name)

/-- Checks the parameters of one leg. -/
def checkParameters (rpc : Rpc) (parameters : List Parameter) : Except SchemaError Unit :=
  checkDistinct Parameter.name rpc.checkParameter
    (fun parameter => .duplicateParameter rpc.name parameter.name) parameters

/-- Checks the rpc's name, then its request, then its reply. -/
def check (rpc : Rpc) : Except SchemaError Unit := do
  checkIdentifier rpc.name
  rpc.checkParameters rpc.request
  rpc.checkParameters rpc.reply

end Rpc

namespace Interface

def overflow (interface : Interface) (list : RpcList) : SchemaError :=
  .tooManyRpcs interface.name list (interface.rpcs list).length

/-- Checks the length of one list, then its rpcs. -/
def checkRpcs (interface : Interface) (list : RpcList) : Except SchemaError Unit := do
  if (interface.rpcs list).length > list.capacity then
    throw (interface.overflow list)
  checkDistinct Rpc.name Rpc.check (fun rpc => .duplicateRpc interface.name list rpc.name)
    (interface.rpcs list)

/-- Checks the interface's name, then what it sends, then what it receives. -/
def check (interface : Interface) : Except SchemaError Unit := do
  checkIdentifier interface.name
  interface.checkRpcs .sends
  interface.checkRpcs .receives

/-- The rpcs of a list with the opcodes of their requests. -/
def numbered (interface : Interface) (list : RpcList) :
    Except SchemaError (List (Opcode × Rpc)) :=
  (interface.rpcs list).zipIdx.mapM fun (rpc, index) =>
    match list.opcode? index with
    | some opcode => .ok (opcode, rpc)
    | none => .error (interface.overflow list)

end Interface

/-- Checks the interfaces one by one and that no two have the same name. -/
def checkInterfaces (interfaces : List Interface) : Except SchemaError Unit :=
  checkDistinct Interface.name Interface.check (fun interface => .duplicateInterface interface.name)
    interfaces

/-- A set of interfaces that passed every check. -/
structure Definitions where
  interfaces : List Interface
  checked : checkInterfaces interfaces = .ok ()

/-- The interfaces as definitions, if they pass. -/
def Definitions.ofInterfaces (interfaces : List Interface) : Except SchemaError Definitions :=
  match h : checkInterfaces interfaces with
  | .ok () => .ok ⟨interfaces, h⟩
  | .error e => .error e

end Bindery
