import Bindery.Document.Value
import Bindery.Schema.Check

/-!
# Declarations

A definition document is an object with a list of interfaces. Interfaces and rpcs have a name and
two lists that may be left out; parameters have a name and the spelling of a type. `null` in a
field stands for the empty text or the empty list. Fields come in any order, and a field that is
not expected is a fault.

**Assumed** of the JSON reader: that it fills declarations field by field in this way, and refuses
fields that are unknown, missing or of the wrong kind. Which fault of several it names, and in what
words, is not; nor is what it does with a field that appears twice.
-/

namespace Bindery.Document

/-- Why a document is not a set of declarations. -/
inductive Fault where
  | illFormed
  | notAnObject
  | unknownField (name : String)
  | repeatedField (name : String)
  | missingField (name : String)
  | wrongKind (field : String)
  deriving DecidableEq, Repr

def Fault.message : Fault → String
  | .illFormed => "the document is not well formed"
  | .notAnObject => "expected an object"
  | .unknownField name => "unknown field " ++ Text.quote name
  | .repeatedField name => "field " ++ Text.quote name ++ " appears more than once"
  | .missingField name => "missing field " ++ Text.quote name
  | .wrongKind field => "field " ++ Text.quote field ++ " has the wrong kind of value"

structure ParameterDeclaration where
  name : String
  type : String
  deriving DecidableEq, Repr

structure RpcDeclaration where
  name : String
  request : List ParameterDeclaration
  reply : List ParameterDeclaration
  deriving DecidableEq, Repr

structure InterfaceDeclaration where
  name : String
  sends : List RpcDeclaration
  receives : List RpcDeclaration
  deriving DecidableEq, Repr

/-! ## Reading declarations -/

/-- The fields of an object that has no fields but those `known`, and none twice. -/
def fields (known : List String) : Value → Except Fault (List (String × Value))
  | .object fields => do
    checkDistinct Prod.fst
      (fun field => if known.contains field.1 then .ok () else .error (.unknownField field.1))
      (fun field => .repeatedField field.1) fields
    return fields
  | _ => .error .notAnObject

/-- A text field, which has to be there. -/
def textField (fields : List (String × Value)) (name : String) : Except Fault String :=
  match fields.lookup name with
  | some (.text content) => .ok content
  | some .null => .ok ""
  | some _ => .error (.wrongKind name)
  | none => .error (.missingField name)

/-- A list field, if it is there. -/
def listField? {α : Type} (item : Value → Except Fault α) (fields : List (String × Value))
    (name : String) : Except Fault (Option (List α)) :=
  match fields.lookup name with
  | some (.list items) => some <$> items.mapM item
  | some .null | none => .ok none
  | some _ => .error (.wrongKind name)

/-- A list field, which is empty if it is left out. -/
def listField {α : Type} (item : Value → Except Fault α) (fields : List (String × Value))
    (name : String) : Except Fault (List α) :=
  (·.getD []) <$> listField? item fields name

def ParameterDeclaration.ofValue (value : Value) : Except Fault ParameterDeclaration := do
  let fields ← fields ["name", "type"] value
  return { name := ← textField fields "name", type := ← textField fields "type" }

def RpcDeclaration.ofValue (value : Value) : Except Fault RpcDeclaration := do
  let fields ← fields ["name", "sends", "receives"] value
  return {
    name := ← textField fields "name"
    request := ← listField ParameterDeclaration.ofValue fields "sends"
    reply := ← listField ParameterDeclaration.ofValue fields "receives" }

def InterfaceDeclaration.ofValue (value : Value) : Except Fault InterfaceDeclaration := do
  let fields ← fields ["name", "sends", "receives"] value
  return {
    name := ← textField fields "name"
    sends := ← listField RpcDeclaration.ofValue fields "sends"
    receives := ← listField RpcDeclaration.ofValue fields "receives" }

/-- Reads the interfaces of a document, if it lists any. -/
def readInterfaces? (text : String) : Except Fault (Option (List InterfaceDeclaration)) := do
  match Value.read? text with
  | none => throw .illFormed
  | some value =>
    listField? InterfaceDeclaration.ofValue (← fields ["interfaces"] value) "interfaces"

/-! ## From declarations to interfaces -/

def ParameterDeclaration.toParameter (declaration : ParameterDeclaration) :
    Except SchemaError Parameter :=
  return { name := declaration.name, type := ← ParamType.parse declaration.type }

def RpcDeclaration.toRpc (declaration : RpcDeclaration) : Except SchemaError Rpc :=
  return {
    name := declaration.name
    request := ← declaration.request.mapM ParameterDeclaration.toParameter
    reply := ← declaration.reply.mapM ParameterDeclaration.toParameter }

def InterfaceDeclaration.toInterface (declaration : InterfaceDeclaration) :
    Except SchemaError Interface :=
  return {
    name := declaration.name
    sends := ← declaration.sends.mapM RpcDeclaration.toRpc
    receives := ← declaration.receives.mapM RpcDeclaration.toRpc }

end Bindery.Document
