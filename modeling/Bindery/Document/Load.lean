import Bindery.Document.Declaration
import Bindery.Output.FileSystem

/-!
# Loading definitions

Declarations are read first as plain data. Then all types are read, in the order of the document,
and only after that are the interfaces checked; so an unknown type is reported before any other
fault of the definitions.
-/

namespace Bindery

/-- Why a definition file could not be loaded. -/
inductive LoadError where
  | unreadable (path : String) (cause : FileError)
  | malformed (detail : String)
  | missingInterfaces
  | schema (cause : SchemaError)
  deriving DecidableEq, Repr

namespace LoadError

def message : LoadError → String
  | .unreadable path cause => "could not read file " ++ path ++ ": " ++ cause.message
  | .malformed detail => "malformed definition: " ++ detail
  | .missingInterfaces => "must define an 'interfaces' list"
  | .schema cause => cause.message

/-- The faults behind this one, in words, outermost first. -/
def causes : LoadError → List String
  | .unreadable _ cause => [cause.message]
  | .schema cause => [cause.message]
  | .malformed _ | .missingInterfaces => []

end LoadError

def Definitions.ofDeclarations (declarations : List Document.InterfaceDeclaration) :
    Except SchemaError Definitions := do
  Definitions.ofInterfaces (← declarations.mapM Document.InterfaceDeclaration.toInterface)

def Definitions.parse (text : String) : Except LoadError Definitions :=
  match Document.readInterfaces? text with
  | .error fault => .error (.malformed fault.message)
  | .ok none => .error .missingInterfaces
  | .ok (some declarations) => (Definitions.ofDeclarations declarations).mapError .schema

end Bindery
