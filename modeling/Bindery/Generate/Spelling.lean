import Bindery.Schema.Type

/-!
# Spelling types in an output language

An output language has a spelling for each scalar and one for sequences. Every type then has a
spelling for a variable that owns its value and one for passing it to a routine; large values are
passed by reference.
-/

namespace Bindery

/-- How an output language writes a type. -/
structure Spelling where
  /-- The type of a variable. -/
  simple : String
  /-- The type of a parameter of a routine that sends. -/
  send : String
  /-- The type of a parameter of a routine that receives. -/
  receive : String
  byReference : Bool
  deriving DecidableEq, Repr

namespace Spelling

/-- A type whose values are copied. -/
def copied (name : String) : Spelling :=
  ⟨name, name, name, false⟩

/-- A type whose values are passed by reference. -/
def borrowed (simple reference : String) : Spelling :=
  ⟨simple, reference, reference, true⟩

end Spelling

/-- The type spellings of an output language. -/
structure Dialect where
  scalar : Scalar → Spelling
  /-- The spelling of a sequence, given the type of a variable for its elements. -/
  sequence : String → Spelling

def Dialect.spell (dialect : Dialect) : ParamType → Spelling
  | .scalar s => dialect.scalar s
  | .repeated element => dialect.sequence (dialect.spell element).simple

end Bindery
