import Bindery.Schema.Check

/-!
# Why no code was generated
-/

namespace Bindery

/-- What stands in the way of generating code for an interface. -/
inductive GenerateError where
  | schema (cause : SchemaError)
  | opcodeCollision (interface : String) (opcode : Opcode)
  /-- Two names became the same in the output language. -/
  | nameCollision (interface first second rendered : String)
  /-- A name became something the output language does not allow there. -/
  | unusableName (interface name rendered : String)
  /-- The output refused some of the text. -/
  | refusedText
  deriving DecidableEq, Repr

namespace GenerateError

/-- What the output says when it refuses text. -/
def refusal : String := "an error occurred when formatting an argument"

def message : GenerateError → String
  | .schema cause => cause.message
  | .opcodeCollision interface opcode =>
    "interface " ++ interface ++ ": opcode " ++ opcode.digits ++ " is dispatched more than once"
  | .nameCollision interface first second rendered =>
    "interface " ++ interface ++ ": " ++ first ++ " and " ++ second ++ " both become `" ++
      rendered ++ "`"
  | .unusableName interface name rendered =>
    "interface " ++ interface ++ ": " ++ name ++ " becomes `" ++ rendered ++
      "`, which cannot be used as a name there"
  | .refusedText => "failed to render output: " ++ refusal

/-- The faults behind this one, in words, outermost first. -/
def causes : GenerateError → List String
  | .schema cause => [cause.message]
  | .refusedText => [refusal]
  | .opcodeCollision .. | .nameCollision .. | .unusableName .. => []

end GenerateError

end Bindery
