import Bindery.Text.Lines

/-!
# Parameter types

A parameter is a text, an unsigned integer of one of three widths, or a sequence of some other
type. Definitions spell a type as a keyword or as `repeated<…>` around another spelling, with any
white space around each spelling.
-/

namespace Bindery

/-- The types that are not sequences. -/
inductive Scalar where
  | text
  | u8
  | u16
  | u32
  deriving DecidableEq, Repr

namespace Scalar

/-- All scalars, in the order they are listed to users. -/
def all : List Scalar := [.text, .u8, .u16, .u32]

def keyword : Scalar → String
  | .text => "string"
  | .u8 => "u8"
  | .u16 => "u16"
  | .u32 => "u32"

def ofKeyword? (cs : List Char) : Option Scalar :=
  all.find? fun s => s.keyword.toList == cs

end Scalar

/-- What a parameter carries. -/
inductive ParamType where
  | scalar (scalar : Scalar)
  | repeated (element : ParamType)
  deriving DecidableEq, Repr

namespace ParamType

/-- The scalar inside all sequences. -/
def innermost : ParamType → Scalar
  | .scalar s => s
  | .repeated element => element.innermost

/-- The type as a definition spells it, without white space. -/
def spelling : ParamType → String
  | .scalar s => s.keyword
  | .repeated element => "repeated<" ++ element.spelling ++ ">"

/-- The mark that opens the spelling of a sequence type. -/
def opening : List Char := "repeated<".toList

/-- What stands between `repeated<` and the last character, if that is `>`. -/
def elementSpelling? (cs : List Char) : Option (List Char) :=
  if opening.isPrefixOf cs && (cs.drop opening.length).getLast? == some '>' then
    some (cs.drop opening.length).dropLast
  else none

/-- The spelling of an element type is shorter than that of its sequence. -/
theorem length_lt_of_elementSpelling? {cs inner : List Char}
    (h : elementSpelling? cs = some inner) : inner.length < cs.length := by
  unfold elementSpelling? at h
  split at h
  · rename_i found
    simp only [Bool.and_eq_true, beq_iff_eq] at found
    have hne : cs.drop opening.length ≠ [] := by
      intro empty
      simp [empty] at found
    have pos := List.length_pos_iff.mpr hne
    obtain rfl := Option.some.inj h
    rw [List.length_dropLast]
    rw [List.length_drop] at pos ⊢
    omega
  · cases h

/-- The type a text spells, if it spells one. -/
def ofSpelling? (cs : List Char) : Option ParamType :=
  match h : elementSpelling? (Text.trim cs) with
  | some inner =>
    have : inner.length < cs.length :=
      Nat.lt_of_lt_of_le (length_lt_of_elementSpelling? h) (Text.length_trim_le cs)
    (ofSpelling? inner).map .repeated
  | none => (Scalar.ofKeyword? (Text.trim cs)).map .scalar
  termination_by cs.length

end ParamType

end Bindery
