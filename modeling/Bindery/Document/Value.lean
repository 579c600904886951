import Bindery.Document.Token

/-!
# Values of a definition document

A value is a text, `null`, a list or an object. Reading is lenient about punctuation: a comma may
stand before a key or an item and need not, and a colon may stand between a key and its value and
need not. A comma must be followed by a key or an item, though. The containers that are still open
are kept on a stack, and a token changes only its top. Nothing after the first complete value is
looked at.

**Assumed** of the JSON reader: that it is lenient in these ways and no others, so that it takes the
same texts and gives the same values. A document that keeps to the grammar of JSON needs none of
this leniency.
-/

namespace Bindery.Document

inductive Value where
  | null
  | text (text : String)
  | list (items : List Value)
  | object (fields : List (String × Value))

/-- A container part way through, with what it holds so far, latest first. -/
inductive Frame where
  /-- A list before its next item or its end. -/
  | list (items : List Value) (afterComma : Bool)
  /-- An object before its next key or its end. -/
  | key (fields : List (String × Value)) (afterComma : Bool)
  /-- An object between a key and its value. -/
  | value (fields : List (String × Value)) (key : String) (afterColon : Bool)

/-- Where reading stands: inside open containers, innermost first, or behind the whole value. -/
inductive Reading where
  | inside (frames : List Frame)
  | complete (value : Value)

/-- Puts a finished value where one is expected. -/
def Value.place (value : Value) : List Frame → Option Reading
  | [] => some (.complete value)
  | .list items _ :: frames => some (.inside (.list (value :: items) false :: frames))
  | .value fields key _ :: frames => some (.inside (.key ((key, value) :: fields) false :: frames))
  | .key .. :: _ => none

/-- Opens a container where a value is expected. -/
def Frame.opened (frame : Frame) : List Frame → Option Reading
  | .key .. :: _ => none
  | frames => some (.inside (frame :: frames))

def Token.step (token : Token) (frames : List Frame) : Option Reading :=
  match token, frames with
  | .text key, .key fields _ :: frames => some (.inside (.value fields key false :: frames))
  | .text content, frames => (Value.text content).place frames
  | .null, frames => Value.null.place frames
  | .openList, frames => (Frame.list [] false).opened frames
  | .openObject, frames => (Frame.key [] false).opened frames
  | .closeList, .list items false :: frames => (Value.list items.reverse).place frames
  | .closeObject, .key fields false :: frames => (Value.object fields.reverse).place frames
  | .comma, .list items false :: frames => some (.inside (.list items true :: frames))
  | .comma, .key fields false :: frames => some (.inside (.key fields true :: frames))
  | .colon, .value fields key false :: frames => some (.inside (.value fields key true :: frames))
  | _, _ => none

/-- Reads on from inside the open containers to the end of the outermost. -/
def Value.readFrom (frames : List Frame) (cs : List Char) : Option Value :=
  match h : Token.next? cs with
  | none => none
  | some (token, rest) =>
    have : rest.length < cs.length := Token.length_lt_of_next? h
    match token.step frames with
    | none => none
    | some (.complete value) => some value
    | some (.inside frames) => Value.readFrom frames rest
  termination_by cs.length

/-- The first value of a text. -/
def Value.read? (text : String) : Option Value :=
  Value.readFrom [] text.toList

end Bindery.Document
