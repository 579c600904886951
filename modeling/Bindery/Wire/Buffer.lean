import Bindery.Wire.Encode

/-!
# Writing into a buffer

A message is put together in a buffer that grows at its end. An encoder that meets a text or
sequence too long to announce its length stops there, and what it wrote before stays in the
buffer.
-/

namespace Bindery.Wire

/-- The bytes of a message so far. -/
abbrev Buffer := Array UInt8

/-- A way to write: whether all was written, and the buffer afterwards. -/
def Encoder : Type :=
  Buffer → Except TooLong Unit × Buffer

namespace Encoder

def put (bytes : Bytes) : Encoder :=
  fun buffer => (.ok (), buffer ++ bytes)

/-- Writes with `first` and then, unless that stopped early, with `next`. -/
def andThen (first next : Encoder) : Encoder :=
  fun buffer =>
    match first buffer with
    | (.ok (), after) => next after
    | (.error e, after) => (.error e, after)

/-- Writes the items one after the other. -/
def each {α : Type} (write : α → Encoder) : List α → Encoder
  | [], buffer => (.ok (), buffer)
  | item :: items, buffer =>
    match write item buffer with
    | (.ok (), after) => each write items after
    | (.error e, after) => (.error e, after)

/-- Announces a length. -/
def putLength (length : Nat) : Encoder :=
  fun buffer =>
    if length ≤ maxLength then put (bigEndian 2 length) buffer else (.error ⟨length⟩, buffer)

end Encoder

def write : (format : Format) → format.Value → Encoder
  | .u8, v => .put (bigEndian 1 v.toNat)
  | .u16, v => .put (bigEndian 2 v.toNat)
  | .u32, v => .put (bigEndian 4 v.toNat)
  | .i16, v => .put (bigEndian 2 v.toUInt16.toNat)
  | .text, v => (Encoder.putLength (utf8 v).length).andThen (.put (utf8 v))
  | .repeated element, vs => (Encoder.putLength vs.length).andThen (.each (write element) vs)

/-- Writes the values of a list of parameters in order. -/
def writeAll : (types : List ParamType) → Arguments types → Encoder
  | [], () => .put []
  | type :: types, (v, rest) => (write type.format v).andThen (writeAll types rest)

end Bindery.Wire
