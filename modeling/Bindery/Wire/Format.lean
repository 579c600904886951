import Bindery.Schema.Type

/-!
# Wire formats

A format says how a value lies in a message. Integers are big-endian. A text is its length in
UTF-8 bytes, as 16 bits, and then those bytes; a sequence is its number of elements, as 16 bits,
and then the elements. Every parameter type has a format; the signed format is that of opcodes.
-/

namespace Bindery

abbrev Bytes := List UInt8

namespace Wire

/-- How a value lies in a message. -/
inductive Format where
  | u8
  | u16
  | u32
  | i16
  | text
  | repeated (element : Format)
  deriving DecidableEq, Repr

/-- The values a format can carry. -/
@[reducible] def Format.Value : Format → Type
  | .u8 => UInt8
  | .u16 => UInt16
  | .u32 => UInt32
  | .i16 => Int16
  | .text => String
  | .repeated element => List element.Value

/-- The largest length a text or sequence can announce. -/
def maxLength : Nat := 0xffff

/-- The `width` lowest base-256 digits of a number, highest first. -/
def bigEndian : (width : Nat) → Nat → Bytes
  | 0, _ => []
  | width + 1, n => bigEndian width (n / 256) ++ [UInt8.ofNat n]

/-- The number with these base-256 digits, highest first. -/
def ofBigEndian (bytes : Bytes) : Nat :=
  bytes.foldl (fun n byte => n * 256 + byte.toNat) 0

def utf8 (text : String) : Bytes :=
  text.toByteArray.data.toList

/-- The text with these UTF-8 bytes, if they are UTF-8. -/
def ofUtf8? (bytes : Bytes) : Option String :=
  String.fromUTF8? ⟨bytes.toArray⟩

end Wire

def Scalar.format : Scalar → Wire.Format
  | .text => .text
  | .u8 => .u8
  | .u16 => .u16
  | .u32 => .u32

def ParamType.format : ParamType → Wire.Format
  | .scalar s => s.format
  | .repeated element => .repeated element.format

/-- The values a parameter of this type can have. -/
@[reducible] def ParamType.Value (type : ParamType) : Type :=
  type.format.Value

/-- Values for a list of parameters, one of each type, in order. -/
@[reducible] def Arguments : List ParamType → Type
  | [] => Unit
  | type :: types => type.Value × Arguments types

end Bindery
