import Bindery.Wire.Format

/-!
# Encoding

Encoding appends bytes to a message. It stops at the first text or sequence that is too long to
announce its length; what came before stays written, and nothing of the long item does.
-/

namespace Bindery.Wire

/-- The fault of a text or sequence whose length does not fit 16 bits. -/
structure TooLong where
  length : Nat
  deriving DecidableEq, Repr

def TooLong.message (e : TooLong) : String :=
  "length " ++ toString e.length ++ " does not fit the 16-bit length prefix (max " ++
    toString maxLength ++ ")"

/-- What encoding a value appends, and why it stopped early if it did. -/
structure Emission where
  bytes : Bytes
  fault : Option TooLong := none
  deriving DecidableEq, Repr

namespace Emission

/-- Continues with `next` unless this emission stopped early. -/
def andThen (first next : Emission) : Emission :=
  match first.fault with
  | none => ⟨first.bytes ++ next.bytes, next.fault⟩
  | some _ => first

/-- The emissions of the items one after the other. -/
def each {α : Type} (emit : α → Emission) (items : List α) : Emission :=
  items.foldr (fun item rest => (emit item).andThen rest) ⟨[], none⟩

/-- Announces a length. -/
def ofLength (length : Nat) : Emission :=
  if length ≤ maxLength then ⟨bigEndian 2 length, none⟩ else ⟨[], some ⟨length⟩⟩

/-- The emitted bytes, if nothing stopped the emission. -/
def complete (emission : Emission) : Except TooLong Bytes :=
  match emission.fault with
  | none => .ok emission.bytes
  | some e => .error e

end Emission

def encode : (format : Format) → format.Value → Emission
  | .u8, v => ⟨bigEndian 1 v.toNat, none⟩
  | .u16, v => ⟨bigEndian 2 v.toNat, none⟩
  | .u32, v => ⟨bigEndian 4 v.toNat, none⟩
  | .i16, v => ⟨bigEndian 2 v.toUInt16.toNat, none⟩
  | .text, v => (Emission.ofLength (utf8 v).length).andThen ⟨utf8 v, none⟩
  | .repeated element, vs => (Emission.ofLength vs.length).andThen (.each (encode element) vs)

/-- Encodes the values of a list of parameters in order. -/
def encodeAll : (types : List ParamType) → Arguments types → Emission
  | [], () => ⟨[], none⟩
  | type :: types, (v, rest) => (encode type.format v).andThen (encodeAll types rest)

end Bindery.Wire
