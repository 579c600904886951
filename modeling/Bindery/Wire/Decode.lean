import Bindery.Wire.Format

/-!
# Decoding

A cursor walks over the bytes of a message. Reading either yields a value or says why not, and in
both cases leaves the cursor somewhere: a read that asks for more bytes than are left does not
move, one that fails further in stays behind what it already consumed.
-/

namespace Bindery.Wire

/-- Why bytes could not be read. -/
inductive DecodeError where
  | truncated (needed remaining : Nat)
  | invalidUtf8
  deriving DecidableEq, Repr

def DecodeError.message : DecodeError → String
  | .truncated needed remaining =>
    "truncated message: needed " ++ toString needed ++ " bytes, " ++ toString remaining ++ " left"
  | .invalidUtf8 => "string payload is not valid UTF-8"

/-- A place in a string of bytes: how many were read, and those still to come. -/
structure Cursor where
  position : Nat
  rest : Bytes
  deriving DecidableEq, Repr

namespace Cursor

/-- The cursor before the first byte. -/
def start (bytes : Bytes) : Cursor :=
  ⟨0, bytes⟩

def remaining (cursor : Cursor) : Nat :=
  cursor.rest.length

def isEmpty (cursor : Cursor) : Bool :=
  cursor.rest.isEmpty

end Cursor

/-- A way to read an `α`: the outcome, and the cursor afterwards. -/
def Decoder (α : Type) : Type :=
  Cursor → Except DecodeError α × Cursor

namespace Decoder

variable {α β : Type}

def pure (a : α) : Decoder α :=
  fun cursor => (.ok a, cursor)

/-- Reads with `first`, then with what `next` makes of its value. -/
def bind (first : Decoder α) (next : α → Decoder β) : Decoder β :=
  fun cursor =>
    match first cursor with
    | (.ok a, after) => next a after
    | (.error e, after) => (.error e, after)

instance : Monad Decoder where
  pure := Decoder.pure
  bind := Decoder.bind

section bind

variable {first : Decoder α} {next : α → Decoder β} {before middle after : Cursor}

theorem pure_eq_ok_iff {a b : α} :
    (Pure.pure a : Decoder α) before = (.ok b, after) ↔ a = b ∧ before = after := by
  show (Except.ok a, before) = (.ok b, after) ↔ _
  simp

theorem bind_of_ok {a : α} (h : first before = (.ok a, middle)) :
    (first >>= next) before = next a middle := by
  show Decoder.bind first next before = _
  rw [Decoder.bind, h]

theorem bind_of_error {e : DecodeError} (h : first before = (.error e, middle)) :
    (first >>= next) before = (.error e, middle) := by
  show Decoder.bind first next before = _
  rw [Decoder.bind, h]

theorem bind_eq_ok_iff {b : β} :
    (first >>= next) before = (.ok b, after) ↔
      ∃ a middle, first before = (.ok a, middle) ∧ next a middle = (.ok b, after) := by
  constructor
  · intro h
    match hfirst : first before with
    | (.ok a, middle) => exact ⟨a, middle, rfl, (bind_of_ok hfirst).symm.trans h⟩
    | (.error e, middle) => exact nomatch (bind_of_error hfirst).symm.trans h
  · rintro ⟨a, middle, hfirst, hnext⟩
    exact (bind_of_ok hfirst).trans hnext

theorem bind_eq_error_iff {e : DecodeError} :
    (first >>= next) before = (.error e, after) ↔ first before = (.error e, after) ∨
      ∃ a middle, first before = (.ok a, middle) ∧ next a middle = (.error e, after) := by
  constructor
  · intro h
    match hfirst : first before with
    | (.ok a, middle) => exact .inr ⟨a, middle, rfl, (bind_of_ok hfirst).symm.trans h⟩
    | (.error e', middle) =>
      rw [bind_of_error hfirst] at h
      cases h
      exact .inl rfl
  · rintro (hfirst | ⟨a, middle, hfirst, hnext⟩)
    · exact bind_of_error hfirst
    · exact (bind_of_ok hfirst).trans hnext

end bind

/-- Reads exactly `count` bytes, or stays in place. -/
def take (count : Nat) : Decoder Bytes :=
  fun cursor =>
    let bytes := cursor.rest.take count
    if bytes.length = count then
      (.ok bytes, ⟨cursor.position + count, cursor.rest.drop count⟩)
    else (.error (.truncated count cursor.remaining), cursor)

theorem take_of_le {count : Nat} {cursor : Cursor} (h : count ≤ cursor.rest.length) :
    take count cursor =
      (.ok (cursor.rest.take count), ⟨cursor.position + count, cursor.rest.drop count⟩) :=
  if_pos (List.length_take_of_le h)

theorem take_of_lt {count : Nat} {cursor : Cursor} (h : cursor.rest.length < count) :
    take count cursor = (.error (.truncated count cursor.rest.length), cursor) := by
  refine if_neg ?_
  rw [List.length_take]
  omega

/-- Reads a big-endian number of `width` bytes. -/
def number (width : Nat) : Decoder Nat := do
  let bytes ← take width
  return ofBigEndian bytes

/-- Reads `count` items one after the other; `done` holds those read so far, latest first. -/
def timesFrom (read : Decoder α) : (count : Nat) → (done : List α) → Decoder (List α)
  | 0, done, cursor => (.ok done.reverse, cursor)
  | count + 1, done, cursor =>
    match read cursor with
    | (.ok a, after) => timesFrom read count (a :: done) after
    | (.error e, after) => (.error e, after)

theorem timesFrom_zero (read : Decoder α) (done : List α) :
    timesFrom read 0 done = Pure.pure done.reverse := rfl

theorem timesFrom_succ (read : Decoder α) (count : Nat) (done : List α) :
    timesFrom read (count + 1) done = read >>= fun a => timesFrom read count (a :: done) := rfl

/-- Reads `count` items one after the other. -/
def times (read : Decoder α) (count : Nat) : Decoder (List α) :=
  timesFrom read count []

/-- Reads a text of `count` bytes. -/
def text (count : Nat) : Decoder String := do
  let bytes ← take count
  match ofUtf8? bytes with
  | some s => return s
  | none => fun cursor => (.error .invalidUtf8, cursor)

end Decoder

def decode : (format : Format) → Decoder format.Value
  | .u8 => do return UInt8.ofNat (← Decoder.number 1)
  | .u16 => do return UInt16.ofNat (← Decoder.number 2)
  | .u32 => do return UInt32.ofNat (← Decoder.number 4)
  | .i16 => do return (UInt16.ofNat (← Decoder.number 2)).toInt16
  | .text => do Decoder.text (← Decoder.number 2)
  | .repeated element => do (decode element).times (← Decoder.number 2)

/-- Reads the values of a list of parameters in order. -/
def decodeAll : (types : List ParamType) → Decoder (Arguments types)
  | [] => pure ()
  | type :: types => do
    let v ← decode type.format
    let rest ← decodeAll types
    return (v, rest)

theorem decodeAll_cons_eq_ok_iff {type : ParamType} {types : List ParamType} {v : type.Value}
    {rest : Arguments types} {before after : Cursor} :
    decodeAll (type :: types) before = (.ok (v, rest), after) ↔
      ∃ middle, decode type.format before = (.ok v, middle) ∧
        decodeAll types middle = (.ok rest, after) := by
  constructor
  · intro h
    obtain ⟨v, middle, hv, htail⟩ := Decoder.bind_eq_ok_iff.mp h
    obtain ⟨rest, middle', hrest, hpure⟩ := Decoder.bind_eq_ok_iff.mp htail
    obtain ⟨harguments, rfl⟩ := Decoder.pure_eq_ok_iff.mp hpure
    obtain ⟨rfl, rfl⟩ := Prod.mk.inj harguments
    exact ⟨middle, hv, hrest⟩
  · rintro ⟨middle, hv, hrest⟩
    exact (Decoder.bind_of_ok hv).trans (Decoder.bind_of_ok hrest)

theorem decodeAll_cons_eq_error_iff {type : ParamType} {types : List ParamType}
    {before after : Cursor} {e : DecodeError} :
    decodeAll (type :: types) before = (.error e, after) ↔
      decode type.format before = (.error e, after) ∨
        ∃ v middle, decode type.format before = (.ok v, middle) ∧
          decodeAll types middle = (.error e, after) := by
  constructor
  · intro h
    rcases Decoder.bind_eq_error_iff.mp h with hv | ⟨v, middle, hv, htail⟩
    · exact .inl hv
    · rcases Decoder.bind_eq_error_iff.mp htail with hrest | ⟨_, _, _, hpure⟩
      · exact .inr ⟨v, middle, hv, hrest⟩
      · cases hpure
  · rintro (hv | ⟨v, middle, hv, hrest⟩)
    · exact Decoder.bind_of_error hv
    · exact (Decoder.bind_of_ok hv).trans (Decoder.bind_of_error hrest)

end Bindery.Wire
