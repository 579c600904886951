import Bindery.Wire.Decode
import Bindery.Wire.Encode
import Mathlib.Algebra.Group.Nat.Defs

/-!
# Decoding undoes encoding

**Exact reading** (`Decoder.Reads`). A decoder reads a string of bytes exactly if, wherever the
bytes stand and whatever follows them, it consumes just these bytes. Exact readings compose:
reading one after the other reads the concatenation (`Reads.bind`), so every case of the codec is
put together from the same few pieces.

**Complete emissions.** An emission that did not stop early is the concatenation of its parts
(`bytes_andThen`, `bytes_each`), and its parts did not stop early either.

Main results: `reads_encode` for one value of any format, and `reads_encodeAll` for the arguments
of a message.
-/

namespace Bindery.Wire

/-! ## Exact reading -/

/-- The decoder takes these bytes, no more and no less, for this value. -/
def Decoder.Reads {α : Type} (read : Decoder α) (bytes : Bytes) (a : α) : Prop :=
  ∀ position rest, read ⟨position, bytes ++ rest⟩ = (.ok a, ⟨position + bytes.length, rest⟩)

namespace Decoder

variable {α β : Type}

theorem Reads.pure (a : α) : Reads (Pure.pure a) [] a := fun _ _ => rfl

theorem Reads.bind {first : Decoder α} {next : α → Decoder β} {bytes bytes' : Bytes} {a : α}
    {b : β} (hfirst : first.Reads bytes a) (hnext : (next a).Reads bytes' b) :
    (first >>= next).Reads (bytes ++ bytes') b := by
  intro position rest
  show Decoder.bind first next _ = _
  rw [List.append_assoc, Decoder.bind, hfirst position (bytes' ++ rest)]
  show next a _ = _
  rw [hnext, List.length_append, Nat.add_assoc]

/-- A value that is computed from what was read. -/
theorem Reads.map {read : Decoder α} {bytes : Bytes} {a : α} (h : read.Reads bytes a)
    (f : α → β) : Reads (read >>= fun a => Pure.pure (f a)) bytes (f a) := by
  have hread : Reads (read >>= fun a => Pure.pure (f a)) (bytes ++ []) (f a) :=
    h.bind (Reads.pure (f a))
  rwa [List.append_nil] at hread

theorem reads_take (bytes : Bytes) : (take bytes.length).Reads bytes bytes := by
  intro position rest
  simp [take]

/-! ## Numbers -/

theorem length_bigEndian (width n : Nat) : (bigEndian width n).length = width := by
  induction width generalizing n with
  | zero => rfl
  | succ width ih => rw [bigEndian, List.length_append, ih, List.length_singleton]

theorem ofBigEndian_bigEndian {width n : Nat} (h : n < 256 ^ width) :
    ofBigEndian (bigEndian width n) = n := by
  induction width generalizing n with
  | zero => rw [Nat.lt_one_iff.mp h]; rfl
  | succ width ih =>
    have hquotient : n / 256 < 256 ^ width := by
      rw [Nat.div_lt_iff_lt_mul (by decide), ← Nat.pow_succ]
      exact h
    have hdigits := ih hquotient
    simp only [ofBigEndian] at hdigits
    simp only [ofBigEndian, bigEndian, List.foldl_append, List.foldl_cons, List.foldl_nil, hdigits,
      UInt8.toNat_ofNat']
    omega

theorem reads_number {width n : Nat} (h : n < 256 ^ width) :
    (number width).Reads (bigEndian width n) n := by
  have htake := reads_take (bigEndian width n)
  rw [length_bigEndian] at htake
  have hread := htake.map ofBigEndian
  rwa [ofBigEndian_bigEndian h] at hread

/-! ## Texts and sequences -/

theorem ofUtf8?_utf8 (s : String) : ofUtf8? (utf8 s) = some s := by
  rw [ofUtf8?, utf8, Array.toArray_toList, String.fromUTF8?, dif_pos s.isValidUTF8]
  rfl

theorem reads_text (s : String) : (text (utf8 s).length).Reads (utf8 s) s := by
  have hread : (text (utf8 s).length).Reads (utf8 s ++ []) s := by
    refine (reads_take (utf8 s)).bind ?_
    rw [ofUtf8?_utf8]
    exact Reads.pure s
  rwa [List.append_nil] at hread

/-- The items read so far stay in front. -/
theorem reads_timesFrom {read : Decoder α} {bytes : α → Bytes} {items : List α}
    (h : ∀ a ∈ items, read.Reads (bytes a) a) (done : List α) :
    (timesFrom read items.length done).Reads (items.flatMap bytes) (done.reverse ++ items) := by
  induction items generalizing done with
  | nil => intro position rest; simp [timesFrom]
  | cons a items ih =>
    intro position rest
    have hitems := ih (fun b hb => h b (List.mem_cons_of_mem a hb)) (a :: done)
    rw [List.flatMap_cons, List.append_assoc, List.length_cons, timesFrom,
      h a List.mem_cons_self position]
    show timesFrom read items.length (a :: done) _ = _
    rw [hitems, List.reverse_cons, List.append_assoc, List.singleton_append, List.length_append,
      Nat.add_assoc]

theorem reads_times {read : Decoder α} {bytes : α → Bytes} {items : List α}
    (h : ∀ a ∈ items, read.Reads (bytes a) a) :
    (times read items.length).Reads (items.flatMap bytes) items :=
  reads_timesFrom h []

end Decoder

/-! ## Complete emissions -/

namespace Emission

variable {α : Type}

theorem fault_andThen {first next : Emission} :
    (first.andThen next).fault = none ↔ first.fault = none ∧ next.fault = none := by
  unfold andThen
  cases h : first.fault <;> simp [h]

theorem bytes_andThen {first next : Emission} (h : first.fault = none) :
    (first.andThen next).bytes = first.bytes ++ next.bytes := by
  rw [andThen, h]

theorem fault_each {emit : α → Emission} {items : List α} :
    (each emit items).fault = none ↔ ∀ a ∈ items, (emit a).fault = none := by
  induction items with
  | nil => simp [each]
  | cons a items ih =>
    rw [List.forall_mem_cons, ← ih]
    exact fault_andThen

theorem bytes_each {emit : α → Emission} {items : List α}
    (h : ∀ a ∈ items, (emit a).fault = none) :
    (each emit items).bytes = items.flatMap fun a => (emit a).bytes := by
  induction items with
  | nil => rfl
  | cons a items ih =>
    rw [List.flatMap_cons, ← ih fun b hb => h b (List.mem_cons_of_mem a hb)]
    exact bytes_andThen (h a List.mem_cons_self)

theorem fault_ofLength {length : Nat} :
    (ofLength length).fault = none ↔ length ≤ maxLength := by
  unfold ofLength
  split <;> simp_all

theorem bytes_ofLength {length : Nat} (h : length ≤ maxLength) :
    (ofLength length).bytes = bigEndian 2 length := by
  rw [ofLength, if_pos h]

theorem complete_eq_ok_iff {emission : Emission} {bytes : Bytes} :
    emission.complete = .ok bytes ↔ emission.fault = none ∧ emission.bytes = bytes := by
  unfold complete
  cases emission.fault <;> simp

end Emission

/-! ## Values -/

open Decoder Emission

/-- **Decoding undoes encoding.** A value that is encoded completely is read back exactly. -/
theorem reads_encode (format : Format) (v : format.Value) (h : (encode format v).fault = none) :
    (decode format).Reads (encode format v).bytes v := by
  induction format with
  | u8 =>
    have hread := (reads_number (show v.toNat < 256 ^ 1 from v.toNat_lt)).map UInt8.ofNat
    rwa [UInt8.ofNat_toNat] at hread
  | u16 =>
    have hread := (reads_number (show v.toNat < 256 ^ 2 from v.toNat_lt)).map UInt16.ofNat
    rwa [UInt16.ofNat_toNat] at hread
  | u32 =>
    have hread := (reads_number (show v.toNat < 256 ^ 4 from v.toNat_lt)).map UInt32.ofNat
    rwa [UInt32.ofNat_toNat] at hread
  | i16 =>
    have hread := (reads_number (show v.toUInt16.toNat < 256 ^ 2 from v.toUInt16.toNat_lt)).map
      fun n => (UInt16.ofNat n).toInt16
    rwa [UInt16.ofNat_toNat, Int16.toInt16_toUInt16] at hread
  | text =>
    obtain ⟨hlength, -⟩ := fault_andThen.mp h
    have hfits := fault_ofLength.mp hlength
    rw [encode, bytes_andThen hlength, bytes_ofLength hfits]
    exact (reads_number (Nat.lt_succ_of_le hfits)).bind (reads_text v)
  | repeated element ih =>
    obtain ⟨hlength, hitems⟩ := fault_andThen.mp h
    have hfits := fault_ofLength.mp hlength
    have hfaults := fault_each.mp hitems
    rw [encode, bytes_andThen hlength, bytes_ofLength hfits, bytes_each hfaults]
    exact (reads_number (Nat.lt_succ_of_le hfits)).bind
      (reads_times fun item hitem => ih item (hfaults item hitem))

end Bindery.Wire

namespace Bindery

/-! ## Arguments -/

/-- All values of a list of arguments meet a condition. -/
def Arguments.All (condition : (type : ParamType) → type.Value → Prop) :
    (types : List ParamType) → Arguments types → Prop
  | [], () => True
  | type :: types, (v, rest) => condition type v ∧ Arguments.All condition types rest

/-- Each of the arguments, by itself, can be encoded. -/
def Arguments.Encodable (types : List ParamType) (arguments : Arguments types) : Prop :=
  Arguments.All (fun type v => ∃ bytes, (Wire.encode type.format v).complete = .ok bytes) types
    arguments

namespace Wire

open Decoder Emission

/-- Arguments are encoded completely if each of them is. -/
theorem fault_encodeAll (types : List ParamType) (arguments : Arguments types) :
    (encodeAll types arguments).fault = none ↔ Arguments.Encodable types arguments := by
  induction types with
  | nil => exact ⟨fun _ => trivial, fun _ => rfl⟩
  | cons type types ih =>
    obtain ⟨v, rest⟩ := arguments
    have hv : (encode type.format v).fault = none ↔
        ∃ bytes, (encode type.format v).complete = .ok bytes := by
      simp [complete_eq_ok_iff]
    rw [encodeAll, fault_andThen, ih rest, hv]
    rfl

theorem reads_encodeAll (types : List ParamType) (arguments : Arguments types)
    (h : (encodeAll types arguments).fault = none) :
    (decodeAll types).Reads (encodeAll types arguments).bytes arguments := by
  induction types with
  | nil => exact Reads.pure ()
  | cons type types ih =>
    obtain ⟨v, rest⟩ := arguments
    obtain ⟨hv, hrest⟩ := fault_andThen.mp h
    rw [encodeAll, bytes_andThen hv]
    exact (reads_encode type.format v hv).bind ((ih rest hrest).map fun rest => (v, rest))

end Wire

end Bindery
