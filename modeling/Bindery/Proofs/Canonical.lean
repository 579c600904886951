import Bindery.Proofs.RoundTrip
import Mathlib.Data.List.Induction

/-!
# Every value has one encoding

The converse of reading back: here the bytes come from anywhere, and it is the decoder that
vouches for them.

**Moves** (`Cursor.Moves`). A successful read moves the cursor over some bytes. Reading one thing
after the other moves over the concatenation (`Moves.trans`), so a read can be taken apart along
its binds (`bind_eq_ok_iff`).

**Canonical decoders** (`Decoder.Canonical`). The bytes a successful read moved over are the
complete encoding of the value it yields. For a number this is a digit expansion read back to
front, for a text the fact that UTF-8 bytes are those of the text they make, and a sequence is
taken apart element by element, by induction on the announced count.

Main result: `encoding_unique`.
-/

namespace Bindery.Wire

/-! ## Moves -/

/-- Reading these bytes leads from one cursor to the other. -/
structure Cursor.Moves (before : Cursor) (bytes : Bytes) (after : Cursor) : Prop where
  rest : before.rest = bytes ++ after.rest
  position : after.position = before.position + bytes.length

namespace Cursor

variable {before middle after : Cursor} {bytes bytes' : Bytes}

theorem Moves.refl (cursor : Cursor) : cursor.Moves [] cursor := ⟨rfl, rfl⟩

theorem Moves.trans (h : before.Moves bytes middle) (h' : middle.Moves bytes' after) :
    before.Moves (bytes ++ bytes') after where
  rest := by rw [h.rest, h'.rest, List.append_assoc]
  position := by rw [h'.position, h.position, List.length_append, Nat.add_assoc]

end Cursor

namespace Decoder

variable {α : Type} {before after : Cursor}

theorem moves_of_take {count : Nat} {bytes : Bytes} (h : take count before = (.ok bytes, after)) :
    bytes.length = count ∧ before.Moves bytes after := by
  rcases Nat.lt_or_ge before.rest.length count with hlt | hle
  · rw [take_of_lt hlt] at h
    cases h
  · rw [take_of_le hle] at h
    obtain ⟨hbytes, rfl⟩ := Prod.mk.inj h
    obtain rfl := Except.ok.inj hbytes
    have hlength : (before.rest.take count).length = count := List.length_take_of_le hle
    exact ⟨hlength, (List.take_append_drop count before.rest).symm, by rw [hlength]⟩

/-! ## Numbers -/

theorem ofBigEndian_append (bytes : Bytes) (byte : UInt8) :
    ofBigEndian (bytes ++ [byte]) = ofBigEndian bytes * 256 + byte.toNat := by
  simp only [ofBigEndian, List.foldl_append, List.foldl_cons, List.foldl_nil]

theorem ofBigEndian_lt (bytes : Bytes) : ofBigEndian bytes < 256 ^ bytes.length := by
  induction bytes using List.reverseRecOn with
  | nil => exact Nat.one_pos
  | append_singleton bytes byte ih =>
    have hbyte := byte.toNat_lt
    rw [ofBigEndian_append, List.length_append, List.length_singleton, Nat.pow_succ]
    omega

/-- Digits make a number whose digits they are. -/
theorem bigEndian_ofBigEndian (bytes : Bytes) :
    bigEndian bytes.length (ofBigEndian bytes) = bytes := by
  induction bytes using List.reverseRecOn with
  | nil => rfl
  | append_singleton bytes byte ih =>
    have hbyte := byte.toNat_lt
    have hhigh : (ofBigEndian bytes * 256 + byte.toNat) / 256 = ofBigEndian bytes := by omega
    have hlow : UInt8.ofNat (ofBigEndian bytes * 256 + byte.toNat) = byte := by
      apply UInt8.toNat_inj.mp
      rw [UInt8.toNat_ofNat']
      omega
    rw [ofBigEndian_append, List.length_append, List.length_singleton, bigEndian, hhigh, hlow, ih]

theorem moves_of_number {width n : Nat} (h : number width before = (.ok n, after)) :
    n < 256 ^ width ∧ before.Moves (bigEndian width n) after := by
  obtain ⟨bytes, middle, htake, hpure⟩ := bind_eq_ok_iff.mp h
  obtain ⟨rfl, rfl⟩ := pure_eq_ok_iff.mp hpure
  obtain ⟨rfl, hmoves⟩ := moves_of_take htake
  refine ⟨ofBigEndian_lt bytes, ?_⟩
  rwa [bigEndian_ofBigEndian]

/-- A value that is computed from a number was written as that number. -/
theorem moves_of_number_map {width : Nat} {f : Nat → α} {g : α → Nat} {a : α}
    (hg : ∀ n < 256 ^ width, g (f n) = n)
    (h : (number width >>= fun n => pure (f n)) before = (.ok a, after)) :
    before.Moves (bigEndian width (g a)) after := by
  obtain ⟨n, middle, hnumber, hpure⟩ := bind_eq_ok_iff.mp h
  obtain ⟨rfl, rfl⟩ := pure_eq_ok_iff.mp hpure
  obtain ⟨hn, hmoves⟩ := moves_of_number hnumber
  rwa [hg n hn]

/-! ## Texts and sequences -/

theorem utf8_of_ofUtf8? {bytes : Bytes} {s : String} (h : ofUtf8? bytes = some s) :
    utf8 s = bytes := by
  unfold ofUtf8? String.fromUTF8? at h
  split at h
  · rw [← Option.some.inj h]
    rfl
  · cases h

theorem moves_of_text {count : Nat} {s : String} (h : text count before = (.ok s, after)) :
    (utf8 s).length = count ∧ before.Moves (utf8 s) after := by
  obtain ⟨bytes, middle, htake, hrest⟩ := bind_eq_ok_iff.mp h
  cases hs : ofUtf8? bytes with
  | none =>
    rw [hs] at hrest
    cases hrest
  | some s' =>
    rw [hs] at hrest
    obtain ⟨rfl, rfl⟩ := pure_eq_ok_iff.mp hrest
    rw [utf8_of_ofUtf8? hs]
    exact moves_of_take htake

/-- Each value a decoder yields was completely encoded in the bytes it was read from. -/
def Canonical (read : Decoder α) (emit : α → Emission) : Prop :=
  ∀ before a after, read before = (.ok a, after) →
    (emit a).fault = none ∧ before.Moves (emit a).bytes after

variable {read : Decoder α} {emit : α → Emission}

/-- The items read so far stay in front. -/
theorem moves_of_timesFrom (hread : read.Canonical emit) {count : Nat} {done items : List α}
    (h : timesFrom read count done before = (.ok items, after)) :
    ∃ new, items = done.reverse ++ new ∧ new.length = count ∧
      (∀ a ∈ new, (emit a).fault = none) ∧
      before.Moves (new.flatMap fun a => (emit a).bytes) after := by
  induction count generalizing done before with
  | zero =>
    rw [timesFrom_zero] at h
    obtain ⟨rfl, rfl⟩ := pure_eq_ok_iff.mp h
    exact ⟨[], (List.append_nil _).symm, rfl, nofun, .refl before⟩
  | succ count ih =>
    rw [timesFrom_succ] at h
    obtain ⟨a, middle, ha, hrest⟩ := bind_eq_ok_iff.mp h
    obtain ⟨hfault, hmoves⟩ := hread before a middle ha
    obtain ⟨new, rfl, rfl, hfaults, hmoves'⟩ := ih hrest
    refine ⟨a :: new, by simp, rfl, List.forall_mem_cons.mpr ⟨hfault, hfaults⟩, ?_⟩
    exact hmoves.trans hmoves'

theorem moves_of_times (hread : read.Canonical emit) {count : Nat} {items : List α}
    (h : times read count before = (.ok items, after)) :
    items.length = count ∧ (Emission.each emit items).fault = none ∧
      before.Moves (Emission.each emit items).bytes after := by
  obtain ⟨new, rfl, hlength, hfaults, hmoves⟩ := moves_of_timesFrom hread h
  refine ⟨hlength, Emission.fault_each.mpr hfaults, ?_⟩
  rwa [Emission.bytes_each hfaults]

end Decoder

/-! ## Values -/

open Decoder Emission

/-- What follows an announced length stands behind it. -/
theorem moves_of_ofLength {before middle after : Cursor} {length : Nat} {emission : Emission}
    (hlength : length < 256 ^ 2) (hmoves : before.Moves (bigEndian 2 length) middle)
    (hfault : emission.fault = none) (hmoves' : middle.Moves emission.bytes after) :
    ((ofLength length).andThen emission).fault = none ∧
      before.Moves ((ofLength length).andThen emission).bytes after := by
  have hfits : length ≤ maxLength := Nat.le_of_lt_succ hlength
  have hannounced := fault_ofLength.mpr hfits
  refine ⟨fault_andThen.mpr ⟨hannounced, hfault⟩, ?_⟩
  rw [bytes_andThen hannounced, bytes_ofLength hfits]
  exact hmoves.trans hmoves'

/-- **Encoding undoes decoding.** Whatever bytes a value was read from, they are its encoding. -/
theorem canonical_decode (format : Format) : (decode format).Canonical (encode format) := by
  induction format with
  | u8 =>
    intro before v after h
    exact ⟨rfl, moves_of_number_map (fun n hn => UInt8.toNat_ofNat_of_lt hn) h⟩
  | u16 =>
    intro before v after h
    exact ⟨rfl, moves_of_number_map (fun n hn => UInt16.toNat_ofNat_of_lt hn) h⟩
  | u32 =>
    intro before v after h
    exact ⟨rfl, moves_of_number_map (fun n hn => UInt32.toNat_ofNat_of_lt hn) h⟩
  | i16 =>
    intro before v after h
    refine ⟨rfl, moves_of_number_map (g := fun v : Int16 => v.toUInt16.toNat) (fun n hn => ?_) h⟩
    simpa using hn
  | text =>
    intro before s after h
    obtain ⟨length, middle, hnumber, htext⟩ := bind_eq_ok_iff.mp h
    obtain ⟨hlength, hmoves⟩ := moves_of_number hnumber
    obtain ⟨rfl, hmoves'⟩ := moves_of_text htext
    exact moves_of_ofLength hlength hmoves rfl hmoves'
  | repeated element ih =>
    intro before items after h
    obtain ⟨count, middle, hnumber, hitems⟩ := bind_eq_ok_iff.mp h
    obtain ⟨hcount, hmoves⟩ := moves_of_number hnumber
    obtain ⟨rfl, hfault, hmoves'⟩ := moves_of_times ih hitems
    exact moves_of_ofLength hcount hmoves hfault hmoves'

theorem canonical_decodeAll (types : List ParamType) :
    (decodeAll types).Canonical (encodeAll types) := by
  induction types with
  | nil =>
    intro before arguments after h
    obtain ⟨-, rfl⟩ := pure_eq_ok_iff.mp h
    exact ⟨rfl, .refl before⟩
  | cons type types ih =>
    rintro before ⟨v, rest⟩ after h
    obtain ⟨middle, hv, hrest⟩ := decodeAll_cons_eq_ok_iff.mp h
    obtain ⟨hfault, hmoves⟩ := canonical_decode type.format before v middle hv
    obtain ⟨hfault', hmoves'⟩ := ih middle rest after hrest
    refine ⟨fault_andThen.mpr ⟨hfault, hfault'⟩, ?_⟩
    rw [encodeAll, bytes_andThen hfault]
    exact hmoves.trans hmoves'

/-! ## Unique encodings -/

/-- What a decoder accepts is what an encoder produces, and nothing else. -/
structure UniqueEncoding {α : Type} (emit : α → Emission) (read : Decoder α) : Prop where
  /-- A value is read if and only if the bytes that are consumed are its encoding. -/
  reproduces : ∀ bytes v after, read (.start bytes) = (.ok v, after) ↔
    after.position ≤ bytes.length ∧ after.rest = bytes.drop after.position ∧
      (emit v).complete = .ok (bytes.take after.position)
  /-- Different strings of bytes that are consumed to the end yield different values. -/
  injective : ∀ bytes bytes' v after after',
    read (.start bytes) = (.ok v, after) → after.isEmpty = true →
    read (.start bytes') = (.ok v, after') → after'.isEmpty = true → bytes = bytes'

namespace Decoder

variable {α : Type} {read : Decoder α} {emit : α → Emission} {bytes : Bytes} {v : α}
  {after : Cursor}

theorem Canonical.complete_eq (h : read.Canonical emit)
    (hread : read (.start bytes) = (.ok v, after)) :
    after.position ≤ bytes.length ∧ after.rest = bytes.drop after.position ∧
      (emit v).complete = .ok (bytes.take after.position) := by
  obtain ⟨hfault, hmoves⟩ := h _ v after hread
  have hbytes : bytes = (emit v).bytes ++ after.rest := hmoves.rest
  have hposition : after.position = (emit v).bytes.length := by
    rw [hmoves.position, Cursor.start, Nat.zero_add]
  rw [hposition]
  refine ⟨?_, ?_, complete_eq_ok_iff.mpr ⟨hfault, ?_⟩⟩
  · rw [hbytes, List.length_append]
    exact Nat.le_add_right _ _
  · rw [hbytes, List.drop_left]
  · rw [hbytes, List.take_left]

theorem start_of_complete (hreads : (emit v).fault = none → read.Reads (emit v).bytes v)
    (hle : after.position ≤ bytes.length) (hrest : after.rest = bytes.drop after.position)
    (hcomplete : (emit v).complete = .ok (bytes.take after.position)) :
    read (.start bytes) = (.ok v, after) := by
  obtain ⟨hfault, hbytes⟩ := complete_eq_ok_iff.mp hcomplete
  have hread := hreads hfault 0 after.rest
  rwa [hbytes, hrest, List.take_append_drop, List.length_take_of_le hle, Nat.zero_add,
    ← hrest] at hread

theorem Canonical.uniqueEncoding (h : read.Canonical emit)
    (hreads : ∀ v, (emit v).fault = none → read.Reads (emit v).bytes v) :
    UniqueEncoding emit read where
  reproduces bytes v after :=
    ⟨h.complete_eq, fun ⟨hle, hrest, hcomplete⟩ =>
      start_of_complete (hreads v) hle hrest hcomplete⟩
  injective bytes bytes' v after after' hread hempty hread' hempty' := by
    -- Both strings are the encoding of the value, since nothing is left of either.
    have hwhole : bytes = (emit v).bytes ++ after.rest := (h _ v after hread).2.rest
    have hwhole' : bytes' = (emit v).bytes ++ after'.rest := (h _ v after' hread').2.rest
    rw [hwhole, hwhole', List.isEmpty_iff.mp hempty, List.isEmpty_iff.mp hempty']

end Decoder

/-- **Every value has one encoding.** This holds of the values of any parameter type, and of the
arguments of a message read in order. -/
theorem encoding_unique :
    (∀ type : ParamType, UniqueEncoding (encode type.format) (decode type.format)) ∧
    (∀ types : List ParamType, UniqueEncoding (encodeAll types) (decodeAll types)) :=
  ⟨fun type => (canonical_decode type.format).uniqueEncoding (reads_encode type.format),
    fun types => (canonical_decodeAll types).uniqueEncoding (reads_encodeAll types)⟩

/-- Two texts, one of them empty, and a byte that does not belong to them. -/
theorem encoding_unique_texts :
    ∃ after, decode (.repeated .text) (.start [0, 2, 0, 2, 0xc3, 0xa9, 0, 0, 7]) =
        (.ok ["é", ""], after) ∧
      after.rest = [7] ∧
      (encode (.repeated .text) ["é", ""]).complete = .ok [0, 2, 0, 2, 0xc3, 0xa9, 0, 0] := by
  have hread : decode (.repeated .text) (.start [0, 2, 0, 2, 0xc3, 0xa9, 0, 0, 7]) =
      (.ok ["é", ""], ⟨8, [7]⟩) := by decide +kernel
  have h := encoding_unique.1 (.repeated (.scalar .text))
  exact ⟨_, hread, rfl, ((h.reproduces _ _ _).mp hread).2.2⟩

end Bindery.Wire
