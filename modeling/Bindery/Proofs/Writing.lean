import Bindery.Proofs.RoundTrip
import Bindery.Wire.Buffer

/-!
# What is written is read back

**Views** (`Encoder.Emits`). An encoder changes a buffer only by appending to it, and what it
appends and whether it stops early do not depend on the buffer: both are an emission. Writing one
thing after the other emits one emission after the other, so the encoder of every format has the
emission that `encode` gives (`emits_write`).

**Lengths** (`lengths`). A value can be written exactly if the length of every text and sequence in
it, at any depth, can be announced (`fault_encode`).

Main result: `written_read_back`, for one value of a parameter type and for the arguments of a
message.
-/

namespace Bindery

namespace Wire

/-! ## Views -/

/-- Whether an emission stopped early. -/
def Emission.outcome (emission : Emission) : Except TooLong Unit :=
  match emission.fault with
  | none => .ok ()
  | some e => .error e

theorem Emission.outcome_eq_ok_iff {emission : Emission} :
    emission.outcome = .ok () ↔ emission.fault = none := by
  unfold outcome
  cases emission.fault <;> simp

theorem Buffer.append_append (buffer : Buffer) (bytes bytes' : Bytes) :
    buffer ++ bytes ++ bytes' = buffer ++ (bytes ++ bytes') := by
  apply Array.toList_inj.mp
  simp only [Array.toList_appendList, List.append_assoc]

/-- The encoder appends this emission, whatever the buffer holds. -/
def Encoder.Emits (write : Encoder) (emission : Emission) : Prop :=
  ∀ buffer, write buffer = (emission.outcome, buffer ++ emission.bytes)

namespace Encoder

variable {α : Type} {first next : Encoder} {emission emission' : Emission}

theorem emits_put (bytes : Bytes) : (put bytes).Emits ⟨bytes, none⟩ := fun _ => rfl

theorem emits_putLength (length : Nat) : (putLength length).Emits (.ofLength length) := by
  intro buffer
  unfold putLength Emission.ofLength
  split
  · rfl
  · simp [Emission.outcome]

theorem Emits.andThen (hfirst : first.Emits emission) (hnext : next.Emits emission') :
    (first.andThen next).Emits (emission.andThen emission') := by
  intro buffer
  rw [Encoder.andThen, hfirst buffer]
  cases hfault : emission.fault with
  | none =>
    simp [Emission.outcome, Emission.andThen, hfault, hnext (buffer ++ emission.bytes),
      Buffer.append_append]
  | some e => simp [Emission.outcome, Emission.andThen, hfault]

theorem emits_each {write : α → Encoder} {emit : α → Emission}
    (h : ∀ a, (write a).Emits (emit a)) (items : List α) :
    (each write items).Emits (.each emit items) := by
  induction items with
  | nil => intro buffer; simp [each, Emission.each, Emission.outcome]
  | cons a items ih => exact (h a).andThen ih

end Encoder

open Encoder

theorem emits_write (format : Format) (v : format.Value) :
    (write format v).Emits (encode format v) := by
  induction format with
  | u8 => exact emits_put _
  | u16 => exact emits_put _
  | u32 => exact emits_put _
  | i16 => exact emits_put _
  | text => exact (emits_putLength _).andThen (emits_put _)
  | repeated element ih => exact (emits_putLength _).andThen (emits_each ih v)

theorem emits_writeAll (types : List ParamType) (arguments : Arguments types) :
    (writeAll types arguments).Emits (encodeAll types arguments) := by
  induction types with
  | nil => exact emits_put []
  | cons type types ih => exact (emits_write type.format arguments.1).andThen (ih arguments.2)

/-! ## Lengths -/

/-- The lengths of all texts and sequences in a value, a sequence before its elements: of a text
the number of its UTF-8 bytes, of a sequence that of its elements. -/
def lengths : (format : Format) → format.Value → List Nat
  | .text, s => [s.utf8ByteSize]
  | .repeated element, vs => vs.length :: vs.flatMap (lengths element)
  | .u8, _ | .u16, _ | .u32, _ | .i16, _ => []

theorem length_utf8 (s : String) : (utf8 s).length = s.utf8ByteSize := rfl

/-- A value is encoded completely exactly if all lengths in it can be announced. -/
theorem fault_encode (format : Format) (v : format.Value) :
    (encode format v).fault = none ↔ ∀ length ∈ lengths format v, length ≤ maxLength := by
  induction format with
  | u8 => simp [encode, lengths]
  | u16 => simp [encode, lengths]
  | u32 => simp [encode, lengths]
  | i16 => simp [encode, lengths]
  | text =>
    rw [encode, Emission.fault_andThen, Emission.fault_ofLength, length_utf8, lengths,
      List.forall_mem_singleton]
    exact and_iff_left rfl
  | repeated element ih =>
    rw [encode, Emission.fault_andThen, Emission.fault_ofLength, Emission.fault_each, lengths,
      List.forall_mem_cons, List.forall_mem_flatMap]
    simp only [ih]

end Wire

/-- The lengths of all texts and sequences in the arguments, in order. -/
def Arguments.lengths : (types : List ParamType) → Arguments types → List Nat
  | [], () => []
  | type :: types, (v, rest) => Wire.lengths type.format v ++ Arguments.lengths types rest

namespace Wire

theorem fault_encodeAll_iff_lengths (types : List ParamType) (arguments : Arguments types) :
    (encodeAll types arguments).fault = none ↔
      ∀ length ∈ Arguments.lengths types arguments, length ≤ maxLength := by
  induction types with
  | nil => simp [encodeAll, Arguments.lengths]
  | cons type types ih =>
    obtain ⟨v, rest⟩ := arguments
    rw [encodeAll, Emission.fault_andThen, fault_encode, ih rest, Arguments.lengths,
      List.forall_mem_append]

/-! ## Reading back -/

/-- Values are written and read back without loss, unless a length in them is too large. -/
structure Lossless {α : Type} (write : α → Encoder) (read : Decoder α) (lengths : α → List Nat) :
    Prop where
  /-- Writing succeeds exactly if no length exceeds what 16 bits can announce. -/
  succeeds : ∀ v buffer, (write v buffer).1 = .ok () ↔ ∀ length ∈ lengths v, length ≤ 65535
  /-- What is written stands behind what the buffer held, and is read back to its last byte,
  wherever it stands and whatever follows it. -/
  recovers : ∀ v buffer after, write v buffer = (.ok (), after) →
    ∃ bytes : Bytes, after = buffer ++ bytes ∧
      ∀ position rest,
        read ⟨position, bytes ++ rest⟩ = (.ok v, ⟨position + bytes.length, rest⟩)

/-- An encoder that emits what a decoder reads is lossless. -/
theorem lossless_of_emits {α : Type} {write : α → Encoder} {read : Decoder α}
    {lengths : α → List Nat} {emit : α → Emission} (hemits : ∀ v, (write v).Emits (emit v))
    (hfault : ∀ v, (emit v).fault = none ↔ ∀ length ∈ lengths v, length ≤ maxLength)
    (hreads : ∀ v, (emit v).fault = none → read.Reads (emit v).bytes v) :
    Lossless write read lengths where
  succeeds v buffer := by
    rw [hemits v buffer, Emission.outcome_eq_ok_iff]
    exact hfault v
  recovers v buffer after hwrite := by
    rw [hemits v buffer] at hwrite
    obtain ⟨houtcome, hafter⟩ := Prod.mk.inj hwrite
    exact ⟨(emit v).bytes, hafter.symm, hreads v (Emission.outcome_eq_ok_iff.mp houtcome)⟩

/-- **What is written is read back.** This holds of a value of any parameter type, and of the
arguments of a message written and read in order. -/
theorem written_read_back :
    (∀ type : ParamType,
      Lossless (write type.format) (decode type.format) (lengths type.format)) ∧
    (∀ types : List ParamType,
      Lossless (writeAll types) (decodeAll types) (Arguments.lengths types)) :=
  ⟨fun type => lossless_of_emits (emits_write type.format) (fault_encode type.format)
      (reads_encode type.format),
    fun types => lossless_of_emits (emits_writeAll types) (fault_encodeAll_iff_lengths types)
      (reads_encodeAll types)⟩

/-- Two texts, one of them empty, behind an opcode. -/
theorem written_read_back_texts :
    lengths (.repeated .text) ["é", ""] = [2, 2, 0] ∧
    write (.repeated .text) ["é", ""] #[0xff, 0xfe] =
      (.ok (), #[0xff, 0xfe, 0, 2, 0, 2, 0xc3, 0xa9, 0, 0]) ∧
    decode (.repeated .text) ⟨2, [0, 2, 0, 2, 0xc3, 0xa9, 0, 0, 7]⟩ =
      (.ok ["é", ""], ⟨10, [7]⟩) := by
  have hwrite : write (.repeated .text) ["é", ""] #[0xff, 0xfe] =
      (.ok (), #[0xff, 0xfe, 0, 2, 0, 2, 0xc3, 0xa9, 0, 0]) := rfl
  have h := written_read_back.1 (.repeated (.scalar .text))
  obtain ⟨bytes, hbytes, hread⟩ := h.recovers ["é", ""] _ _ hwrite
  have hlist : bytes = [0, 2, 0, 2, 0xc3, 0xa9, 0, 0] := by
    simpa using (congrArg Array.toList hbytes).symm
  rw [hlist] at hread
  exact ⟨by decide +kernel, hwrite, hread 2 [7]⟩

end Wire

end Bindery
