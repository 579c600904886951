import Bindery.Proofs.Writing

/-!
# Where writing stops

A value is written as a tree is walked: a sequence announces its length before its elements are
written, and writing stops where a length cannot be announced. Here the tree is laid flat.

**Items** (`items`). What a value consists of, in the order in which it is written: numbers, texts
and the starts of sequences. Writing a value is writing its items one after the other
(`encode_eq_each`), because emissions that follow each other can be grouped at will
(`Emission.andThen_assoc`).

**The first that is too long.** Items are written up to the first that is too long, and nothing is
written of that one (`each_of_oversized`).

Main results: `stopsExactly_write` for one value of any format and `stopsExactly_writeAll` for the
arguments of a message.
-/

namespace Bindery

namespace Wire

/-! ## Items -/

/-- A part of a value that is written in one go. -/
inductive Item where
  | number (width n : Nat)
  | text (content : String)
  /-- The start of a sequence of this length. -/
  | sequence (length : Nat)
  deriving DecidableEq, Repr

namespace Item

/-- The length that the item announces, if it does. -/
def length? : Item → Option Nat
  | .number .. => none
  | .text content => some content.utf8ByteSize
  | .sequence length => some length

/-- The item announces a length that 16 bits cannot hold. -/
def Oversized (item : Item) : Prop :=
  ∃ length, item.length? = some length ∧ 65535 < length

/-- How the item is written. The elements of a sequence are items of their own. -/
def bytes : Item → Bytes
  | .number width n => bigEndian width n
  | .text content => bigEndian 2 content.utf8ByteSize ++ utf8 content
  | .sequence length => bigEndian 2 length

end Item

/-- The bytes of items one after the other. -/
def bytesOf (items : List Item) : Bytes :=
  items.flatMap Item.bytes

/-- The items of a value in pre-order: a sequence before its elements, these from left to right. -/
def items : (format : Format) → format.Value → List Item
  | .u8, v => [.number 1 v.toNat]
  | .u16, v => [.number 2 v.toNat]
  | .u32, v => [.number 4 v.toNat]
  | .i16, v => [.number 2 v.toUInt16.toNat]
  | .text, content => [.text content]
  | .repeated element, vs => .sequence vs.length :: vs.flatMap (items element)

end Wire

/-- The items of the arguments, in order. -/
def Arguments.items : (types : List ParamType) → Arguments types → List Wire.Item
  | [], () => []
  | type :: types, (v, rest) => Wire.items type.format v ++ Arguments.items types rest

namespace Wire

/-! ## Laying a value flat -/

namespace Emission

variable {α β : Type}

theorem andThen_assoc (first second third : Emission) :
    (first.andThen second).andThen third = first.andThen (second.andThen third) := by
  cases hfirst : first.fault with
  | some e => simp [andThen, hfirst]
  | none =>
    cases hsecond : second.fault with
    | some e => simp [andThen, hfirst, hsecond]
    | none => simp [andThen, hfirst, hsecond]

theorem andThen_nil (emission : Emission) : emission.andThen ⟨[], none⟩ = emission := by
  obtain ⟨bytes, fault⟩ := emission
  cases fault <;> simp [andThen]

theorem each_cons (emit : α → Emission) (a : α) (items : List α) :
    each emit (a :: items) = (emit a).andThen (each emit items) := rfl

theorem each_append (emit : α → Emission) (items items' : List α) :
    each emit (items ++ items') = (each emit items).andThen (each emit items') := by
  induction items with
  | nil => rfl
  | cons a items ih => rw [List.cons_append, each_cons, ih, each_cons, andThen_assoc]

theorem each_flatMap (emit : β → Emission) (parts : α → List β) (items : List α) :
    each emit (items.flatMap parts) = each (fun a => each emit (parts a)) items := by
  induction items with
  | nil => rfl
  | cons a items ih => rw [List.flatMap_cons, each_append, ih, each_cons]

end Emission

/-- Writes one item, unless it is too long. -/
def Item.emission (item : Item) : Emission :=
  match item.length? with
  | none => ⟨item.bytes, none⟩
  | some length => if length ≤ maxLength then ⟨item.bytes, none⟩ else ⟨[], some ⟨length⟩⟩

open Emission

/-- A value is written item by item. -/
theorem encode_eq_each (format : Format) (v : format.Value) :
    encode format v = each Item.emission (items format v) := by
  induction format with
  | u8 => exact (andThen_nil _).symm
  | u16 => exact (andThen_nil _).symm
  | u32 => exact (andThen_nil _).symm
  | i16 => exact (andThen_nil _).symm
  | text =>
    rw [encode, items, each_cons, each, List.foldr_nil, andThen_nil, length_utf8]
    unfold Emission.ofLength Item.emission
    simp only [Item.length?, Item.bytes]
    split <;> rfl
  | repeated element ih =>
    -- The start of a sequence is written apart from its elements.
    have hlength : (Item.sequence v.length).emission = ofLength v.length := rfl
    rw [encode, items, each_cons, each_flatMap, hlength]
    simp only [← ih]

theorem encodeAll_eq_each (types : List ParamType) (arguments : Arguments types) :
    encodeAll types arguments = each Item.emission (Arguments.items types arguments) := by
  induction types with
  | nil => rfl
  | cons type types ih =>
    obtain ⟨v, rest⟩ := arguments
    rw [encodeAll, Arguments.items, each_append, encode_eq_each, ih]

/-! ## The first that is too long -/

namespace Item

variable {item : Item}

theorem emission_of_fits (h : ¬ item.Oversized) : item.emission = ⟨item.bytes, none⟩ := by
  unfold emission
  cases hlength : item.length? with
  | none => rfl
  | some length =>
    have hfits : length ≤ maxLength := Nat.not_lt.mp fun hlong => h ⟨length, hlength, hlong⟩
    simp [hfits]

theorem emission_of_oversized {length : Nat} (hlength : item.length? = some length)
    (hlong : 65535 < length) : item.emission = ⟨[], some ⟨length⟩⟩ := by
  have hnot : ¬ length ≤ maxLength := Nat.not_le.mpr hlong
  simp [emission, hlength, hnot]

end Item

/-- Items that all fit are all written. -/
theorem each_of_fits {items : List Item} (h : ∀ item ∈ items, ¬ item.Oversized) :
    each Item.emission items = ⟨bytesOf items, none⟩ := by
  induction items with
  | nil => rfl
  | cons item items ih =>
    rw [List.forall_mem_cons] at h
    rw [each_cons, Item.emission_of_fits h.1, ih h.2]
    rfl

/-- Writing stops in front of the first item that is too long. -/
theorem each_of_oversized {before later : List Item} {item : Item} {length : Nat}
    (hbefore : ∀ item ∈ before, ¬ item.Oversized) (hlength : item.length? = some length)
    (hlong : 65535 < length) :
    each Item.emission (before ++ item :: later) = ⟨bytesOf before, some ⟨length⟩⟩ := by
  rw [each_append, each_of_fits hbefore, each_cons, Item.emission_of_oversized hlength hlong]
  simp [andThen]

/-- Either all items fit or one is the first that does not. -/
theorem fit_or_first_oversized (items : List Item) :
    (∀ item ∈ items, ¬ item.Oversized) ∨
      ∃ before item later length, items = before ++ item :: later ∧
        (∀ item ∈ before, ¬ item.Oversized) ∧ item.length? = some length ∧ 65535 < length := by
  induction items with
  | nil => exact .inl (by simp)
  | cons item items ih =>
    by_cases hitem : item.Oversized
    · obtain ⟨length, hlength, hlong⟩ := hitem
      exact .inr ⟨[], item, items, length, rfl, by simp, hlength, hlong⟩
    · rcases ih with hfits | ⟨before, first, later, length, rfl, hbefore, hlength, hlong⟩
      · exact .inl (List.forall_mem_cons.mpr ⟨hitem, hfits⟩)
      · exact .inr ⟨item :: before, first, later, length, rfl,
          List.forall_mem_cons.mpr ⟨hitem, hbefore⟩, hlength, hlong⟩

/-- If nothing stopped the items, they all fit and are all written. -/
theorem each_of_complete {items : List Item} (h : (each Item.emission items).fault = none) :
    (∀ item ∈ items, ¬ item.Oversized) ∧ (each Item.emission items).bytes = bytesOf items := by
  rcases fit_or_first_oversized items with hfits | ⟨before, item, later, length, rfl, hbefore,
    hlength, hlong⟩
  · exact ⟨hfits, by rw [each_of_fits hfits]⟩
  · rw [each_of_oversized hbefore hlength hlong] at h
    cases h

/-- What stopped the items is the first that is too long. -/
theorem each_of_fault {items : List Item} {e : TooLong}
    (h : (each Item.emission items).fault = some e) :
    ∃ before item later, items = before ++ item :: later ∧
      (∀ item ∈ before, ¬ item.Oversized) ∧ item.length? = some e.length ∧ 65535 < e.length ∧
      (each Item.emission items).bytes = bytesOf before := by
  rcases fit_or_first_oversized items with hfits | ⟨before, item, later, length, rfl, hbefore,
    hlength, hlong⟩
  · rw [each_of_fits hfits] at h
    cases h
  · rw [each_of_oversized hbefore hlength hlong] at h ⊢
    cases h
    exact ⟨before, item, later, rfl, hbefore, hlength, hlong, rfl⟩

theorem bytes_encodeAll {types : List ParamType} {arguments : Arguments types}
    (h : (encodeAll types arguments).fault = none) :
    (encodeAll types arguments).bytes = bytesOf (Arguments.items types arguments) := by
  rw [encodeAll_eq_each] at h ⊢
  exact (each_of_complete h).2

/-! ## Writing into a buffer -/

/-- Values are written up to the first item that is too long. -/
structure StopsExactly {α : Type} (write : α → Encoder) (items : α → List Item) : Prop where
  /-- What the buffer held stays in front, and what comes behind it does not depend on it. -/
  appends : ∀ v, ∃ outcome, ∃ bytes : Bytes, ∀ buffer, write v buffer = (outcome, buffer ++ bytes)
  /-- If writing succeeds, nothing is too long and every item is written. -/
  completes : ∀ v buffer after, write v buffer = (.ok (), after) →
    (∀ item ∈ items v, ¬ item.Oversized) ∧ after = buffer ++ bytesOf (items v)
  /-- If it fails, the fault is the length of the first item that is too long, and what was
  written is all that comes before this item. -/
  stops : ∀ v buffer e after, write v buffer = (.error e, after) →
    ∃ before item later, items v = before ++ item :: later ∧
      (∀ item ∈ before, ¬ item.Oversized) ∧ item.length? = some e.length ∧ 65535 < e.length ∧
      after = buffer ++ bytesOf before

theorem Emission.outcome_eq_error_iff {emission : Emission} {e : TooLong} :
    emission.outcome = .error e ↔ emission.fault = some e := by
  unfold outcome
  cases emission.fault <;> simp

/-- An encoder that emits one item after the other stops at the first that is too long. -/
theorem stopsExactly_of_emits {α : Type} {write : α → Encoder} {items : α → List Item}
    (h : ∀ v, (write v).Emits (each Item.emission (items v))) : StopsExactly write items where
  appends v := ⟨_, _, h v⟩
  completes v buffer after hwrite := by
    rw [h v buffer] at hwrite
    obtain ⟨houtcome, rfl⟩ := Prod.mk.inj hwrite
    obtain ⟨hfits, hbytes⟩ := each_of_complete (outcome_eq_ok_iff.mp houtcome)
    exact ⟨hfits, by rw [hbytes]⟩
  stops v buffer e after hwrite := by
    rw [h v buffer] at hwrite
    obtain ⟨houtcome, rfl⟩ := Prod.mk.inj hwrite
    obtain ⟨before, item, later, hitems, hbefore, hlength, hlong, hbytes⟩ :=
      each_of_fault (outcome_eq_error_iff.mp houtcome)
    exact ⟨before, item, later, hitems, hbefore, hlength, hlong, by rw [hbytes]⟩

theorem stopsExactly_write (format : Format) : StopsExactly (write format) (items format) :=
  stopsExactly_of_emits fun v => encode_eq_each format v ▸ emits_write format v

theorem stopsExactly_writeAll (types : List ParamType) :
    StopsExactly (writeAll types) (Arguments.items types) :=
  stopsExactly_of_emits fun arguments =>
    encodeAll_eq_each types arguments ▸ emits_writeAll types arguments

end Wire

end Bindery
