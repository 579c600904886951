import Bindery.Proofs.Canonical
import Bindery.Proofs.Prefix

/-!
# Cursors stay inside and move on

A cursor is asked for bytes, for arrays and for values, in any order, and the calls go on after a
failure from wherever it left the cursor. Wherever that is, it is a place in the data.

**Places** (`Cursor.In`). A cursor over some data has as much of it left as its position says. A
read moves the cursor over bytes that were left (`Built.moves`), so it can only go from one place to
a later one, and a read that is told how many bytes are left is told the truth
(`Built.truncated`). Both hold of taking bytes and pass from the parts of a read to the whole.

**Requests** (`Asks`). Reading a value comes down to requests for bytes, the first where the call
starts and the others further on. Each is made at a place in the data, so it is either granted in
full or refused with the cursor in place, and a value that is cut short names the request that
was refused (`asks_of_truncated`).

**Progress.** A value takes at least one byte (`lt_position_of_decode`), whatever its format. So a
sequence that was read had no more items than bytes behind its count, which is why as much room as
there are bytes left is enough for them.

Main result: `cursor_safe`.
-/

namespace Bindery.Wire

open Decoder

/-! ## Places -/

/-- The cursor stands at its position in the data. -/
structure Cursor.In (data : Bytes) (cursor : Cursor) : Prop where
  position : cursor.position ≤ data.length
  rest : cursor.rest = data.drop cursor.position

namespace Cursor

variable {data bytes : Bytes} {cursor after : Cursor}

theorem in_start (data : Bytes) : (start data).In data :=
  ⟨Nat.zero_le _, rfl⟩

theorem In.length_rest (h : cursor.In data) :
    cursor.rest.length = data.length - cursor.position := by
  rw [h.rest, List.length_drop]

theorem Moves.position_le (h : cursor.Moves bytes after) : cursor.position ≤ after.position := by
  rw [h.position]
  exact Nat.le_add_right _ _

theorem Moves.length_rest (h : cursor.Moves bytes after) :
    cursor.rest.length = bytes.length + after.rest.length := by
  rw [h.rest, List.length_append]

/-- Moving over bytes leads from one place in the data to another. -/
theorem In.moves (h : cursor.In data) (hmoves : cursor.Moves bytes after) : after.In data := by
  have hbytes : data.drop cursor.position = bytes ++ after.rest := h.rest.symm.trans hmoves.rest
  have hlength := hmoves.length_rest
  have hin := h.position
  rw [h.length_rest] at hlength
  refine ⟨?_, ?_⟩
  · rw [hmoves.position]
    omega
  · rw [hmoves.position, ← List.drop_drop, hbytes, List.drop_left]

end Cursor

namespace Decoder

variable {α : Type} {read : Decoder α}

/-- A read moves over bytes that are left, whether it succeeds or not. -/
theorem Built.moves (h : read.Built) (cursor : Cursor) :
    ∃ bytes, cursor.Moves bytes (read cursor).2 := by
  induction h generalizing cursor with
  | pure a => exact ⟨[], .refl cursor⟩
  | refuse => exact ⟨[], .refl cursor⟩
  | take count =>
    by_cases hle : count ≤ cursor.rest.length
    · rw [take_of_le hle]
      exact ⟨_, (moves_of_take (take_of_le hle)).2⟩
    · rw [take_of_lt (Nat.lt_of_not_le hle)]
      exact ⟨[], .refl cursor⟩
  | @bind _ _ first next _ _ ihfirst ihnext =>
    obtain ⟨bytes, hfirst⟩ := ihfirst cursor
    rcases hrun : first cursor with ⟨result, middle⟩
    rw [hrun] at hfirst
    cases result with
    | error e => exact ⟨bytes, by rwa [bind_of_error hrun]⟩
    | ok a =>
      obtain ⟨bytes', hnext⟩ := ihnext a middle
      rw [bind_of_ok hrun]
      exact ⟨bytes ++ bytes', hfirst.trans hnext⟩

/-- A read that is cut short says how many bytes are left where it stopped, and that it needed
more. -/
theorem Built.truncated (h : read.Built) {cursor after : Cursor} {needed remaining : Nat}
    (hread : read cursor = (.error (.truncated needed remaining), after)) :
    remaining < needed ∧ remaining = after.rest.length := by
  induction h generalizing cursor with
  | pure a => cases hread
  | refuse => cases hread
  | take count =>
    by_cases hle : count ≤ cursor.rest.length
    · rw [take_of_le hle] at hread
      cases hread
    · have hlt := Nat.lt_of_not_le hle
      rw [take_of_lt hlt] at hread
      cases hread
      exact ⟨hlt, rfl⟩
  | @bind _ _ first next _ _ ihfirst ihnext =>
    rcases hrun : first cursor with ⟨result, middle⟩
    cases result with
    | error e =>
      rw [bind_of_error hrun] at hread
      cases hread
      exact ihfirst hrun
    | ok a =>
      rw [bind_of_ok hrun] at hread
      exact ihnext a hread

end Decoder

/-! ## Requests -/

/-- The number of bytes of an integer format. -/
def Format.width? : Format → Option Nat
  | .u8 => some 1
  | .u16 | .i16 => some 2
  | .u32 => some 4
  | .text | .repeated _ => none

/-- Reading a value from the cursor comes to ask for so many bytes at some point. -/
inductive Asks : Format → Cursor → Nat → Cursor → Prop where
  | integer {format : Format} {width : Nat} {cursor : Cursor} (h : format.width? = some width) :
      Asks format cursor width cursor
  | textLength {cursor : Cursor} : Asks .text cursor 2 cursor
  | textBytes {cursor point : Cursor} {count : Nat} (h : number 2 cursor = (.ok count, point)) :
      Asks .text cursor count point
  | itemCount {element : Format} {cursor : Cursor} : Asks (.repeated element) cursor 2 cursor
  /-- An item is read behind those before it. -/
  | item {element : Format} {cursor first here point : Cursor} {count index size : Nat}
      {items : List element.Value} (hcount : number 2 cursor = (.ok count, first))
      (hindex : index < count) (hbefore : (decode element).times index first = (.ok items, here))
      (h : Asks element here size point) : Asks (.repeated element) cursor size point

theorem built_times (format : Format) (count : Nat) : ((decode format).times count).Built :=
  built_timesFrom (built_decode format) count []

/-- A request is made where the reading started or further on. -/
theorem Asks.moves {format : Format} {cursor point : Cursor} {count : Nat}
    (h : Asks format cursor count point) : ∃ bytes, cursor.Moves bytes point := by
  induction h with
  | integer => exact ⟨[], .refl _⟩
  | textLength => exact ⟨[], .refl _⟩
  | itemCount => exact ⟨[], .refl _⟩
  | @textBytes cursor point count h =>
    obtain ⟨bytes, hmoves⟩ := (built_number 2).moves cursor
    rw [h] at hmoves
    exact ⟨bytes, hmoves⟩
  | @item element cursor first here point count index size items hcount _ hbefore _ ih =>
    obtain ⟨bytes, hfirst⟩ := (built_number 2).moves cursor
    obtain ⟨bytes', hhere⟩ := (built_times element index).moves first
    obtain ⟨bytes'', hpoint⟩ := ih
    rw [hcount] at hfirst
    rw [hbefore] at hhere
    exact ⟨bytes ++ bytes' ++ bytes'', (hfirst.trans hhere).trans hpoint⟩

/-- A list of items that cannot be read breaks off at one of them, after some that could. -/
theorem exists_of_timesFrom_error {α : Type} {read : Decoder α} {count : Nat} {done : List α}
    {cursor after : Cursor} {e : DecodeError}
    (h : timesFrom read count done cursor = (.error e, after)) :
    ∃ index items here, index < count ∧ timesFrom read index done cursor = (.ok items, here) ∧
      read here = (.error e, after) := by
  induction count generalizing done cursor with
  | zero =>
    rw [timesFrom_zero] at h
    cases h
  | succ count ih =>
    rw [timesFrom_succ] at h
    rcases hread : read cursor with ⟨result, middle⟩
    cases result with
    | error e' =>
      rw [bind_of_error hread] at h
      cases h
      exact ⟨0, _, cursor, Nat.succ_pos _, rfl, hread⟩
    | ok a =>
      rw [bind_of_ok hread] at h
      obtain ⟨index, items, here, hindex, hbefore, hhere⟩ := ih h
      refine ⟨index + 1, items, here, Nat.succ_lt_succ hindex, ?_, hhere⟩
      rw [timesFrom_succ, bind_of_ok hread, hbefore]

theorem eq_of_take_error {count : Nat} {cursor after : Cursor} {e : DecodeError}
    (h : take count cursor = (.error e, after)) :
    e = .truncated count cursor.rest.length ∧ after = cursor := by
  by_cases hle : count ≤ cursor.rest.length
  · rw [take_of_le hle] at h
    cases h
  · rw [take_of_lt (Nat.lt_of_not_le hle)] at h
    cases h
    exact ⟨rfl, rfl⟩

theorem eq_of_number_error {width : Nat} {cursor after : Cursor} {e : DecodeError}
    (h : number width cursor = (.error e, after)) :
    e = .truncated width cursor.rest.length ∧ after = cursor := by
  rcases bind_eq_error_iff.mp h with htake | ⟨_, _, _, hpure⟩
  · exact eq_of_take_error htake
  · cases hpure

/-- A text is not cut short once its bytes are there. -/
theorem eq_of_text_truncated {count needed remaining : Nat} {cursor after : Cursor}
    (h : text count cursor = (.error (.truncated needed remaining), after)) :
    needed = count ∧ after = cursor := by
  rcases bind_eq_error_iff.mp h with htake | ⟨bytes, _, _, hrest⟩
  · obtain ⟨he, rfl⟩ := eq_of_take_error htake
    cases he
    exact ⟨rfl, rfl⟩
  · cases hs : ofUtf8? bytes with
    | none =>
      rw [hs] at hrest
      cases hrest
    | some s =>
      rw [hs] at hrest
      cases hrest

/-- A value that is cut short was refused a request where the cursor now stands. -/
theorem asks_of_truncated {format : Format} {cursor after : Cursor} {needed remaining : Nat}
    (h : decode format cursor = (.error (.truncated needed remaining), after)) :
    Asks format cursor needed after := by
  induction format generalizing cursor with
  | u8 | u16 | u32 | i16 =>
    rcases bind_eq_error_iff.mp h with hnumber | ⟨_, _, _, hpure⟩
    · obtain ⟨he, rfl⟩ := eq_of_number_error hnumber
      cases he
      exact .integer rfl
    · cases hpure
  | text =>
    rcases bind_eq_error_iff.mp h with hnumber | ⟨count, point, hnumber, htext⟩
    · obtain ⟨he, rfl⟩ := eq_of_number_error hnumber
      cases he
      exact .textLength
    · obtain ⟨rfl, rfl⟩ := eq_of_text_truncated htext
      exact .textBytes hnumber
  | repeated element ih =>
    rcases bind_eq_error_iff.mp h with hnumber | ⟨count, first, hnumber, hitems⟩
    · obtain ⟨he, rfl⟩ := eq_of_number_error hnumber
      cases he
      exact .itemCount
    · obtain ⟨index, items, here, hindex, hbefore, hitem⟩ := exists_of_timesFrom_error hitems
      exact .item hnumber hindex hbefore (ih hitem)

/-! ## Progress -/

theorem position_of_number {width n : Nat} {cursor after : Cursor}
    (h : number width cursor = (.ok n, after)) : after.position = cursor.position + width := by
  rw [(moves_of_number h).2.position, length_bigEndian]

/-- **Progress.** A value takes at least one byte. -/
theorem lt_position_of_decode {format : Format} {cursor after : Cursor} {v : format.Value}
    (h : decode format cursor = (.ok v, after)) : cursor.position < after.position := by
  -- Every format starts with a number, and nothing after it moves back.
  obtain ⟨width, n, middle, next, hwidth, hnumber, hbuilt, hnext⟩ :
      ∃ width n middle, ∃ next : Decoder format.Value, 0 < width ∧
        number width cursor = (.ok n, middle) ∧ next.Built ∧ next middle = (.ok v, after) := by
    cases format with
    | u8 | u16 | u32 | i16 =>
      obtain ⟨n, middle, hnumber, hnext⟩ := bind_eq_ok_iff.mp h
      exact ⟨_, n, middle, _, by decide, hnumber, .pure _, hnext⟩
    | text =>
      obtain ⟨n, middle, hnumber, hnext⟩ := bind_eq_ok_iff.mp h
      exact ⟨_, n, middle, _, by decide, hnumber, built_text n, hnext⟩
    | repeated element =>
      obtain ⟨n, middle, hnumber, hnext⟩ := bind_eq_ok_iff.mp h
      exact ⟨_, n, middle, _, by decide, hnumber, built_times element n, hnext⟩
  obtain ⟨bytes, hmoves⟩ := hbuilt.moves middle
  rw [hnext] at hmoves
  have hmiddle := position_of_number hnumber
  have hle := hmoves.position_le
  dsimp only at hle
  omega

/-- Items that take at least one byte each take as many bytes as there are items. -/
theorem position_of_timesFrom {format : Format} {count : Nat} {done items : List format.Value}
    {cursor after : Cursor}
    (h : timesFrom (decode format) count done cursor = (.ok items, after)) :
    cursor.position + count ≤ after.position := by
  induction count generalizing done cursor with
  | zero =>
    rw [timesFrom_zero] at h
    obtain ⟨-, rfl⟩ := pure_eq_ok_iff.mp h
    exact Nat.le_refl _
  | succ count ih =>
    rw [timesFrom_succ] at h
    obtain ⟨v, middle, hv, hrest⟩ := bind_eq_ok_iff.mp h
    have hfirst := lt_position_of_decode hv
    have hothers := ih hrest
    omega

/-- A sequence that was read has no more items than there were bytes behind its count. -/
theorem length_of_decode_repeated {element : Format} {cursor after : Cursor}
    {items : List element.Value} (h : decode (.repeated element) cursor = (.ok items, after)) :
    ∃ count first, number 2 cursor = (.ok count, first) ∧ items.length = count ∧
      count ≤ first.remaining := by
  obtain ⟨count, first, hnumber, hitems⟩ := bind_eq_ok_iff.mp h
  obtain ⟨hlength, -, hmoves⟩ := moves_of_times (canonical_decode element) hitems
  have htaken := position_of_timesFrom hitems
  have hbytes := hmoves.length_rest
  rw [hmoves.position] at htaken
  refine ⟨count, first, hnumber, hlength, ?_⟩
  rw [Cursor.remaining]
  omega

/-! ## Calls -/

/-- Something to ask of a cursor. -/
inductive Call where
  | take (count : Nat)
  /-- As many bytes as the array is long. -/
  | array (width : Nat)
  | decode (format : Format)

namespace Call

/-- What the call is answered with. -/
@[reducible] def Value : Call → Type
  | .take _ | .array _ => Bytes
  | .decode format => format.Value

def read : (call : Call) → Decoder call.Value
  | .take count | .array count => Decoder.take count
  | .decode format => Wire.decode format

/-- The call comes to ask for so many bytes at some point. -/
def Asks (cursor : Cursor) (count : Nat) (point : Cursor) : Call → Prop
  | .take size | .array size => count = size ∧ point = cursor
  | .decode format => Wire.Asks format cursor count point

/-- Whether the call asks for bytes just once: for the bytes themselves, or for an integer. -/
def isSingle : Call → Bool
  | .take _ | .array _ => true
  | .decode format => format.width?.isSome

/-- The cursor after these calls, whatever came of each. -/
def runAll (cursor : Cursor) (calls : List Call) : Cursor :=
  calls.foldl (fun cursor call => (call.read cursor).2) cursor

theorem built_read (call : Call) : call.read.Built := by
  cases call with
  | take count => exact .take count
  | array width => exact .take width
  | decode format => exact built_decode format

theorem moves_of_asks {call : Call} {cursor point : Cursor} {count : Nat}
    (h : call.Asks cursor count point) : ∃ bytes, cursor.Moves bytes point := by
  cases call with
  | take size | array size => exact ⟨[], h.2 ▸ .refl cursor⟩
  | decode format => exact Wire.Asks.moves h

theorem asks_of_truncated {call : Call} {cursor after : Cursor} {needed remaining : Nat}
    (h : call.read cursor = (.error (.truncated needed remaining), after)) :
    call.Asks cursor needed after := by
  cases call with
  | take size | array size =>
    obtain ⟨he, rfl⟩ := eq_of_take_error h
    cases he
    exact ⟨rfl, rfl⟩
  | decode format => exact Wire.asks_of_truncated h

/-- Bytes or an integer that cannot be had leave the cursor in place. -/
theorem eq_of_single_error {call : Call} (hsingle : call.isSingle = true) {cursor after : Cursor}
    {e : DecodeError} (h : call.read cursor = (.error e, after)) : after = cursor := by
  cases call with
  | take size | array size => exact (eq_of_take_error h).2
  | decode format =>
    cases format with
    | u8 | u16 | u32 | i16 =>
      rcases bind_eq_error_iff.mp h with hnumber | ⟨_, _, _, hpure⟩
      · exact (eq_of_number_error hnumber).2
      · cases hpure
    | text | repeated element => cases hsingle

/-- One call leads from a place in the data to another. -/
theorem in_read {data : Bytes} {cursor : Cursor} (h : cursor.In data) (call : Call) :
    (call.read cursor).2.In data := by
  obtain ⟨bytes, hmoves⟩ := call.built_read.moves cursor
  exact h.moves hmoves

theorem position_le_read (cursor : Cursor) (call : Call) :
    cursor.position ≤ (call.read cursor).2.position := by
  obtain ⟨bytes, hmoves⟩ := call.built_read.moves cursor
  exact hmoves.position_le

/-- **Runs.** So do any number of calls. -/
theorem in_runAll {data : Bytes} {cursor : Cursor} (h : cursor.In data) (calls : List Call) :
    (runAll cursor calls).In data := by
  induction calls generalizing cursor with
  | nil => exact h
  | cons call calls ih => exact ih (in_read h call)

theorem position_le_runAll (cursor : Cursor) (calls : List Call) :
    cursor.position ≤ (runAll cursor calls).position := by
  induction calls generalizing cursor with
  | nil => exact Nat.le_refl _
  | cons call calls ih => exact Nat.le_trans (position_le_read cursor call) (ih _)

end Call

/-- A request for bytes at a point in the data is granted from there on, with all indices in range,
or it is refused, the number of bytes left being told, and the cursor stays. -/
def Answered (data : Bytes) (count : Nat) (point : Cursor) : Prop :=
  (point.position + count ≤ data.length ∧
    take count point = (.ok ((data.drop point.position).take count),
      ⟨point.position + count, data.drop (point.position + count)⟩)) ∨
  (data.length < point.position + count ∧
    take count point = (.error (.truncated count (data.length - point.position)), point))

theorem Cursor.In.answered {data : Bytes} {point : Cursor} (h : point.In data) (count : Nat) :
    Answered data count point := by
  have hlength := h.length_rest
  have hin := h.position
  by_cases hle : count ≤ point.rest.length
  · refine .inl ⟨by omega, ?_⟩
    rw [take_of_le hle, h.rest, List.drop_drop]
  · refine .inr ⟨by omega, ?_⟩
    rw [take_of_lt (Nat.lt_of_not_le hle), hlength]

/-- What a call on a cursor over some data may do. -/
structure Call.Safe (data : Bytes) (cursor : Cursor) (call : Call) : Prop where
  /-- It starts and ends at places in the data, and does not go back. -/
  before : cursor.In data
  after : (call.read cursor).2.In data
  forward : cursor.position ≤ (call.read cursor).2.position
  /-- So does every request for bytes that it comes to. -/
  asked : ∀ count point, call.Asks cursor count point →
    point.In data ∧ cursor.position ≤ point.position ∧ Answered data count point
  /-- A failing request for bytes or for an integer changes nothing. -/
  stays : call.isSingle = true → ∀ e after, call.read cursor = (.error e, after) → after = cursor
  /-- What is missing is missing from a request, and was counted where that was made. -/
  truncated : ∀ needed remaining after,
    call.read cursor = (.error (.truncated needed remaining), after) →
      call.Asks cursor needed after ∧ remaining = data.length - after.position ∧
        remaining < needed

theorem Cursor.In.safe {data : Bytes} {cursor : Cursor} (h : cursor.In data) (call : Call) :
    call.Safe data cursor where
  before := h
  after := Call.in_read h call
  forward := Call.position_le_read cursor call
  asked count point hasks := by
    obtain ⟨bytes, hmoves⟩ := Call.moves_of_asks hasks
    exact ⟨h.moves hmoves, hmoves.position_le, (h.moves hmoves).answered count⟩
  stays hsingle e after hread := Call.eq_of_single_error hsingle hread
  truncated needed remaining after hread := by
    have hafter := Call.in_read h call
    rw [hread] at hafter
    obtain ⟨hlt, hremaining⟩ := call.built_read.truncated hread
    exact ⟨Call.asks_of_truncated hread, hremaining.trans hafter.length_rest, hlt⟩

/-- **Safety and progress.** After any calls on a cursor over any data, failed ones among them,
every further call is safe and none leads back. A value that is read takes at least one byte; so the
count of a sequence that is read is at most the number of bytes behind it, and the smaller of the
two is the number of items. -/
theorem cursor_safe :
    (∀ (data : Bytes) (calls : List Call) (call : Call),
      call.Safe data (Call.runAll (.start data) calls)) ∧
    (∀ (cursor : Cursor) (calls : List Call),
      cursor.position ≤ (Call.runAll cursor calls).position) ∧
    (∀ (format : Format) (cursor after : Cursor) (v : format.Value),
      decode format cursor = (.ok v, after) → cursor.position < after.position) ∧
    (∀ (element : Format) (cursor after : Cursor) (items : List element.Value),
      decode (.repeated element) cursor = (.ok items, after) →
        ∃ count first, number 2 cursor = (.ok count, first) ∧ count ≤ first.remaining ∧
          min count first.remaining = items.length) := by
  refine ⟨fun data calls call => ?_, Call.position_le_runAll, ?_, ?_⟩
  · exact (Call.in_runAll (Cursor.in_start data) calls).safe call
  · intro format cursor after v h
    exact lt_position_of_decode h
  · intro element cursor after items h
    obtain ⟨count, first, hnumber, hlength, hle⟩ := length_of_decode_repeated h
    exact ⟨count, first, hnumber, hle, by rw [Nat.min_eq_left hle, hlength]⟩

/-- A sequence and the start of another, which announces nine numbers and breaks off in the
second. -/
def brokenOff : Bytes := [0, 2, 0, 1, 0, 7, 0, 9, 0, 8, 3]

theorem cursor_safe_brokenOff :
    decode (.repeated (.repeated .u16)) (.start brokenOff) =
      (.error (.truncated 2 1), ⟨10, [3]⟩) ∧
    Asks (.repeated (.repeated .u16)) (.start brokenOff) 2 ⟨10, [3]⟩ ∧
    Call.runAll (.start brokenOff) [.decode (.repeated (.repeated .u16)), .array 2] = ⟨10, [3]⟩ ∧
    Call.Safe brokenOff ⟨10, [3]⟩ (.decode .u8) ∧
    decode (.repeated .u16) ⟨2, brokenOff.drop 2⟩ = (.ok [7], ⟨6, brokenOff.drop 6⟩) ∧
    ∃ count first, number 2 ⟨2, brokenOff.drop 2⟩ = (.ok count, first) ∧
      count ≤ first.remaining ∧ min count first.remaining = 1 := by
  have hcut : decode (.repeated (.repeated .u16)) (.start brokenOff) =
      (.error (.truncated 2 1), ⟨10, [3]⟩) := by decide +kernel
  have hrun : Call.runAll (.start brokenOff)
      [.decode (.repeated (.repeated .u16)), .array 2] = ⟨10, [3]⟩ := by decide +kernel
  have hfirst : decode (.repeated .u16) ⟨2, brokenOff.drop 2⟩ =
      (.ok [7], ⟨6, brokenOff.drop 6⟩) := by decide +kernel
  obtain ⟨hsafe, -, -, hcount⟩ := cursor_safe
  have hcall := hsafe brokenOff [] (.decode (.repeated (.repeated .u16)))
  have hnext := hsafe brokenOff [.decode (.repeated (.repeated .u16)), .array 2] (.decode .u8)
  rw [hrun] at hnext
  exact ⟨hcut, (hcall.truncated 2 1 _ hcut).1, hrun, hnext, hfirst, hcount _ _ _ _ hfirst⟩

end Bindery.Wire
