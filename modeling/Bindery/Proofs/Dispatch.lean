import Bindery.Proofs.Plan
import Bindery.Wire.Endpoint

/-!
# What becomes of any string of bytes

Dispatching is described from outside, by a relation with one rule for each way it can end
(`RolePlan.Handles`), in terms of the table and of reading one parameter after the other
(`Decodes`). The handlers are arbitrary: they change a state of any type, so that a state that
stays as it is shows that no handler was called.

**Reading in order.** The arguments of a message are read successfully exactly if all parameters
are, each from where the one before it ended (`decodeAll_eq_ok_iff`). Otherwise there is a first
parameter that cannot be read; its fault is the outcome, and the parameters behind it play no part
(`decodeAll_eq_error_iff`).

Main result: `RolePlan.handle_eq_iff`. Dispatching ends by a rule exactly if the rule applies, so
some rule applies to every input, and no two rules disagree.
-/

namespace Bindery

open Wire

/-- The opcode that a message with these first two bytes starts with, in two's complement. -/
def Opcode.ofBytes (high low : UInt8) : Opcode :=
  ⟨Int16.ofNat (256 * high.toNat + low.toNat)⟩

namespace Wire

/-! ## The opcode -/

theorem decode_opcode (high low : UInt8) (body : Bytes) :
    decode .i16 (.start (high :: low :: body)) =
      (.ok (Opcode.ofBytes high low).word, ⟨2, body⟩) := by
  have hvalue : ofBigEndian [high, low] = 256 * high.toNat + low.toNat := by
    simp only [ofBigEndian, List.foldl_cons, List.foldl_nil]
    omega
  have hnumber : Decoder.number 2 (.start (high :: low :: body)) =
      (.ok (256 * high.toNat + low.toNat), ⟨2, body⟩) := by
    rw [← hvalue]
    rfl
  exact (Decoder.bind_of_ok hnumber).trans rfl

theorem decode_opcode_of_short {input : Bytes} (h : input.length < 2) :
    decode .i16 (.start input) = (.error (.truncated 2 input.length), .start input) :=
  Decoder.bind_of_error (Decoder.bind_of_error (Decoder.take_of_lt h))

/-! ## Reading in order -/

/-- Reading the parameters one after the other, each from where the last one ended, yields these
arguments and ends here. -/
inductive Decodes : (types : List ParamType) → Cursor → Arguments types → Cursor → Prop
  | nil {cursor : Cursor} : Decodes [] cursor () cursor
  | cons {type : ParamType} {types : List ParamType} {before middle after : Cursor}
      {v : type.Value} {rest : Arguments types} :
      decode type.format before = (.ok v, middle) → Decodes types middle rest after →
      Decodes (type :: types) before (v, rest) after

variable {types : List ParamType} {cursor after stuck : Cursor} {e : DecodeError}

theorem decodeAll_eq_ok_iff {arguments : Arguments types} :
    decodeAll types cursor = (.ok arguments, after) ↔ Decodes types cursor arguments after := by
  constructor
  · intro h
    induction types generalizing cursor with
    | nil =>
      obtain ⟨-, rfl⟩ := Decoder.pure_eq_ok_iff.mp h
      exact .nil
    | cons type types ih =>
      obtain ⟨v, rest⟩ := arguments
      obtain ⟨middle, hv, hrest⟩ := decodeAll_cons_eq_ok_iff.mp h
      exact .cons hv (ih hrest)
  · intro h
    induction h with
    | nil => rfl
    | cons hv _ ih => exact decodeAll_cons_eq_ok_iff.mpr ⟨_, hv, ih⟩

/-- What is read in front of a parameter that cannot be read does not change its fault, and what
stands behind it is not looked at. -/
theorem decodeAll_of_failed {before : List ParamType} {type : ParamType} {middle : Cursor}
    {values : Arguments before} (hbefore : Decodes before cursor values middle)
    (hfailed : decode type.format middle = (.error e, stuck)) (later : List ParamType) :
    decodeAll (before ++ type :: later) cursor = (.error e, stuck) := by
  induction hbefore with
  | nil => exact decodeAll_cons_eq_error_iff.mpr (.inl hfailed)
  | cons hv _ ih => exact decodeAll_cons_eq_error_iff.mpr (.inr ⟨_, _, hv, ih hfailed⟩)

theorem decodeAll_eq_error_iff :
    decodeAll types cursor = (.error e, stuck) ↔
      ∃ before type later middle, ∃ values : Arguments before,
        types = before ++ type :: later ∧ Decodes before cursor values middle ∧
          decode type.format middle = (.error e, stuck) := by
  constructor
  · intro h
    induction types generalizing cursor with
    | nil => cases h
    | cons type types ih =>
      rcases decodeAll_cons_eq_error_iff.mp h with hv | ⟨v, middle, hv, hrest⟩
      · exact ⟨[], type, types, cursor, (), rfl, .nil, hv⟩
      · obtain ⟨before, failing, later, middle', values, rfl, hbefore, hfailed⟩ := ih hrest
        exact ⟨type :: before, failing, later, middle', (v, values), rfl, .cons hv hbefore,
          hfailed⟩
  · rintro ⟨before, type, later, middle, values, rfl, hbefore, hfailed⟩
    exact decodeAll_of_failed hbefore hfailed later

end Wire

/-! ## Dispatching -/

/-- Handles the bytes of a message with handlers that change a state. -/
def RolePlan.handle {σ : Type} (plan : RolePlan) (handler : Call → σ → σ) (input : Bytes)
    (state : σ) : Except DispatchError Unit × σ :=
  match plan.dispatch input with
  | .ok call => (.ok (), handler call state)
  | .error e => (.error e, state)

/-- The handlers of an endpoint take down how they were called. -/
def Endpoint.record (call : Call) (endpoint : Endpoint) : Endpoint :=
  { endpoint with calls := endpoint.calls ++ [call] }

theorem Endpoint.receive_eq_handle (endpoint : Endpoint) (input : Bytes) :
    endpoint.receive input = endpoint.plan.handle record input endpoint := rfl

/-- How the handling of a string of bytes ends, and the state it ends in. -/
inductive RolePlan.Handles {σ : Type} (plan : RolePlan) (handler : Call → σ → σ) (state : σ) :
    Bytes → Except DispatchError Unit → σ → Prop
  /-- There are too few bytes for an opcode. -/
  | short {input : Bytes} : input.length < 2 →
      plan.Handles handler state input (.error (.decode (.truncated 2 input.length))) state
  /-- The table has no entry for the opcode. -/
  | unknown {high low : UInt8} {body : Bytes} :
      (∀ message ∈ plan.incoming, message.opcode ≠ .ofBytes high low) →
      plan.Handles handler state (high :: low :: body)
        (.error (.unknownOpcode (.ofBytes high low))) state
  /-- A parameter cannot be read, and all those before it can. -/
  | failed {high low : UInt8} {body : Bytes} {message : Message} {before later : List ParamType}
      {type : ParamType} {values : Arguments before} {middle stuck : Cursor} {e : DecodeError} :
      message ∈ plan.incoming → message.opcode = .ofBytes high low →
      message.types = before ++ type :: later → Decodes before ⟨2, body⟩ values middle →
      decode type.format middle = (.error e, stuck) →
      plan.Handles handler state (high :: low :: body) (.error (.decode e)) state
  /-- All parameters can be read: the handler of the entry is called, once. -/
  | handled {high low : UInt8} {body : Bytes} {message : Message}
      {arguments : Arguments message.types} {after : Cursor} :
      message ∈ plan.incoming → message.opcode = .ofBytes high low →
      Decodes message.types ⟨2, body⟩ arguments after →
      plan.Handles handler state (high :: low :: body) (.ok ())
        (handler ⟨message, arguments⟩ state)

namespace RolePlan

variable {σ : Type} {plan : RolePlan} {handler : Call → σ → σ} {state : σ}

theorem handle_of_short {input : Bytes} (h : input.length < 2) :
    plan.handle handler input state =
      (.error (.decode (.truncated 2 input.length)), state) := by
  simp only [handle, dispatch, decode_opcode_of_short h]

theorem handle_of_find?_none {high low : UInt8} {body : Bytes}
    (h : plan.find? (.ofBytes high low) = none) :
    plan.handle handler (high :: low :: body) state =
      (.error (.unknownOpcode (.ofBytes high low)), state) := by
  simp only [handle, dispatch, decode_opcode, h]

theorem handle_of_error {high low : UInt8} {body : Bytes} {message : Message} {e : DecodeError}
    {stuck : Cursor} (hfind : plan.find? (.ofBytes high low) = some message)
    (hread : decodeAll message.types ⟨2, body⟩ = (.error e, stuck)) :
    plan.handle handler (high :: low :: body) state = (.error (.decode e), state) := by
  simp only [handle, dispatch, decode_opcode, hfind, hread]

theorem handle_of_ok {high low : UInt8} {body : Bytes} {message : Message}
    {arguments : Arguments message.types} {after : Cursor}
    (hfind : plan.find? (.ofBytes high low) = some message)
    (hread : decodeAll message.types ⟨2, body⟩ = (.ok arguments, after)) :
    plan.handle handler (high :: low :: body) state =
      (.ok (), handler ⟨message, arguments⟩ state) := by
  simp only [handle, dispatch, decode_opcode, hfind, hread]

theorem find?_eq_none_iff {opcode : Opcode} :
    plan.find? opcode = none ↔ ∀ message ∈ plan.incoming, message.opcode ≠ opcode := by
  simp [find?, List.find?_eq_none]

/-- Some rule applies to every input. -/
theorem handles_handle (h : plan.acceptedOpcodes.Nodup) (handler : Call → σ → σ) (state : σ)
    (input : Bytes) :
    plan.Handles handler state input (plan.handle handler input state).1
      (plan.handle handler input state).2 := by
  match input with
  | [] =>
    have hlt : ([] : Bytes).length < 2 := Nat.two_pos
    rw [handle_of_short hlt]
    exact .short hlt
  | [byte] =>
    have hlt : [byte].length < 2 := Nat.lt_succ_self 1
    rw [handle_of_short hlt]
    exact .short hlt
  | high :: low :: body =>
    cases hfind : plan.find? (.ofBytes high low) with
    | none =>
      rw [handle_of_find?_none hfind]
      exact .unknown (find?_eq_none_iff.mp hfind)
    | some message =>
      obtain ⟨hmem, hopcode⟩ := (find?_eq_some_iff h).mp hfind
      match hread : decodeAll message.types ⟨2, body⟩ with
      | (.error e, stuck) =>
        rw [handle_of_error hfind hread]
        obtain ⟨before, type, later, middle, values, htypes, hbefore, hfailed⟩ :=
          decodeAll_eq_error_iff.mp hread
        exact .failed hmem hopcode htypes hbefore hfailed
      | (.ok arguments, after) =>
        rw [handle_of_ok hfind hread]
        exact .handled hmem hopcode (decodeAll_eq_ok_iff.mp hread)

/-- A rule that applies says how handling ends. -/
theorem Handles.handle_eq (h : plan.acceptedOpcodes.Nodup) {input : Bytes}
    {result : Except DispatchError Unit} {after : σ}
    (hrule : plan.Handles handler state input result after) :
    plan.handle handler input state = (result, after) := by
  cases hrule with
  | short hlt => exact handle_of_short hlt
  | unknown hnone => exact handle_of_find?_none (find?_eq_none_iff.mpr hnone)
  | failed hmem hopcode htypes hbefore hfailed =>
    exact handle_of_error ((find?_eq_some_iff h).mpr ⟨hmem, hopcode⟩)
      (decodeAll_eq_error_iff.mpr ⟨_, _, _, _, _, htypes, hbefore, hfailed⟩)
  | handled hmem hopcode harguments =>
    exact handle_of_ok ((find?_eq_some_iff h).mpr ⟨hmem, hopcode⟩)
      (decodeAll_eq_ok_iff.mpr harguments)

theorem handle_eq_iff (h : plan.acceptedOpcodes.Nodup) {input : Bytes}
    {result : Except DispatchError Unit} {after : σ} :
    plan.handle handler input state = (result, after) ↔
      plan.Handles handler state input result after := by
  refine ⟨fun heq => ?_, Handles.handle_eq h⟩
  have hrule := handles_handle h handler state input
  rwa [heq] at hrule

end RolePlan

end Bindery
