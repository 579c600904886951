import Bindery.Proofs.Delivery
import Bindery.Proofs.Oversized
import Bindery.Proofs.RustAcceptance
import Bindery.Proofs.RustRoutines

/-!
# Messages are sent whole or not at all

A routine that sends starts a message, puts one parameter after the other into it, hands the message
over and succeeds. A put that fails ends the routine.

**Statements.** The code of such a routine is the lines of its statements, and `run` says what these
do. They find parameters by the names in the code, so the names of a routine must differ
(`finds_bindings`), and none may be that of the message.

**Runs.** The puts together write what `encodeAll` emits, or end the routine where it stops
(`run_puts`). So the routine does what `Endpoint.send` does (`run_senderBody_eq_send`).

Main result: `written_exactly_sent_whole`.
-/

namespace Bindery

namespace Rust

open Wire

/-! ## What statements do -/

/-- Where a statement leads: on to the next one, or out of the routine. -/
inductive Flow (α σ : Type) where
  | proceed (state : σ)
  | finish (result : α) (state : σ)

section Perform

variable {S α σ : Type} {exec : σ → S → Option (Flow α σ)}

/-- Performs statements until one of them ends the routine. A statement that has no meaning gives
no outcome. -/
def perform (exec : σ → S → Option (Flow α σ)) : List S → σ → Option (α × σ)
  | [], _ => none
  | statement :: rest, state =>
    match exec state statement with
    | none => none
    | some (.proceed state) => perform exec rest state
    | some (.finish result state) => some (result, state)

theorem perform_of_proceed {statement : S} {state after : σ}
    (h : exec state statement = some (.proceed after)) (rest : List S) :
    perform exec (statement :: rest) state = perform exec rest after := by
  simp only [perform, h]

theorem perform_of_finish {statement : S} {state after : σ} {result : α}
    (h : exec state statement = some (.finish result after)) (rest : List S) :
    perform exec (statement :: rest) state = some (result, after) := by
  simp only [perform, h]

end Perform

/-- A value with its type. -/
abbrev Typed := (type : ParamType) × type.Value

/-- The variables of a routine by name, with their values. -/
abbrev Locals := List (String × Typed)

/-- The parameters of a routine that is called with these arguments. -/
def bindings : (parameters : List Parameter) → Arguments (parameters.map Parameter.type) → Locals
  | [], () => []
  | p :: parameters, (v, rest) => (parameterName p.name, ⟨p.type, v⟩) :: bindings parameters rest

/-- What a routine that sends works on. -/
structure Frame where
  /-- The message, from its start until it is handed over. -/
  message : Option Buffer := none
  /-- What the endpoint was handed so far, oldest first. -/
  sent : List Bytes

/-- Performs a statement. A variable that does not exist has no meaning, nor has the message as a
parameter of itself. -/
def SendStatement.exec (locals : Locals) (frame : Frame) :
    SendStatement → Option (Flow (Except TooLong Unit) Frame)
  | .start opcode => some (.proceed { frame with message := some (header opcode).toArray })
  | .put _ name =>
    if name = "message" then none
    else
      match frame.message, locals.lookup name with
      | some buffer, some ⟨type, v⟩ =>
        match write type.format v buffer with
        | (.ok (), after) => some (.proceed { frame with message := some after })
        | (.error e, after) => some (.finish (.error e) { frame with message := some after })
      | _, _ => none
  | .handOver =>
    -- Handing the message over uses it up.
    match frame.message with
    | some buffer => some (.proceed ⟨none, frame.sent ++ [buffer.toList]⟩)
    | none => none
  | .succeed => some (.finish (.ok ()) frame)

/-- Performs the statements of a routine that sends. -/
def run (locals : Locals) (body : List SendStatement) (frame : Frame) :
    Option (Except TooLong Unit × Frame) :=
  perform (SendStatement.exec locals) body frame

/-! ## Finding parameters -/

/-- The parameters are found under their names, with these values. -/
def Finds (locals : Locals) :
    (parameters : List Parameter) → Arguments (parameters.map Parameter.type) → Prop
  | [], () => True
  | p :: parameters, (v, rest) =>
    locals.lookup (parameterName p.name) = some ⟨p.type, v⟩ ∧ Finds locals parameters rest

theorem lookup_cons_of_ne {locals : Locals} {name other : String} (h : name ≠ other)
    (entry : Typed) : List.lookup other ((name, entry) :: locals) = locals.lookup other := by
  rw [List.lookup_cons, beq_false_of_ne (Ne.symm h)]

theorem Finds.cons {locals : Locals} {parameters : List Parameter}
    {arguments : Arguments (parameters.map Parameter.type)}
    (h : Finds locals parameters arguments) {name : String}
    (hname : name ∉ parameters.map fun p => parameterName p.name) (entry : Typed) :
    Finds ((name, entry) :: locals) parameters arguments := by
  induction parameters with
  | nil => trivial
  | cons p parameters ih =>
    obtain ⟨v, rest⟩ := arguments
    rw [List.map_cons, List.mem_cons, not_or] at hname
    exact ⟨(lookup_cons_of_ne hname.1 entry).trans h.1, ih h.2 hname.2⟩

theorem finds_bindings {parameters : List Parameter}
    (h : (parameters.map fun p => parameterName p.name).Nodup)
    (arguments : Arguments (parameters.map Parameter.type)) :
    Finds (bindings parameters arguments) parameters arguments := by
  induction parameters with
  | nil => trivial
  | cons p parameters ih =>
    obtain ⟨v, rest⟩ := arguments
    rw [List.map_cons, List.nodup_cons] at h
    exact ⟨List.lookup_cons_self, (ih h.2 rest).cons h.1 _⟩

/-! ## Runs -/

section Runs

variable {locals : Locals} {rest : List SendStatement} {buffer : Buffer} {sent : List Bytes}

/-- Goes on with the rest of a routine after an emission into its message, unless that stopped
early. -/
def resume (locals : Locals) (rest : List SendStatement) (buffer : Buffer) (sent : List Bytes)
    (emission : Emission) : Option (Except TooLong Unit × Frame) :=
  match emission.fault with
  | none => run locals rest ⟨some (buffer ++ emission.bytes), sent⟩
  | some e => some (.error e, ⟨some (buffer ++ emission.bytes), sent⟩)

theorem resume_of_complete {emission : Emission} (h : emission.fault = none) :
    resume locals rest buffer sent emission =
      run locals rest ⟨some (buffer ++ emission.bytes), sent⟩ := by
  rw [resume, h]

theorem resume_of_fault {emission : Emission} {e : TooLong} (h : emission.fault = some e) :
    resume locals rest buffer sent emission =
      some (.error e, ⟨some (buffer ++ emission.bytes), sent⟩) := by
  rw [resume, h]

theorem run_put {byReference : Bool} {name : String} {type : ParamType} {v : type.Value}
    (hname : name ≠ "message") (h : locals.lookup name = some ⟨type, v⟩) :
    run locals (.put byReference name :: rest) ⟨some buffer, sent⟩ =
      resume locals rest buffer sent (encode type.format v) := by
  have hwrite := emits_write type.format v buffer
  cases hfault : (encode type.format v).fault with
  | none =>
    rw [Emission.outcome_eq_ok_iff.mpr hfault] at hwrite
    rw [resume_of_complete hfault]
    exact perform_of_proceed (by simp only [SendStatement.exec, if_neg hname, h, hwrite]) rest
  | some e =>
    rw [Emission.outcome_eq_error_iff.mpr hfault] at hwrite
    rw [resume_of_fault hfault]
    exact perform_of_finish (by simp only [SendStatement.exec, if_neg hname, h, hwrite]) rest

/-- **The puts.** Together they write what the arguments emit. If that stops early, so does the
routine. -/
theorem run_puts {parameters : List Parameter}
    {arguments : Arguments (parameters.map Parameter.type)}
    (hfree : "message" ∉ parameters.map fun p => parameterName p.name)
    (h : Finds locals parameters arguments) :
    run locals (parameters.map putStatement ++ rest) ⟨some buffer, sent⟩ =
      resume locals rest buffer sent (encodeAll _ arguments) := by
  induction parameters generalizing buffer with
  | nil =>
    -- `arguments` is the only value of its type, which shows only when `encodeAll` is unfolded.
    have hnothing : encodeAll _ arguments = ⟨[], none⟩ := rfl
    simp [hnothing, resume]
  | cons p parameters ih =>
    obtain ⟨v, later⟩ := arguments
    have hsplit : encodeAll ((p :: parameters).map Parameter.type) (v, later) =
        (encode p.type.format v).andThen (encodeAll _ later) := rfl
    rw [List.map_cons, List.mem_cons, not_or] at hfree
    rw [List.map_cons, List.cons_append, putStatement, run_put (Ne.symm hfree.1) h.1, hsplit]
    cases hfault : (encode p.type.format v).fault with
    | none =>
      rw [resume_of_complete hfault, ih hfree.2 h.2]
      simp only [resume, Emission.andThen, hfault, Buffer.append_append]
    | some e => simp only [resume, Emission.andThen, hfault]

theorem run_ending :
    run locals [.handOver, .succeed] ⟨some buffer, sent⟩ =
      some (.ok (), ⟨none, sent ++ [buffer.toList]⟩) := rfl

end Runs

/-! ## Routines that send -/

/-- Each of the arguments, by itself, can be put into any message. -/
def EveryPutSucceeds (types : List ParamType) (arguments : Arguments types) : Prop :=
  Arguments.All (fun type v => ∀ buffer, (write type.format v buffer).1 = .ok ()) types arguments

theorem everyPutSucceeds_iff (types : List ParamType) (arguments : Arguments types) :
    EveryPutSucceeds types arguments ↔ (encodeAll types arguments).fault = none := by
  induction types with
  | nil => exact ⟨fun _ => rfl, fun _ => trivial⟩
  | cons type types ih =>
    obtain ⟨v, rest⟩ := arguments
    have hv : (∀ buffer, (write type.format v buffer).1 = .ok ()) ↔
        (encode type.format v).fault = none := by
      simp only [emits_write type.format v _, Emission.outcome_eq_ok_iff, forall_const]
    rw [encodeAll, Emission.fault_andThen, ← hv, ← ih rest]
    rfl

section Sender

variable {message : Message} (h : Scope.Fits reservedLocals (naming.rendered message))
  {arguments : Arguments message.types}
include h

theorem run_senderBody (sent : List Bytes) :
    run (bindings message.parameters arguments) (senderBody message) ⟨none, sent⟩ =
      resume (bindings message.parameters arguments) [.handOver, .succeed]
        (header message.opcode).toArray sent (encodeAll message.types arguments) := by
  rw [rendered_eq] at h
  have hfree : "message" ∉ message.parameters.map fun p => parameterName p.name :=
    fun hmem => (h.2 _ hmem).2 (by decide)
  exact run_puts hfree (finds_bindings h.1 arguments)

/-- If nothing stops the arguments, the message is handed over, once. -/
theorem run_senderBody_of_complete (hfault : (encodeAll message.types arguments).fault = none)
    (sent : List Bytes) :
    run (bindings message.parameters arguments) (senderBody message) ⟨none, sent⟩ =
      some (.ok (), ⟨none,
        sent ++ [header message.opcode ++ (encodeAll message.types arguments).bytes]⟩) := by
  rw [run_senderBody h, resume_of_complete hfault, run_ending]
  simp

/-- If an argument is too long, the routine ends there and nothing is handed over. -/
theorem run_senderBody_of_fault {e : TooLong}
    (hfault : (encodeAll message.types arguments).fault = some e) (sent : List Bytes) :
    ∃ left, run (bindings message.parameters arguments) (senderBody message) ⟨none, sent⟩ =
      some (.error e, ⟨left, sent⟩) :=
  ⟨_, (run_senderBody h sent).trans (resume_of_fault hfault)⟩

/-- **A routine that sends** does what `Endpoint.send` does. -/
theorem run_senderBody_eq_send (endpoint : Endpoint) :
    ∃ left, run (bindings message.parameters arguments) (senderBody message)
        ⟨none, endpoint.outbox⟩ =
      some ((endpoint.send message arguments).1,
        ⟨left, (endpoint.send message arguments).2.outbox⟩) := by
  rw [Endpoint.send, Message.encode]
  cases hfault : (encodeAll message.types arguments).fault with
  | none =>
    have hrun := run_senderBody_of_complete h hfault endpoint.outbox
    simp only [Emission.andThen, Emission.complete, hfault]
    exact ⟨none, hrun⟩
  | some e =>
    have hrun := run_senderBody_of_fault h hfault endpoint.outbox
    simp only [Emission.andThen, Emission.complete, hfault]
    exact hrun

end Sender

/-- The text has the routine that sends a message, and it hands the message over whole or not at all
when it is called with these arguments. -/
structure SendsWhole (text : String) (message : Message) (arguments : Arguments message.types) :
    Prop where
  /-- The code of the routine is the lines of its body. -/
  code : sender message = .block (senderHeader message)
    ((senderBody message).map fun statement => .line statement.text)
  /-- These lines stand in the text. -/
  written : Layout.HasPassage Target.rust.indentation text (senderLines message)
  /-- If every put succeeds, one message is handed over, and it is complete. -/
  once : EveryPutSucceeds message.types arguments → ∀ sent,
    run (bindings message.parameters arguments) (senderBody message) ⟨none, sent⟩ =
      some (.ok (), ⟨none, sent ++
        [header message.opcode ++ bytesOf (Arguments.items message.types arguments)]⟩)
  /-- Otherwise nothing is handed over, and the routine fails as writing the arguments does. -/
  never : ¬ EveryPutSucceeds message.types arguments → ∃ e,
    (∀ buffer, (writeAll message.types arguments buffer).1 = .error e) ∧
    ∀ sent, ∃ left,
      run (bindings message.parameters arguments) (senderBody message) ⟨none, sent⟩ =
        some (.error e, ⟨left, sent⟩)
  /-- This is what an endpoint at work does. -/
  works : ∀ endpoint : Endpoint, ∃ left,
    run (bindings message.parameters arguments) (senderBody message) ⟨none, endpoint.outbox⟩ =
      some ((endpoint.send message arguments).1,
        ⟨left, (endpoint.send message arguments).2.outbox⟩)

theorem sendsWhole {plan : RolePlan} {text : String}
    (hrender : Layout.render? Target.rust.indentation none (moduleLayout plan) = some text)
    {message : Message} (hmem : message ∈ plan.outgoing)
    (h : Scope.Fits reservedLocals (naming.rendered message))
    (arguments : Arguments message.types) : SendsWhole text message arguments where
  code := sender_eq message
  written := passage_sender hrender hmem
  once hputs sent := by
    have hfault := (everyPutSucceeds_iff _ _).mp hputs
    rw [← bytes_encodeAll hfault]
    exact run_senderBody_of_complete h hfault sent
  never hputs := by
    rw [everyPutSucceeds_iff] at hputs
    obtain ⟨e, hfault⟩ := Option.ne_none_iff_exists'.mp hputs
    refine ⟨e, fun buffer => ?_, run_senderBody_of_fault h hfault⟩
    rw [emits_writeAll message.types arguments buffer]
    exact Emission.outcome_eq_error_iff.mpr hfault
  works := run_senderBody_eq_send h

end Rust

open Wire

/-- **Values are written exactly, and messages sent whole.** A value of any parameter type, and the
arguments of any message, are written up to the first item that is too long. A routine that sends,
in the code for any interface, hands a message over once if every put succeeds and never
otherwise. -/
theorem written_exactly_sent_whole :
    (∀ type : ParamType, StopsExactly (write type.format) (items type.format)) ∧
    (∀ types : List ParamType, StopsExactly (writeAll types) (Arguments.items types)) ∧
    ∀ interface role text, Target.rust.generateInterface interface role = .ok text →
      ∃ plan, RolePlan.ofInterface interface role = .ok plan ∧
        ∀ message ∈ plan.outgoing, ∀ arguments, Rust.SendsWhole text message arguments := by
  refine ⟨fun type => stopsExactly_write type.format, stopsExactly_writeAll, ?_⟩
  intro interface role text hgenerate
  obtain ⟨hwell, hnames, hrender⟩ := Target.generateInterface_eq_ok_iff.mp hgenerate
  refine ⟨interface.plan role, RolePlan.ofInterface_of_wellFormed hwell role, ?_⟩
  intro message hmem arguments
  have hfits := (Rust.checkNames_eq_ok_iff.mp hnames).parameters message
    (List.mem_append_right _ hmem)
  exact Rust.sendsWhole hrender hmem hfits arguments

/-- A short series of readings, and one of this length. -/
def Conformance.seriesOf (length : Nat) : Arguments Conformance.sample.message.types :=
  ((7 : UInt8), ([[1], List.replicate length 0] : List (List UInt16)), (0 : UInt32), ())

open Conformance in
/-- What comes before a series that is too long stays written. -/
theorem Conformance.encodeAll_seriesOf {length : Nat} (h : 65535 < length) :
    encodeAll sample.message.types (seriesOf length) =
      ⟨[7, 0, 2, 0, 1, 0, 1], some ⟨length⟩⟩ := by
  have hitems : Arguments.items sample.message.types (seriesOf length) =
      [Item.number 1 7, Item.sequence 2, Item.sequence 1, Item.number 2 1] ++
        Item.sequence (List.replicate length (0 : UInt16)).length ::
          ((List.replicate length 0).flatMap (items .u16) ++ [] ++ [Item.number 4 0]) := rfl
  have hbefore : ∀ item ∈ [Item.number 1 7, Item.sequence 2, Item.sequence 1, Item.number 2 1],
      ¬ item.Oversized := by
    simp [Item.Oversized, Item.length?]
  rw [List.length_replicate] at hitems
  rw [encodeAll_eq_each, hitems, each_of_oversized hbefore rfl h]
  rfl

open Conformance Rust in
/-- Three series of readings are sent. A series that is too long is not, and only what comes before
it is written. -/
theorem written_exactly_sent_whole_telemetry :
    run (bindings sample.message.parameters sample.arguments) (senderBody sample.message)
        ⟨none, []⟩ =
      some (.ok (), ⟨none, [[0, 1, 7, 0, 3, 0, 2, 0, 1, 0, 2, 0, 0, 0, 1, 0xff, 0xff,
        0xde, 0xad, 0xbe, 0xef]]⟩) ∧
    (∃ left, run (bindings sample.message.parameters (seriesOf 65536))
      (senderBody sample.message) ⟨none, []⟩ = some (.error ⟨65536⟩, ⟨left, []⟩)) ∧
    ∃ before item later,
      Arguments.items sample.message.types (seriesOf 65536) = before ++ item :: later ∧
        item.length? = some 65536 ∧
        (#[9, 7, 0, 2, 0, 1, 0, 1] : Buffer) = (#[9] : Buffer) ++ bytesOf before := by
  have hlong := encodeAll_seriesOf (by decide : 65535 < 65536)
  have hwrite (buffer : Buffer) := emits_writeAll sample.message.types (seriesOf 65536) buffer
  rw [hlong] at hwrite
  obtain ⟨text, hgenerate⟩ := (@Rust.generateInterface_succeeds_iff telemetry .client).mpr
    ⟨Conformance.wellFormed telemetry (by decide), acceptable_conformance.2 telemetry (by decide)⟩
  obtain ⟨-, hstops, hcode⟩ := written_exactly_sent_whole
  obtain ⟨plan, hplan, hsends⟩ := hcode telemetry .client text hgenerate
  have hmem : sample.message ∈ plan.outgoing := by
    rw [(RolePlan.ofInterface_eq_ok_iff.mp hplan).2]
    decide
  refine ⟨?_, ?_, ?_⟩
  · have hputs : EveryPutSucceeds sample.message.types sample.arguments :=
      (everyPutSucceeds_iff _ _).mpr rfl
    exact (hsends sample.message hmem sample.arguments).once hputs []
  · have hputs : ¬ EveryPutSucceeds sample.message.types (seriesOf 65536) := by
      rw [everyPutSucceeds_iff, hlong]
      exact Option.some_ne_none _
    obtain ⟨e, hfails, hrun⟩ := (hsends sample.message hmem (seriesOf 65536)).never hputs
    cases (hfails #[]).symm.trans (congrArg Prod.fst (hwrite #[]))
    exact hrun []
  · obtain ⟨before, item, later, hitems, -, hlength, -, hafter⟩ :=
      (hstops sample.message.types).stops (seriesOf 65536) _ _ _ (hwrite #[9])
    exact ⟨before, item, later, hitems, hlength, hafter⟩

end Bindery
