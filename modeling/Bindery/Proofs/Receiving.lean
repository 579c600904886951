import Bindery.Proofs.Dispatch
import Bindery.Proofs.Sending

/-!
# Messages are dispatched as the code says

A routine that reads takes one value after the other from a cursor, each into a variable, and calls
a method of the handler with the variables. The routine that dispatches reads an opcode and goes on
in the routine that stands with it.

**Methods.** The handler of an endpoint is given by what it does for each call. Code calls it by the
name of a method, with values, so the names of methods must differ (`invoke?_handler`).

**Readers.** The reads together do what `decodeAll` does (`perform_reads_of_ok`,
`perform_reads_of_error`), and the call passes on what was read. A variable hides what the routine
was given under the same name, so no variable may be called like the cursor or the handler.

**The dispatcher** finds routines by name, so these names must differ as well. It does what
`RolePlan.dispatch` says (`dispatched_eq_handle`).

Main result: `dispatch_determined`. Dispatching ends by a rule exactly if the rule applies, and the
code for dispatching does just that.
-/

namespace Bindery

open Wire

/-- An entry found by its key in a list made of pairs. -/
theorem lookup_map {α κ β : Type} [DecidableEq κ] (key : α → κ) (value : α → β) (items : List α)
    (k : κ) : (items.map fun a => (key a, value a)).lookup k =
      (items.find? fun a => key a = k).map value := by
  induction items with
  | nil => rfl
  | cons a items ih =>
    rw [List.map_cons, List.lookup_cons, List.find?_cons]
    by_cases h : key a = k
    · simp [h]
    · simp [h, beq_false_of_ne (Ne.symm h), ih]

namespace Rust

/-! ## Methods -/

/-- The arguments of a message as a list of values. -/
def valuesOf : (types : List ParamType) → Arguments types → List Typed
  | [], () => []
  | type :: types, (v, rest) => ⟨type, v⟩ :: valuesOf types rest

/-- The arguments of a message from a list of values, if the types are right. -/
def argumentsOf? : (types : List ParamType) → List Typed → Option (Arguments types)
  | [], [] => some ()
  | type :: types, ⟨given, v⟩ :: rest =>
    if h : given = type then (argumentsOf? types rest).map fun later => (h ▸ v, later) else none
  | _, _ => none

theorem argumentsOf?_valuesOf (types : List ParamType) (arguments : Arguments types) :
    argumentsOf? types (valuesOf types arguments) = some arguments := by
  induction types with
  | nil => rfl
  | cons type types ih =>
    obtain ⟨v, rest⟩ := arguments
    rw [valuesOf, argumentsOf?, dif_pos rfl, ih rest]
    rfl

section Methods

variable {σ : Type} {plan : RolePlan} {handler : Call → σ → σ}

/-- What calling a method does. It is found by its name among those for the messages of a plan. -/
def invoke? (plan : RolePlan) (handler : Call → σ → σ) (method : String) (values : List Typed) :
    Option (σ → σ) :=
  match plan.incoming.find? fun message => naming.handler message = method with
  | none => none
  | some message =>
    (argumentsOf? message.types values).map fun arguments => handler ⟨message, arguments⟩

theorem invoke?_handler (h : (plan.incoming.map naming.handler).Nodup) {message : Message}
    (hmem : message ∈ plan.incoming) (arguments : Arguments message.types) :
    invoke? plan handler (naming.handler message) (valuesOf message.types arguments) =
      some (handler ⟨message, arguments⟩) := by
  rw [invoke?, find?_of_nodup_map h hmem]
  exact congrArg (Option.map _) (argumentsOf?_valuesOf message.types arguments)

end Methods

/-! ## Routines that read -/

/-- What a routine that reads works on. -/
structure Activation (σ : Type) where
  cursor : Cursor
  /-- The variables, latest first. -/
  locals : Locals := []
  /-- The state of the handler. -/
  state : σ

/-- Whether a variable stands in the way of what the routine was given under this name. -/
def Activation.hides {σ : Type} (activation : Activation σ) (name : String) : Bool :=
  (activation.locals.lookup name).isSome

section Readers

variable {σ : Type} (plan : RolePlan) (handler : Call → σ → σ)

/-- Performs a statement. A variable or a method that does not exist has no meaning. -/
def ReadStatement.exec (activation : Activation σ) :
    ReadStatement → Option (Flow (Except DecodeError Unit) (Activation σ))
  | .read name type =>
    if activation.hides "cursor" then none
    else
      match decode type.format activation.cursor with
      | (.ok v, after) => some (.proceed { activation with
          cursor := after, locals := (name, ⟨type, v⟩) :: activation.locals })
      | (.error e, after) => some (.finish (.error e) { activation with cursor := after })
  | .call method arguments =>
    if activation.hides "handler" then none
    else do
      let values ← arguments.mapM fun argument => activation.locals.lookup argument.2
      let change ← invoke? plan handler method values
      return .proceed { activation with state := change activation.state }
  | .succeed => some (.finish (.ok ()) activation)

variable {plan handler} {parameters : List Parameter} {rest : List ReadStatement}
  {cursor after : Cursor} {locals : Locals} {state : σ}

theorem perform_read_of_ok {name : String} {type : ParamType} {v : type.Value}
    (hcursor : locals.lookup "cursor" = none)
    (h : decode type.format cursor = (.ok v, after)) :
    perform (ReadStatement.exec plan handler) (.read name type :: rest) ⟨cursor, locals, state⟩ =
      perform (ReadStatement.exec plan handler) rest
        ⟨after, (name, ⟨type, v⟩) :: locals, state⟩ := by
  refine perform_of_proceed ?_ rest
  simp [ReadStatement.exec, Activation.hides, hcursor, h]

theorem perform_read_of_error {name : String} {type : ParamType} {e : DecodeError}
    (hcursor : locals.lookup "cursor" = none)
    (h : decode type.format cursor = (.error e, after)) :
    perform (ReadStatement.exec plan handler) (.read name type :: rest) ⟨cursor, locals, state⟩ =
      some (.error e, ⟨after, locals, state⟩) := by
  refine perform_of_finish ?_ rest
  simp [ReadStatement.exec, Activation.hides, hcursor, h]

/-- **The reads,** if all parameters can be read. Each is then found under its name, and what other
names stand for is as before. -/
theorem perform_reads_of_ok (hcursor : locals.lookup "cursor" = none)
    (hfree : "cursor" ∉ parameters.map fun p => parameterName p.name)
    (hnodup : (parameters.map fun p => parameterName p.name).Nodup)
    {arguments : Arguments (parameters.map Parameter.type)}
    (h : decodeAll _ cursor = (.ok arguments, after)) :
    ∃ filled,
      perform (ReadStatement.exec plan handler) (parameters.map readStatement ++ rest)
          ⟨cursor, locals, state⟩ =
        perform (ReadStatement.exec plan handler) rest ⟨after, filled, state⟩ ∧
      Finds filled parameters arguments ∧
      ∀ name ∉ parameters.map (fun p => parameterName p.name),
        filled.lookup name = locals.lookup name := by
  -- Later variables stand in front of earlier ones, and hide none since their names differ.
  induction parameters generalizing cursor locals with
  | nil =>
    obtain ⟨-, rfl⟩ := Decoder.pure_eq_ok_iff.mp h
    exact ⟨locals, rfl, trivial, fun _ _ => rfl⟩
  | cons p parameters ih =>
    obtain ⟨v, later⟩ := arguments
    obtain ⟨middle, hv, hlater⟩ := decodeAll_cons_eq_ok_iff.mp h
    rw [List.map_cons, List.nodup_cons] at hnodup
    rw [List.map_cons, List.mem_cons, not_or] at hfree
    have hnext := (lookup_cons_of_ne (Ne.symm hfree.1) ⟨p.type, v⟩).trans hcursor
    obtain ⟨filled, hrun, hfinds, hkept⟩ := ih hnext hfree.2 hnodup.2 hlater
    refine ⟨filled, (perform_read_of_ok hcursor hv).trans hrun, ⟨?_, hfinds⟩, fun name hname => ?_⟩
    · rw [hkept _ hnodup.1, List.lookup_cons_self]
    · rw [List.map_cons, List.mem_cons, not_or] at hname
      rw [hkept _ hname.2, lookup_cons_of_ne (Ne.symm hname.1)]

/-- **The reads,** if some parameter cannot be read. The routine ends with its fault. -/
theorem perform_reads_of_error (hcursor : locals.lookup "cursor" = none)
    (hfree : "cursor" ∉ parameters.map fun p => parameterName p.name) {e : DecodeError}
    (h : decodeAll (parameters.map Parameter.type) cursor = (.error e, after)) :
    ∃ filled,
      perform (ReadStatement.exec plan handler) (parameters.map readStatement ++ rest)
          ⟨cursor, locals, state⟩ = some (.error e, ⟨after, filled, state⟩) := by
  induction parameters generalizing cursor locals with
  | nil => cases h
  | cons p parameters ih =>
    rw [List.map_cons, List.mem_cons, not_or] at hfree
    rcases decodeAll_cons_eq_error_iff.mp h with hv | ⟨v, middle, hv, hlater⟩
    · exact ⟨locals, perform_read_of_error hcursor hv⟩
    · have hnext := (lookup_cons_of_ne (Ne.symm hfree.1) ⟨p.type, v⟩).trans hcursor
      obtain ⟨filled, hrun⟩ := ih hnext hfree.2 hlater
      exact ⟨filled, (perform_read_of_ok hcursor hv).trans hrun⟩

/-- The variables that are passed on. -/
theorem Finds.mapM_lookup {arguments : Arguments (parameters.map Parameter.type)}
    (h : Finds locals parameters arguments) :
    (parameters.map fun p => ((dialect.spell p.type).byReference, parameterName p.name)).mapM
      (fun argument => locals.lookup argument.2) = some (valuesOf _ arguments) := by
  induction parameters with
  | nil => rfl
  | cons p parameters ih =>
    obtain ⟨v, rest⟩ := arguments
    rw [List.map_cons, List.mapM_cons, h.1, ih h.2]
    rfl

end Readers

section Reader

variable {σ : Type} {plan : RolePlan} {handler : Call → σ → σ} {message : Message}
  {cursor after : Cursor} {state : σ} (h : NamesFit plan) (hmem : message ∈ plan.incoming)
include h hmem

theorem notMem_parameterNames {name : String} (hname : name ∈ reservedLocals) :
    name ∉ message.parameters.map fun p => parameterName p.name := by
  rw [← rendered_eq]
  intro hrendered
  exact ((h.parameters message (List.mem_append_left _ hmem)).2 name hrendered).2 hname

/-- **A routine that reads** calls its handler, once, with what was read. -/
theorem perform_readerBody_of_ok {arguments : Arguments message.types}
    (hdecode : decodeAll message.types cursor = (.ok arguments, after)) :
    ∃ filled, perform (ReadStatement.exec plan handler) (readerBody message)
        { cursor, state } =
      some (.ok (), ⟨after, filled, handler ⟨message, arguments⟩ state⟩) := by
  have hnodup := (h.parameters message (List.mem_append_left _ hmem)).1
  rw [rendered_eq] at hnodup
  have hcursor : ([] : Locals).lookup "cursor" = none := rfl
  obtain ⟨filled, hrun, hfinds, hkept⟩ := perform_reads_of_ok hcursor
    (notMem_parameterNames h hmem (by decide)) hnodup hdecode
  have hhandler : filled.lookup "handler" = none :=
    hkept _ (notMem_parameterNames h hmem (by decide))
  have hinvoke := @invoke?_handler σ plan handler
    (List.nodup_append.mp h.methods.1).1 message hmem arguments
  have hvalues : _ = some (valuesOf message.types arguments) := hfinds.mapM_lookup
  have hcall : ReadStatement.exec plan handler ⟨after, filled, state⟩ (callStatement message) =
      some (.proceed ⟨after, filled, handler ⟨message, arguments⟩ state⟩) := by
    simp [callStatement, ReadStatement.exec, Activation.hides, hhandler, hvalues, hinvoke]
  exact ⟨filled, hrun.trans (perform_of_proceed hcall _)⟩

/-- If a parameter cannot be read, no handler is called. -/
theorem perform_readerBody_of_error {e : DecodeError}
    (hdecode : decodeAll message.types cursor = (.error e, after)) :
    ∃ filled, perform (ReadStatement.exec plan handler) (readerBody message)
        { cursor, state } = some (.error e, ⟨after, filled, state⟩) := by
  have hcursor : ([] : Locals).lookup "cursor" = none := rfl
  exact perform_reads_of_error hcursor (notMem_parameterNames h hmem (by decide)) hdecode

end Reader

/-! ## The routine that dispatches -/

/-- What the routine that dispatches works on. -/
structure DispatchFrame (σ : Type) where
  input : Bytes
  cursor : Option Cursor := none
  opcode : Option Opcode := none
  /-- The state of the handler. -/
  state : σ

/-- The routines that read, by name. -/
def readers (plan : RolePlan) : List (String × List ReadStatement) :=
  plan.incoming.map fun message => (naming.reader message, readerBody message)

section Dispatcher

variable {σ : Type} (plan : RolePlan) (handler : Call → σ → σ)

/-- Performs a statement. A routine that does not exist has no meaning. -/
def DispatchStatement.exec (frame : DispatchFrame σ) :
    DispatchStatement → Option (Flow (Except DispatchError Unit) (DispatchFrame σ))
  | .start => some (.proceed { frame with cursor := some (.start frame.input) })
  | .readOpcode => do
    match decode .i16 (← frame.cursor) with
    | (.ok word, after) =>
      return .proceed { frame with cursor := some after, opcode := some ⟨word⟩ }
    | (.error e, after) => return .finish (.error (.decode e)) { frame with cursor := some after }
  | .branch arms => do
    let opcode ← frame.opcode
    match arms.lookup opcode with
    | none => return .finish (.error (.unknownOpcode opcode)) frame
    | some routine =>
      let body ← (readers plan).lookup routine
      let cursor ← frame.cursor
      match ← perform (ReadStatement.exec plan handler) body { cursor, state := frame.state } with
      | (.ok (), left) => return .proceed { frame with
          cursor := some left.cursor, state := left.state }
      | (.error e, left) => return .finish (.error (.decode e)) { frame with
          cursor := some left.cursor, state := left.state }
  | .succeed => some (.finish (.ok ()) frame)

/-- Performs the routine that dispatches, and says how it ends and the state that is left. -/
def dispatched (input : Bytes) (state : σ) : Option (Except DispatchError Unit × σ) :=
  (perform (DispatchStatement.exec plan handler) (dispatcherBody plan.incoming)
    { input, state }).map fun (result, frame) => (result, frame.state)

variable {plan handler}

theorem lookup_readers (h : NamesFit plan) {message : Message} (hmem : message ∈ plan.incoming) :
    (readers plan).lookup (naming.reader message) = some (readerBody message) := by
  rw [readers, lookup_map, find?_of_nodup_map h.readers.1 hmem]
  rfl

/-- The arms stand with the opcodes of the table. -/
theorem lookup_arms (opcode : Opcode) :
    (plan.incoming.map armOf).lookup opcode = (plan.find? opcode).map naming.reader :=
  lookup_map Message.opcode naming.reader plan.incoming opcode

section Branch

variable {input : Bytes} {cursor after : Cursor} {opcode : Opcode} {message : Message} {state : σ}

/-- The branch ends the routine if the opcode is not in the table. -/
theorem exec_branch_of_none (hfind : plan.find? opcode = none) :
    DispatchStatement.exec plan handler ⟨input, some cursor, some opcode, state⟩
        (.branch (plan.incoming.map armOf)) =
      some (.finish (.error (.unknownOpcode opcode)) ⟨input, some cursor, some opcode, state⟩) := by
  simp [DispatchStatement.exec, lookup_arms, hfind]

variable (h : NamesFit plan) (hfind : plan.find? opcode = some message)
include h hfind

theorem exec_branch_of_error {e : DecodeError}
    (hdecode : decodeAll message.types cursor = (.error e, after)) :
    DispatchStatement.exec plan handler ⟨input, some cursor, some opcode, state⟩
        (.branch (plan.incoming.map armOf)) =
      some (.finish (.error (.decode e)) ⟨input, some after, some opcode, state⟩) := by
  have hmem : message ∈ plan.incoming := List.mem_of_find?_eq_some hfind
  obtain ⟨filled, hread⟩ := @perform_readerBody_of_error σ plan handler message cursor after state
    h hmem e hdecode
  simp [DispatchStatement.exec, lookup_arms, hfind, lookup_readers h hmem, hread]

/-- The branch goes on after the handler was called. -/
theorem exec_branch_of_ok {arguments : Arguments message.types}
    (hdecode : decodeAll message.types cursor = (.ok arguments, after)) :
    DispatchStatement.exec plan handler ⟨input, some cursor, some opcode, state⟩
        (.branch (plan.incoming.map armOf)) =
      some (.proceed ⟨input, some after, some opcode, handler ⟨message, arguments⟩ state⟩) := by
  have hmem : message ∈ plan.incoming := List.mem_of_find?_eq_some hfind
  obtain ⟨filled, hread⟩ := @perform_readerBody_of_ok σ plan handler message cursor after state
    h hmem arguments hdecode
  simp [DispatchStatement.exec, lookup_arms, hfind, lookup_readers h hmem, hread]

end Branch

/-- **Dispatching.** The routine that dispatches does what the plan says. -/
theorem dispatched_eq_handle (h : NamesFit plan) (input : Bytes) (state : σ) :
    dispatched plan handler input state = some (plan.handle handler input state) := by
  have hstart : DispatchStatement.exec plan handler { input, state } .start =
      some (.proceed { input, cursor := some (.start input), state }) := rfl
  rw [dispatched, dispatcherBody, perform_of_proceed hstart]
  rcases hopcode : decode .i16 (.start input) with ⟨e | word, cursor⟩
  · have hread : DispatchStatement.exec plan handler
        { input, cursor := some (.start input), state } .readOpcode =
        some (.finish (.error (.decode e)) { input, cursor := some cursor, state }) := by
      simp [DispatchStatement.exec, hopcode]
    rw [perform_of_finish hread]
    simp only [RolePlan.handle, RolePlan.dispatch, hopcode]
    rfl
  have hread : DispatchStatement.exec plan handler
      { input, cursor := some (.start input), state } .readOpcode =
      some (.proceed ⟨input, some cursor, some ⟨word⟩, state⟩) := by
    simp [DispatchStatement.exec, hopcode]
  rw [perform_of_proceed hread]
  cases hfind : plan.find? ⟨word⟩ with
  | none =>
    rw [perform_of_finish (exec_branch_of_none hfind)]
    simp only [RolePlan.handle, RolePlan.dispatch, hopcode, hfind]
    rfl
  | some message =>
    rcases hdecode : decodeAll message.types cursor with ⟨e | arguments, after⟩
    · rw [perform_of_finish (exec_branch_of_error h hfind hdecode)]
      simp only [RolePlan.handle, RolePlan.dispatch, hopcode, hfind, hdecode]
      rfl
    · rw [perform_of_proceed (exec_branch_of_ok h hfind hdecode)]
      simp only [RolePlan.handle, RolePlan.dispatch, hopcode, hfind, hdecode]
      rfl

end Dispatcher

/-- The text has the routines that handle the messages of a plan, and they do what the plan says. -/
structure Receives (plan : RolePlan) (text : String) : Prop where
  /-- The method for the user goes to the routine that dispatches. -/
  provided : Layout.HasPassage Target.rust.indentation text providedLines
  dispatcher : Layout.HasPassage Target.rust.indentation text
    (dispatcherLines (traitName plan.interface.name plan.role) plan.incoming)
  readers : ∀ message ∈ plan.incoming, Layout.HasPassage Target.rust.indentation text
    (readerLines (traitName plan.interface.name plan.role) message)
  handles : ∀ (σ : Type) (handler : Call → σ → σ) input state,
    dispatched plan handler input state = some (plan.handle handler input state)
  /-- This is what an endpoint at work does. -/
  works : ∀ endpoint : Endpoint, endpoint.plan = plan → ∀ input,
    dispatched plan Endpoint.record input endpoint = some (endpoint.receive input)

/-- **The code that receives,** for any interface. -/
theorem receives {interface : Interface} {role : Role} {text : String}
    (h : Target.rust.generateInterface interface role = .ok text) :
    Receives (interface.plan role) text := by
  obtain ⟨-, hnames, hrender⟩ := Target.generateInterface_eq_ok_iff.mp h
  have hfit := checkNames_eq_ok_iff.mp hnames
  refine ⟨passage_provided hrender, passage_dispatcher hrender,
    fun _ hmem => passage_reader hrender hmem, fun _ _ => dispatched_eq_handle hfit, ?_⟩
  intro endpoint hplan input
  rw [Endpoint.receive_eq_handle, hplan]
  exact dispatched_eq_handle hfit input endpoint

end Rust

/-- **Dispatching is determined.** Each role of a conformance interface has a plan by which it
handles every string of bytes according to the rules, whatever its handlers do, and in particular
when they take down their calls. Of parameters that are read in order, those behind one that
cannot be read change neither the fault nor where reading stops. The code that is generated for the
role does the same. -/
theorem dispatch_determined (interface : Interface) (h : interface ∈ Conformance.interfaces)
    (role : Role) :
    ∃ plan, RolePlan.ofInterface interface role = .ok plan ∧
      (∀ (σ : Type) (handler : Call → σ → σ) (state after : σ) input result,
        plan.handle handler input state = (result, after) ↔
          plan.Handles handler state input result after) ∧
      (∀ endpoint : Endpoint, endpoint.plan = plan → ∀ input result after,
        endpoint.receive input = (result, after) ↔
          plan.Handles Endpoint.record endpoint input result after) ∧
      (∀ before type later cursor middle stuck e, ∀ values : Arguments before,
        Decodes before cursor values middle → decode type.format middle = (.error e, stuck) →
          decodeAll (before ++ type :: later) cursor = (.error e, stuck)) ∧
      ∃ text, Target.rust.generateInterface interface role = .ok text ∧
        Rust.Receives plan text := by
  have hwf := Conformance.wellFormed interface h
  have hnodup := hwf.nodup_accepted role
  obtain ⟨text, hgenerate⟩ := (@Rust.generateInterface_succeeds_iff interface role).mpr
    ⟨hwf, Rust.acceptable_conformance.2 interface h⟩
  refine ⟨_, RolePlan.ofInterface_of_wellFormed hwf role, ?_, ?_, ?_, text, hgenerate,
    Rust.receives hgenerate⟩
  · intro σ handler state after input result
    exact RolePlan.handle_eq_iff hnodup
  · rintro endpoint hplan input result after
    rw [Endpoint.receive_eq_handle, hplan]
    exact RolePlan.handle_eq_iff hnodup
  · intro before type later cursor middle stuck e values hbefore hfailed
    exact decodeAll_of_failed hbefore hfailed later

open Conformance in
/-- A label that is not UTF-8, before a weight that could be read. -/
theorem dispatch_determined_label :
    telemetry ∈ interfaces ∧
    ∃ plan, RolePlan.ofInterface telemetry .server = .ok plan ∧
      ∀ endpoint : Endpoint, endpoint.plan = plan →
        endpoint.receive [0, 2, 0, 1, 0xff, 0, 42] = (.error (.decode .invalidUtf8), endpoint) ∧
        Rust.dispatched plan Endpoint.record [0, 2, 0, 1, 0xff, 0, 42] endpoint =
          some (.error (.decode .invalidUtf8), endpoint) := by
  have hmem : telemetry ∈ interfaces := by decide
  obtain ⟨plan, hplan, -, hreceive, -, text, -, hcode⟩ :=
    dispatch_determined telemetry hmem .server
  suffices h : ∀ endpoint : Endpoint, endpoint.plan = plan →
      endpoint.receive [0, 2, 0, 1, 0xff, 0, 42] = (.error (.decode .invalidUtf8), endpoint) from
    ⟨hmem, plan, hplan, fun endpoint hendpoint => ⟨h endpoint hendpoint,
      (hcode.works endpoint hendpoint _).trans (congrArg some (h endpoint hendpoint))⟩⟩
  refine fun endpoint hendpoint => (hreceive endpoint hendpoint _ _ _).mpr ?_
  have hwf := Conformance.wellFormed telemetry hmem
  obtain rfl := Except.ok.inj (hplan.symm.trans (RolePlan.ofInterface_of_wellFormed hwf .server))
  have hlabel : decode .text ⟨2, [0, 1, 0xff, 0, 42]⟩ = (.error .invalidUtf8, ⟨5, [0, 42]⟩) := by
    decide +kernel
  have hentry : ⟨telemetry.sends[1], .request, ⟨2⟩⟩ ∈ (telemetry.plan .server).incoming := by
    decide
  have htypes : Message.types ⟨telemetry.sends[1], .request, ⟨2⟩⟩ =
      [] ++ .scalar .text :: [.scalar .u16] := rfl
  exact .failed hentry (by decide) htypes .nil hlabel

end Bindery
