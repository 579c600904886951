import Bindery.Proofs.CppNames
import Bindery.Proofs.CppOutline
import Bindery.Proofs.RustAcceptance

/-!
# Generated code realises its plan

Code that was generated has the outline of its plan, in every language (`outline_eq`). So its text
sends and accepts the opcodes of the plan in order, and what a role's text puts into a message, the
peer's text reads.

**Links.** The routines of a text refer to each other by name. The checks of the names see to it
that routines of one kind have distinct names, and routines of different kinds have names that start
differently (`Frame.Begins`), so every reference has one target (`Linked`).

Main results: `text_realises_plan` and `routines_linked`.
-/

namespace Bindery

namespace Language

/-- The shapes of lines in the language. -/
def shapes : Language → List Shape
  | .cpp => Cpp.shapes
  | .rust => Rust.shapes

/-- What stands beside the routines of the messages. -/
def frame : Language → Frame
  | .cpp => Cpp.frame
  | .rust => Rust.frame

/-- What can be read off the lines of a text in the language. -/
def outline (language : Language) (text : String) : List Mark :=
  outlineOf language.shapes text

theorem naming_frame (language : Language) : language.frame.naming = language.target.naming := by
  cases language <;> rfl

variable {language : Language} {interface : Interface} {role : Role} {text : String}

/-- **The outline of generated code.** -/
theorem outline_eq (h : language.target.generateInterface interface role = .ok text) :
    language.outline text = language.frame.outline (interface.plan role) := by
  obtain ⟨hwell, -, hrender⟩ := Target.generateInterface_eq_ok_iff.mp h
  cases language with
  | cpp =>
    obtain ⟨text', hrender', houtline⟩ := Cpp.outlineOf_classLayout (hwell.wellNamed role)
    obtain rfl : text' = text := Option.some.inj (hrender'.symm.trans hrender)
    exact houtline
  | rust =>
    obtain ⟨text', hrender', houtline⟩ := Rust.outlineOf_moduleLayout (hwell.wellNamed role)
    obtain rfl : text' = text := Option.some.inj (hrender'.symm.trans hrender)
    exact houtline

end Language

section Realisation

variable (language : Language) {interface : Interface} {role : Role} {text : String}

/-- **The text realises the plan.** Read line by line, the code for a role starts messages with the
opcodes that the plan emits and branches on those it accepts, in order. If there is code for the
peer as well, that branches on the very opcodes which are sent; each branch leads to a routine of
that code, and the routine reads the parameters that are put into the message, in the order in which
they are declared. -/
theorem text_realises_plan (h : language.target.generateInterface interface role = .ok text) :
    ∃ plan, RolePlan.ofInterface interface role = .ok plan ∧
      (language.outline text).filterMap Mark.sent? = plan.emittedOpcodes.map Opcode.toInt ∧
      (language.outline text).filterMap Mark.accepted? = plan.acceptedOpcodes.map Opcode.toInt ∧
      ∀ peerText, language.target.generateInterface interface role.peer = .ok peerText →
        (language.outline text).filterMap Mark.sent? =
          (language.outline peerText).filterMap Mark.accepted? ∧
        sendings (language.outline text) = plan.outgoing.map language.target.naming.sending ∧
        arms (language.outline peerText) = plan.outgoing.map language.target.naming.arm ∧
        readings (language.outline peerText) =
          plan.outgoing.map language.target.naming.reading := by
  have hwell := (Target.generateInterface_eq_ok_iff.mp h).1
  refine ⟨interface.plan role, RolePlan.ofInterface_of_wellFormed hwell role, ?_, ?_, ?_⟩
  · rw [Language.outline_eq h, Frame.sent_outline, RolePlan.emittedOpcodes, List.map_map]
    rfl
  · rw [Language.outline_eq h, Frame.accepted_outline, RolePlan.acceptedOpcodes, List.map_map]
    rfl
  · intro peerText hpeer
    -- What the role emits is what its peer accepts.
    have hincoming : (interface.plan role.peer).incoming = (interface.plan role).outgoing := by
      simp only [Interface.plan, Role.peer_peer]
    rw [Language.outline_eq h, Language.outline_eq hpeer, Frame.sent_outline,
      Frame.accepted_outline, Frame.sendings_outline, Frame.arms_outline, Frame.readings_outline,
      hincoming, Language.naming_frame]
    exact ⟨rfl, rfl, rfl, rfl⟩

/-- Both sides of an interface in which a parameter is called like a keyword. -/
theorem text_realises_plan_telemetry :
    ∃ text peerText,
      Language.rust.target.generateInterface Conformance.telemetry .client = .ok text ∧
      Language.rust.target.generateInterface Conformance.telemetry .server = .ok peerText ∧
      (Language.rust.outline text).filterMap Mark.sent? = [1, 2, -16384] ∧
      (Language.rust.outline peerText).filterMap Mark.accepted? = [1, 2, -16384] ∧
      (sendings (Language.rust.outline text)).map Sending.parameters =
        [["r#type", "readings", "sequence"], ["label", "weight"], ["accepted"]] ∧
      (readings (Language.rust.outline peerText)).map Reading.parameters =
        [["r#type", "readings", "sequence"], ["label", "weight"], ["accepted"]] := by
  have hacceptable := Rust.acceptable_conformance.2 Conformance.telemetry (by decide)
  have hwell := Conformance.wellFormed Conformance.telemetry (by decide)
  obtain ⟨text, htext⟩ := (@Rust.generateInterface_succeeds_iff _ .client).mpr ⟨hwell, hacceptable⟩
  obtain ⟨peerText, hpeer⟩ :=
    (@Rust.generateInterface_succeeds_iff _ .server).mpr ⟨hwell, hacceptable⟩
  obtain ⟨plan, hplan, hsent, -, hboth⟩ := text_realises_plan .rust htext
  obtain ⟨-, rfl⟩ := RolePlan.ofInterface_eq_ok_iff.mp hplan
  obtain ⟨haccepted, hsendings, -, hreadings⟩ := hboth peerText hpeer
  refine ⟨text, peerText, htext, hpeer, ?_, ?_, ?_, ?_⟩
  · rw [hsent]
    decide
  · rw [← haccepted, hsent]
    decide
  · rw [hsendings]
    decide
  · rw [hreadings]
    decide

end Realisation

/-! ## Links -/

section Lists

variable {α κ : Type} [DecidableEq κ] {key : α → κ} {items : List α}

/-- Among items with distinct keys, an item is the only one with its key. -/
theorem filter_key_eq (h : (items.map key).Nodup) {a : α} (ha : a ∈ items) :
    items.filter (fun b => key b = key a) = [a] := by
  induction items with
  | nil => cases ha
  | cons b rest ih =>
    obtain ⟨hb, hrest⟩ := List.nodup_cons.mp h
    rcases List.mem_cons.mp ha with rfl | ha
    · have hnone : rest.filter (fun c => key c = key a) = [] := by
        refine List.filter_eq_nil_iff.mpr fun c hc hkey => hb ?_
        rw [← of_decide_eq_true hkey]
        exact List.mem_map_of_mem hc
      simp [hnone]
    · have hne : key b ≠ key a := fun heq => hb (heq ▸ List.mem_map_of_mem ha)
      simp [hne, ih hrest ha]

end Lists

/-- The handlers that the branches lead to, one for each way there. -/
def reached (marks : List Mark) : List String :=
  (arms marks).flatMap fun arm =>
    ((readings marks).filter fun reading => reading.routine = arm.routine).map Reading.handler

/-- Every routine that an outline refers to is there once, and every routine that is out of sight or
left to the user is referred to once. -/
structure Linked (frame : Frame) (plan : RolePlan) (marks : List Mark) : Prop where
  /-- The branches lead to distinct routines. -/
  arms_nodup : ((arms marks).map Arm.routine).Nodup
  /-- A branch leads to a routine that is defined once, and no other routine has its name. -/
  arm_defined : ∀ arm ∈ arms marks,
    (marks.filterMap Mark.defined?).count arm.routine = 1 ∧
    (marks.filterMap Mark.routine?).count arm.routine = 1
  /-- That routine reads the one message with the opcode of the branch, and calls its handler. -/
  arm_reads : ∀ arm ∈ arms marks, ∃! message, message ∈ plan.incoming ∧
    message.opcode.toInt = arm.opcode ∧
    (readings marks).filter (fun reading => reading.routine = arm.routine) =
      [frame.naming.reading message]
  /-- A handler that is called is declared once, and no other routine has its name. -/
  handler_declared : ∀ reading ∈ readings marks,
    (marks.filterMap Mark.declared?).count reading.handler = 1 ∧
    (marks.filterMap Mark.routine?).count reading.handler = 1
  /-- One branch leads to each routine out of sight, save the one that branches. -/
  reader_reached : ∀ routine ∈ marks.filterMap Mark.defined?,
    routine = frame.dispatcher ∨ ((arms marks).map Arm.routine).count routine = 1
  /-- One branch leads to each handler. -/
  handler_reached : ∀ handler ∈ marks.filterMap Mark.declared?, (reached marks).count handler = 1

/-- The letters that tell names of routines of different kinds apart. -/
def beginning (name : String) : List Char :=
  name.toList.take 2

theorem beginning_append {c d : Char} {cs : List Char} {rest : String} :
    beginning (String.ofList (c :: d :: cs) ++ rest) = [c, d] := by
  simp [beginning]

/-- The kinds of routines in generated code. -/
inductive RoutineKind where
  | handler
  | reader
  | sender
  | provided
  | dispatcher
  deriving DecidableEq

namespace Frame

section Outline

variable {frame : Frame} {plan : RolePlan}

theorem routines_arms_outline :
    (arms (frame.outline plan)).map Arm.routine = plan.incoming.map frame.naming.reader := by
  rw [arms_outline, List.map_map]
  rfl

/-- The reader of a message is found by its name alone. -/
theorem readings_of_reader (h : (plan.incoming.map frame.naming.reader).Nodup) {message : Message}
    (hmessage : message ∈ plan.incoming) :
    (readings (frame.outline plan)).filter
        (fun reading => reading.routine = frame.naming.reader message) =
      [frame.naming.reading message] := by
  have hkeys : ((plan.incoming.map frame.naming.reading).map Reading.routine).Nodup := by
    rw [List.map_map]
    exact h
  rw [readings_outline]
  exact filter_key_eq hkeys (List.mem_map_of_mem hmessage)

theorem reached_outline (h : (plan.incoming.map frame.naming.reader).Nodup) :
    reached (frame.outline plan) = plan.incoming.map frame.naming.handler := by
  rw [reached, arms_outline, List.flatMap_map, List.map_eq_flatMap]
  refine List.flatMap_congr fun message hmessage => ?_
  rw [Naming.arm, readings_of_reader h hmessage]
  rfl

end Outline

/-- The names of the routines of a kind. -/
def names (frame : Frame) (plan : RolePlan) : RoutineKind → List String
  | .handler => plan.incoming.map frame.naming.handler
  | .reader => plan.incoming.map frame.naming.reader
  | .sender => plan.outgoing.map frame.naming.sender
  | .provided => frame.provided
  | .dispatcher => [frame.dispatcher]

/-- The names of the routines of each kind begin with its letters, and no other kind has those of
the handlers or of the readers. -/
structure Begins (frame : Frame) (letters : RoutineKind → List Char) : Prop where
  beginning : ∀ plan kind, ∀ name ∈ frame.names plan kind, beginning name = letters kind
  handler : ∀ other, other ≠ .handler → letters other ≠ letters .handler
  reader : ∀ other, other ≠ .reader → letters other ≠ letters .reader

variable {frame : Frame} {plan : RolePlan} {letters : RoutineKind → List Char}

theorem beginning_of_mem_names
    (hhandler : ∀ message, beginning (frame.naming.handler message) = letters .handler)
    (hreader : ∀ message, beginning (frame.naming.reader message) = letters .reader)
    (hsender : ∀ message, beginning (frame.naming.sender message) = letters .sender)
    (hprovided : ∀ name ∈ frame.provided, beginning name = letters .provided)
    (hdispatcher : beginning frame.dispatcher = letters .dispatcher) (plan : RolePlan)
    (kind : RoutineKind) : ∀ name ∈ frame.names plan kind, beginning name = letters kind := by
  cases kind with
  | handler => exact List.forall_mem_map.mpr fun message _ => hhandler message
  | reader => exact List.forall_mem_map.mpr fun message _ => hreader message
  | sender => exact List.forall_mem_map.mpr fun message _ => hsender message
  | provided => exact hprovided
  | dispatcher => exact List.forall_mem_singleton.mpr hdispatcher

variable (h : frame.Begins letters)
include h

/-- Among routines of several kinds, those with a given name are of the one kind that begins like
it. -/
theorem Begins.count_names {kind : RoutineKind}
    (hapart : ∀ other, other ≠ kind → letters other ≠ letters kind) {name : String}
    (hname : name ∈ frame.names plan kind) {kinds : List RoutineKind} (hkinds : kinds.Nodup)
    (hkind : kind ∈ kinds) :
    (kinds.flatMap (frame.names plan)).count name = (frame.names plan kind).count name := by
  have hnone : ∀ other, other ≠ kind → name ∉ frame.names plan other := by
    intro other hother hmem
    have hletters :=
      (h.beginning plan other name hmem).symm.trans (h.beginning plan kind name hname)
    exact hapart other hother hletters
  induction kinds with
  | nil => cases hkind
  | cons first rest ih =>
    obtain ⟨hfirst, hrest⟩ := List.nodup_cons.mp hkinds
    rw [List.flatMap_cons, List.count_append]
    rcases List.mem_cons.mp hkind with rfl | hkind
    · have hlater : name ∉ rest.flatMap (frame.names plan) := by
        intro hmem
        obtain ⟨other, hother, hmem⟩ := List.mem_flatMap.mp hmem
        exact hnone other (ne_of_mem_of_not_mem hother hfirst) hmem
      rw [List.count_eq_zero_of_not_mem hlater, Nat.add_zero]
    · have hother := hnone first (ne_of_mem_of_not_mem hkind hfirst).symm
      rw [List.count_eq_zero_of_not_mem hother, ih hrest hkind, Nat.zero_add]

/-- **Links of a plan.** If the kinds begin differently, and the names of the handlers and of the
readers are distinct, then the outline of the plan is linked. -/
theorem Begins.linked (hhandlers : (plan.incoming.map frame.naming.handler).Nodup)
    (hreaders : (plan.incoming.map frame.naming.reader).Nodup)
    (hopcodes : (plan.incoming.map Message.opcode).Nodup) :
    Linked frame plan (frame.outline plan) := by
  have hdeclared : (frame.outline plan).filterMap Mark.declared? =
      [RoutineKind.handler].flatMap (frame.names plan) := by
    rw [declared_outline, List.flatMap_singleton]
    rfl
  have hdefined : (frame.outline plan).filterMap Mark.defined? =
      [RoutineKind.reader, .dispatcher].flatMap (frame.names plan) := by
    rw [defined_outline]
    simp [names]
  have hroutines : (frame.outline plan).filterMap Mark.routine? =
      [RoutineKind.handler, .sender, .provided, .reader, .dispatcher].flatMap
        (frame.names plan) := by
    rw [routines_outline]
    simp [names]
  refine ⟨?_, ?_, ?_, ?_, ?_, ?_⟩
  · rw [routines_arms_outline]
    exact hreaders
  · rw [arms_outline, List.forall_mem_map]
    intro message hmessage
    have hmem : frame.naming.reader message ∈ frame.names plan .reader :=
      List.mem_map_of_mem hmessage
    have hone := List.count_eq_one_of_mem hreaders hmem
    rw [hdefined, hroutines]
    exact ⟨(h.count_names h.reader hmem (by decide) (by decide)).trans hone,
      (h.count_names h.reader hmem (by decide) (by decide)).trans hone⟩
  · rw [arms_outline, List.forall_mem_map]
    intro message hmessage
    refine ⟨message, ⟨hmessage, rfl, readings_of_reader hreaders hmessage⟩, ?_⟩
    rintro other ⟨hother, hopcode, -⟩
    exact List.inj_on_of_nodup_map hopcodes hother hmessage (Opcode.toInt_inj hopcode)
  · rw [readings_outline, List.forall_mem_map]
    intro message hmessage
    have hmem : frame.naming.handler message ∈ frame.names plan .handler :=
      List.mem_map_of_mem hmessage
    have hone := List.count_eq_one_of_mem hhandlers hmem
    rw [hdeclared, hroutines]
    exact ⟨(h.count_names h.handler hmem (by decide) (by decide)).trans hone,
      (h.count_names h.handler hmem (by decide) (by decide)).trans hone⟩
  · rw [defined_outline, routines_arms_outline, List.forall_mem_append]
    refine ⟨fun routine hroutine => .inr (List.count_eq_one_of_mem hreaders hroutine), ?_⟩
    exact List.forall_mem_singleton.mpr (.inl rfl)
  · rw [declared_outline, reached_outline hreaders]
    exact fun handler hhandler => List.count_eq_one_of_mem hhandlers hhandler

end Frame

/-- The first letters of the names of C++ routines. -/
def Cpp.letters : RoutineKind → List Char
  | .handler => ['P', 'r']
  | .reader => ['P', 'a']
  | .sender => ['S', 'e']
  | .provided | .dispatcher => ['D', 'i']

theorem Cpp.beginning_handler (message : Message) :
    beginning (Cpp.naming.handler message) = Cpp.letters .handler := by
  rw [handler_eq]
  exact beginning_append

theorem Cpp.beginning_reader (message : Message) :
    beginning (Cpp.naming.reader message) = Cpp.letters .reader := by
  rw [reader_eq]
  exact beginning_append

theorem Cpp.beginning_sender (message : Message) :
    beginning (Cpp.naming.sender message) = Cpp.letters .sender := by
  rcases message with ⟨rpc, _ | _, opcode⟩ <;> exact beginning_append

theorem Cpp.begins : Cpp.frame.Begins Cpp.letters where
  beginning := Frame.beginning_of_mem_names beginning_handler beginning_reader beginning_sender
    (by decide) (by decide)
  handler other := by cases other <;> decide
  reader other := by cases other <;> decide

/-- The first letters of the names of Rust routines. -/
def Rust.letters : RoutineKind → List Char
  | .handler => ['p', 'r']
  | .reader => ['p', 'a']
  | .sender => ['s', 'e']
  | .provided | .dispatcher => ['d', 'i']

theorem Rust.begins : Rust.frame.Begins Rust.letters where
  beginning := by
    refine Frame.beginning_of_mem_names (fun message => ?_) (fun message => ?_) (fun message => ?_)
      (by decide) (by decide)
    · rw [frame, handler_eq]
      exact beginning_append
    · rw [frame, reader_eq]
      exact beginning_append
    · rcases message with ⟨rpc, _ | _, opcode⟩ <;> exact beginning_append
  handler other := by cases other <;> decide
  reader other := by cases other <;> decide

section Links

variable (language : Language) {interface : Interface} {role : Role} {text : String}

/-- **Links.** In code that was generated, the branches lead to distinct routines; each of these is
defined once, reads the one message with the opcode of its branch, and calls a handler that is
declared once. No routine that reads and no handler is there without exactly one branch that leads
to it. -/
theorem routines_linked (h : language.target.generateInterface interface role = .ok text) :
    ∃ plan, RolePlan.ofInterface interface role = .ok plan ∧
      Linked language.frame plan (language.outline text) := by
  obtain ⟨hwell, hnames, -⟩ := Target.generateInterface_eq_ok_iff.mp h
  have hopcodes := hwell.nodup_emitted role.peer
  refine ⟨interface.plan role, RolePlan.ofInterface_of_wellFormed hwell role, ?_⟩
  rw [Language.outline_eq h]
  cases language with
  | cpp =>
    have hfit := Cpp.checkNames_eq_ok_iff.mp hnames
    exact Cpp.begins.linked hfit.nodup_handlers hfit.nodup_readers hopcodes
  | rust =>
    have hfit := Rust.checkNames_eq_ok_iff.mp hnames
    exact Rust.begins.linked hfit.nodup_handlers hfit.nodup_readers hopcodes

/-- The branches of a client that awaits a reply and a request. -/
theorem routines_linked_daemonController :
    ∃ plan text,
      Language.rust.target.generateInterface Conformance.daemonController .client = .ok text ∧
      RolePlan.ofInterface Conformance.daemonController .client = .ok plan ∧
      arms (Language.rust.outline text) = [⟨-2, "parse_server_show_clients_reply"⟩,
        ⟨16384, "parse_get_parameter_from_user_request"⟩] ∧
      Linked Language.rust.frame plan (Language.rust.outline text) := by
  have hacceptable := Rust.acceptable_conformance.2 Conformance.daemonController (by decide)
  have hwell := Conformance.wellFormed Conformance.daemonController (by decide)
  obtain ⟨text, htext⟩ := (@Rust.generateInterface_succeeds_iff _ .client).mpr ⟨hwell, hacceptable⟩
  obtain ⟨plan, hplan, hlinked⟩ := routines_linked .rust htext
  refine ⟨plan, text, htext, hplan, ?_, hlinked⟩
  rw [@Language.outline_eq .rust _ _ _ htext, Frame.arms_outline]
  decide

end Links

end Bindery
