import Bindery.Proofs.CppWords
import Bindery.Proofs.Realisation

/-!
# What is accepted for C++

Names of interfaces and rpcs are used as written, so an interface that passed its checks can only
fail for its parameters: because one of them is escaped into another, or hides something that the
generated routine calls (`InterfaceAcceptable`).

**Members.** The names of the members of a class tell the name of the rpc, the leg and the kind of
the routine (`eq_of_handler`, `eq_of_reader`, `eq_of_sender`, `Cpp.begins`). A role writes requests
of one list and replies of the other, and so does its peer; within a list the names of the rpcs
differ. So members never clash, whatever the rpcs are called (`fits_members`).

**Faults.** All members can be claimed, so a fault comes from the scope of a routine. There the
first name that does not fit is that of a parameter (`ParameterFault`).

Main results: `namesFit_plan_iff`, `parameterFault_of_error` and `acceptance_by_parameters`.
-/

namespace Bindery

/-- The leg that a role reads of the rpcs of a list. -/
def Role.accepts (role : Role) (list : RpcList) : Leg :=
  match role.direction list with
  | .outbound => .reply
  | .inbound => .request

theorem Role.emits_peer (role : Role) (list : RpcList) :
    role.peer.emits list = role.accepts list := by
  cases role <;> cases list <;> rfl

/-- The parameters of a leg. -/
def Rpc.parameters (rpc : Rpc) : Leg → List Parameter
  | .request => rpc.request
  | .reply => rpc.reply

theorem Message.parameters_eq (message : Message) :
    message.parameters = message.rpc.parameters message.leg := by
  unfold Message.parameters Rpc.parameters
  cases message.leg <;> rfl

namespace Cpp

open Scope

/-! ## Names that can be used -/

theorem isUsable_of_isIdentifier {name : String} (h : isIdentifier name.toList = true) :
    isUsable name = true := by
  obtain ⟨hne, hdigit, hplain⟩ := isIdentifier_iff.mp h
  exact (isUsable_iff hplain).mpr ⟨hne, hdigit⟩

theorem handler_notMem_reservedLocals (message : Message) :
    naming.handler message ∉ reservedLocals := by
  have hother : ∀ word ∈ reservedLocals, beginning word ≠ ['P', 'r'] := by decide
  intro hmem
  exact hother _ hmem (beginning_handler message)

/-! ## Parameters -/

/-- The members of the transport class that generated routines call. -/
def baseMembers : List String := ["DecodeFromBuffer", "EncodeToBuffer", "Send", "SendCursor"]

/-- What the name of a parameter can be. -/
theorem parameterName_cases (name : String) :
    (name ∈ keywords ∧ parameterName name = name ++ "_") ∨
    (name ∉ keywords ∧ parameterName name = name) := by
  by_cases h : name ∈ keywords <;> simp [parameterName, h]

theorem escape_notMem_keywords : ∀ word ∈ keywords, word ++ "_" ∉ keywords := by
  decide +kernel

theorem parameterName_eq_iff {a b : String} :
    parameterName a = parameterName b ↔
      a = b ∨ (a ∈ keywords ∧ b = a ++ "_") ∨ (b ∈ keywords ∧ a = b ++ "_") := by
  rcases parameterName_cases a with ⟨ha, hrendered⟩ | ⟨ha, hrendered⟩ <;>
    rcases parameterName_cases b with ⟨hb, hrendered'⟩ | ⟨hb, hrendered'⟩ <;>
    rw [hrendered, hrendered']
  · have hother : ∀ c d : String, c ∈ keywords → d ∈ keywords → d ≠ c ++ "_" := by
      intro c d hc hd heq
      exact escape_notMem_keywords c hc (heq ▸ hd)
    simp [hother a b ha hb, hother b a hb ha]
  · have hne : a ≠ b := fun heq => hb (heq ▸ ha)
    simp [ha, hb, hne, eq_comm]
  · have hne : a ≠ b := fun heq => ha (heq ▸ hb)
    simp [ha, hb, hne]
  · simp [ha, hb]

theorem parameterName_mem_reservedLocals {name : String} (h : name ∉ reservedParameterNames) :
    parameterName name ∈ reservedLocals ↔ name ∈ baseMembers := by
  rcases parameterName_cases name with ⟨hkeyword, heq⟩ | ⟨-, heq⟩
  · have hfree : ∀ word ∈ keywords, word ++ "_" ∉ reservedLocals ∧ word ∉ baseMembers := by
      decide +kernel
    simp [heq, hfree name hkeyword]
  · have hcursor : name ≠ "cursor" := by
      intro hname
      rw [hname] at h
      exact absurd h (by decide)
    simp [heq, reservedLocals, baseMembers, hcursor]

theorem parameterName_of_mem_baseMembers {name : String} (h : name ∈ baseMembers) :
    parameterName name = name := by
  have hplain : ∀ word ∈ baseMembers, parameterName word = word := by decide
  exact hplain name h

/-- No keyword is called like a handler, nor is one once it is escaped. -/
theorem parameterName_eq_handler {name : String} {message : Message} :
    parameterName name = naming.handler message ↔ name = naming.handler message := by
  have hfirst : (naming.handler message).toList.head? = some 'P' := by
    rw [handler_eq]
    simp
  rcases parameterName_cases name with ⟨hkeyword, heq⟩ | ⟨-, heq⟩
  · have hother : ∀ word ∈ keywords, (word ++ "_").toList.head? ≠ some 'P' ∧
        word.toList.head? ≠ some 'P' := by decide +kernel
    rw [heq]
    constructor
    · intro h
      exact absurd (h ▸ hfirst) (hother name hkeyword).1
    · intro h
      exact absurd (h ▸ hfirst) (hother name hkeyword).2
  · rw [heq]

/-- The names of parameters hide no member that is called, and none is escaped into another. -/
def ParametersAcceptable (parameters : List Parameter) : Prop :=
  (∀ p ∈ parameters, p.name ∉ baseMembers) ∧
    ∀ word ∈ keywords, ¬(word ∈ parameters.map Parameter.name ∧
      word ++ "_" ∈ parameters.map Parameter.name)

instance (parameters : List Parameter) : Decidable (ParametersAcceptable parameters) :=
  inferInstanceAs (Decidable (_ ∧ _))

theorem rendered_eq (message : Message) :
    naming.rendered message = (message.parameters.map Parameter.name).map parameterName := by
  simp only [Naming.rendered, Naming.parameters, List.map_map, parameter_naming,
    Function.comp_def]

section Parameters

variable {message : Message} (h : message.rpc.WellFormed)
include h

theorem nodup_rendered_iff : (naming.rendered message).Nodup ↔
    ∀ word ∈ keywords, ¬(word ∈ message.parameters.map Parameter.name ∧
      word ++ "_" ∈ message.parameters.map Parameter.name) := by
  rw [rendered_eq, List.nodup_map_iff_inj_on h.parameters.2]
  constructor
  · intro hinj word hword hboth
    have heq := hinj word hboth.1 _ hboth.2
      (parameterName_eq_iff.mpr (.inr (.inl ⟨hword, rfl⟩)))
    exact escape_notMem_keywords word hword (heq ▸ hword)
  · intro hkeywords a ha b hb heq
    rcases parameterName_eq_iff.mp heq with heq | ⟨hword, rfl⟩ | ⟨hword, rfl⟩
    · exact heq
    · exact absurd ⟨ha, hb⟩ (hkeywords a hword)
    · exact absurd ⟨hb, ha⟩ (hkeywords b hword)

/-- **Parameters of a routine.** -/
theorem fits_parameters_iff :
    Fits reservedLocals (naming.rendered message) ↔ ParametersAcceptable message.parameters := by
  have hfree : (∀ name ∈ naming.rendered message, isUsable name = true ∧ name ∉ reservedLocals) ↔
      ∀ p ∈ message.parameters, p.name ∉ baseMembers := by
    rw [rendered_eq, List.map_map, List.forall_mem_map]
    refine forall₂_congr fun p hp => ?_
    obtain ⟨hidentifier, hreserved⟩ := h.parameters.1 p hp
    rw [Function.comp_apply, parameterName_mem_reservedLocals hreserved]
    exact and_iff_right (isUsable_of_isIdentifier (isIdentifier_parameterName hidentifier))
  rw [Fits, nodup_rendered_iff h, hfree, ParametersAcceptable, and_comm]

/-- A routine that reads must not hide the handler it calls. -/
theorem fits_handler_iff :
    Fits reservedLocals (naming.handler message :: naming.rendered message) ↔
      ParametersAcceptable message.parameters ∧
        naming.handler message ∉ message.parameters.map Parameter.name := by
  have hhandler : naming.handler message ∈ naming.rendered message ↔
      naming.handler message ∈ message.parameters.map Parameter.name := by
    rw [rendered_eq, List.mem_map]
    simp only [parameterName_eq_handler, exists_eq_right]
  have hcons : Fits reservedLocals (naming.handler message :: naming.rendered message) ↔
      Fits reservedLocals (naming.rendered message) ∧
        naming.handler message ∉ naming.rendered message := by
    simp only [Fits, List.nodup_cons, List.forall_mem_cons,
      isUsable_of_isIdentifier (isIdentifier_handler h.1), handler_notMem_reservedLocals message,
      not_false_eq_true, and_self, true_and]
    tauto
  rw [hcons, fits_parameters_iff h, hhandler]

end Parameters

/-! ## Members -/

/-- The members of a class that belong to messages. -/
def members (plan : RolePlan) : List String :=
  (plan.incoming.flatMap fun message => [naming.handler message, naming.reader message]) ++
    plan.outgoing.map naming.sender

/-- What a member has in its name from its message. -/
def signature (message : Message) : String × Leg :=
  (message.rpc.name, message.leg)

theorem label_append_inj {a b : String} {leg leg' : Leg} (h : a ++ leg.label = b ++ leg'.label) :
    (a, leg) = (b, leg') := by
  have hlast := congrArg (fun text => text.toList.getLast?) h
  cases leg <;> cases leg'
  · rw [(String.append_left_inj _).mp h]
  · simp [Leg.label] at hlast
  · simp [Leg.label] at hlast
  · rw [(String.append_left_inj _).mp h]

section Signatures

variable {m m' : Message}

theorem eq_of_handler (h : naming.handler m = naming.handler m') : signature m = signature m' := by
  rw [handler_eq, handler_eq, String.append_right_inj] at h
  exact label_append_inj h

theorem eq_of_reader (h : naming.reader m = naming.reader m') : signature m = signature m' := by
  rw [reader_eq, reader_eq, String.append_right_inj] at h
  exact label_append_inj h

theorem eq_of_sender (h : naming.sender m = naming.sender m') : signature m = signature m' := by
  obtain ⟨rpc, leg, opcode⟩ := m
  obtain ⟨rpc', leg', opcode'⟩ := m'
  -- The stems differ behind `SendRe`, so names of different legs do too.
  cases leg <;> cases leg' <;> simp [naming, signature, ← String.toList_inj] at h ⊢ <;> exact h

end Signatures

theorem nodup_signatures {interface : Interface} (h : interface.WellFormed) (role : Role) :
    ((interface.emitted role).map signature).Nodup := by
  rw [List.nodup_iff_pairwise_ne, List.pairwise_map, Interface.emitted, List.pairwise_filterMap]
  refine interface.pairwise_places.imp_of_mem ?_
  intro p q hp hq hne m hm m' hm' heq
  rw [(Place.emission_eq_some_iff.mp hm).2, (Place.emission_eq_some_iff.mp hm').2] at heq
  obtain ⟨hname, hleg⟩ := Prod.mk.inj heq
  -- The leg tells which of the lists the rpc is in, and there its name is the only one.
  have hlist : p.list = q.list := by
    have hlegs : role.emits .sends ≠ role.emits .receives := by cases role <;> decide
    cases hp : p.list <;> cases hq : q.list <;> simp_all [Place.message]
  have hnodup : ((interface.rpcs p.list).map Rpc.name).Nodup := by
    cases p.list with
    | sends => exact h.2.1.2.2
    | receives => exact h.2.2.2.2
  have hrpc := Interface.mem_places.mp hp
  have hrpc' := Interface.mem_places.mp hq
  rw [← hlist] at hrpc'
  have hindex : p.index < ((interface.rpcs p.list).map Rpc.name).length := by
    rw [List.length_map]
    exact (List.getElem?_eq_some_iff.mp hrpc).1
  refine hne ⟨hlist, (List.getElem?_inj hindex hnodup).mp ?_⟩
  rw [List.getElem?_map, List.getElem?_map, hrpc, hrpc']
  exact congrArg some hname

theorem isUsable_of_mem_members {plan : RolePlan} (h : plan.WellNamed) :
    ∀ name ∈ members plan, isUsable name = true ∧ name ∉ ["Dispatch"] := by
  have hother : ∀ {name : String} {cs : List Char}, beginning name = cs → cs ≠ ['D', 'i'] →
      name ∉ ["Dispatch"] := by
    intro name cs hname hne hmem
    rw [List.mem_singleton.mp hmem] at hname
    exact hne hname.symm
  intro name hname
  rcases List.mem_append.mp hname with hname | hname
  · obtain ⟨message, hmessage, hname⟩ := List.mem_flatMap.mp hname
    have hrpc := (h.incoming hmessage).1
    rcases List.mem_pair.mp hname with rfl | rfl
    · exact ⟨isUsable_of_isIdentifier (isIdentifier_handler hrpc),
        hother (beginning_handler message) (by decide)⟩
    · exact ⟨isUsable_of_isIdentifier (isIdentifier_reader hrpc),
        hother (beginning_reader message) (by decide)⟩
  · obtain ⟨message, hmessage, rfl⟩ := List.mem_map.mp hname
    have hrpc := (h.outgoing hmessage).1
    exact ⟨isUsable_of_isIdentifier (isIdentifier_sender hrpc),
      hother (beginning_sender message) (by decide)⟩

/-- Members of different kinds begin differently. -/
theorem nodup_members {plan : RolePlan} (hincoming : (plan.incoming.map signature).Nodup)
    (houtgoing : (plan.outgoing.map signature).Nodup) : (members plan).Nodup := by
  have hkinds : ∀ m m', naming.handler m ≠ naming.reader m' ∧ naming.handler m ≠ naming.sender m' ∧
      naming.reader m ≠ naming.sender m' := by
    intro m m'
    have hhandler : beginning (naming.handler m) = ['P', 'r'] := beginning_handler m
    have hreader : ∀ m, beginning (naming.reader m) = ['P', 'a'] := beginning_reader
    have hsender : beginning (naming.sender m') = ['S', 'e'] := beginning_sender m'
    refine ⟨fun heq => ?_, fun heq => ?_, fun heq => ?_⟩
    · simp [heq, hreader] at hhandler
    · simp [heq, hsender] at hhandler
    · have hboth := hreader m
      simp [heq, hsender] at hboth
  refine List.nodup_append.mpr ⟨List.nodup_flatMap.mpr ⟨fun m _ => ?_, ?_⟩, ?_, ?_⟩
  · simp [(hkinds m m).1]
  · refine (List.pairwise_map.mp hincoming).imp ?_
    intro m m' hne name hname hname'
    rcases List.mem_pair.mp hname with rfl | rfl <;> rcases List.mem_pair.mp hname' with heq | heq
    · exact hne (eq_of_handler heq)
    · exact (hkinds m m').1 heq
    · exact (hkinds m' m).1 heq.symm
    · exact hne (eq_of_reader heq)
  · refine List.pairwise_map.mpr ((List.pairwise_map.mp houtgoing).imp ?_)
    intro m m' hne heq
    exact hne (eq_of_sender heq)
  · intro a ha b hb heq
    obtain ⟨m, -, ha⟩ := List.mem_flatMap.mp ha
    obtain ⟨m', -, rfl⟩ := List.mem_map.mp hb
    rcases List.mem_pair.mp ha with rfl | rfl
    · exact (hkinds m m').2.1 heq
    · exact (hkinds m m').2.2 heq

/-- **Members never clash.** -/
theorem fits_members {interface : Interface} (h : interface.WellFormed) (role : Role) :
    Fits ["Dispatch"] (members (interface.plan role)) :=
  ⟨nodup_members (nodup_signatures h role.peer) (nodup_signatures h role),
    isUsable_of_mem_members (h.wellNamed role)⟩

/-! ## Interfaces -/

/-- The parameters of each leg are acceptable, and in the leg that is read none is called like the
handler. -/
def RpcAcceptable (rpc : Rpc) (accepts : Leg) : Prop :=
  (ParametersAcceptable rpc.request ∧ ParametersAcceptable rpc.reply) ∧
    "Process" ++ rpc.name ++ accepts.label ∉ (rpc.parameters accepts).map Parameter.name

instance (rpc : Rpc) (accepts : Leg) : Decidable (RpcAcceptable rpc accepts) :=
  inferInstanceAs (Decidable (_ ∧ _))

/-- The rpcs of both lists are acceptable. -/
def InterfaceAcceptable (interface : Interface) (role : Role) : Prop :=
  (∀ rpc ∈ interface.sends, RpcAcceptable rpc (role.accepts .sends)) ∧
    ∀ rpc ∈ interface.receives, RpcAcceptable rpc (role.accepts .receives)

instance (interface : Interface) (role : Role) : Decidable (InterfaceAcceptable interface role) :=
  inferInstanceAs (Decidable (_ ∧ _))

theorem interfaceAcceptable_iff {interface : Interface} {role : Role} :
    InterfaceAcceptable interface role ↔
      ∀ list, ∀ rpc ∈ interface.rpcs list, RpcAcceptable rpc (role.accepts list) := by
  constructor
  · intro h list
    cases list with
    | sends => exact h.1
    | receives => exact h.2
  · intro h
    exact ⟨h .sends, h .receives⟩

theorem handlers_apart_iff (interface : Interface) (role : Role) :
    (∀ message ∈ (interface.plan role).incoming,
        naming.handler message ∉ message.parameters.map Parameter.name) ↔
      ∀ list, ∀ rpc ∈ interface.rpcs list, "Process" ++ rpc.name ++ (role.accepts list).label ∉
        (rpc.parameters (role.accepts list)).map Parameter.name := by
  constructor
  · intro h list rpc hrpc
    obtain ⟨index, hindex⟩ := List.mem_iff_getElem?.mp hrpc
    have hplace : ⟨list, index, rpc⟩ ∈ interface.places := Interface.mem_places.mpr hindex
    by_cases hhas : rpc.has (role.accepts list) = true
    · rw [← role.emits_peer] at hhas ⊢
      have hmessage := h _ (Interface.mem_emitted.mpr ⟨_, hplace, hhas, rfl⟩)
      rwa [Message.parameters_eq] at hmessage
    · -- A leg that the rpc does not have carries nothing.
      cases hleg : role.accepts list with
      | request => simp [hleg, Rpc.has] at hhas
      | reply =>
        have hnone : rpc.reply = [] := by simpa [hleg, Rpc.has, Rpc.hasReply] using hhas
        simp [Rpc.parameters, hnone]
  · intro h message hmessage
    obtain ⟨place, hplace, -, rfl⟩ := Interface.mem_emitted.mp hmessage
    have hrpc := h place.list place.rpc (List.mem_of_getElem? (Interface.mem_places.mp hplace))
    rw [← role.emits_peer] at hrpc
    rwa [Message.parameters_eq]

/-- **Names of an interface.** -/
theorem namesFit_plan_iff {interface : Interface} (h : interface.WellFormed) (role : Role) :
    NamesFit (interface.plan role) ↔ InterfaceAcceptable interface role := by
  have hwell := h.wellNamed role
  have hlegs := @interface.forall_parameters_iff role ParametersAcceptable ⟨by simp, by simp⟩
  rw [List.forall_mem_append] at hlegs
  have hhandlers := handlers_apart_iff interface role
  rw [interfaceAcceptable_iff]
  constructor
  · intro hfit list rpc hrpc
    have hincoming := fun message hmessage =>
      (fits_handler_iff (hwell.incoming hmessage)).mp (hfit.incoming message hmessage)
    have houtgoing := fun message hmessage =>
      (fits_parameters_iff (hwell.outgoing hmessage)).mp (hfit.outgoing message hmessage)
    exact ⟨hlegs.mp ⟨fun message hmessage => (hincoming message hmessage).1, houtgoing⟩ list rpc
      hrpc, hhandlers.mp (fun message hmessage => (hincoming message hmessage).2) list rpc hrpc⟩
  · intro hacceptable
    obtain ⟨hincoming, houtgoing⟩ := hlegs.mpr fun list rpc hrpc => (hacceptable list rpc hrpc).1
    have hapart := hhandlers.mpr fun list rpc hrpc => (hacceptable list rpc hrpc).2
    refine ⟨fits_members h role, fun message hmessage => ?_, fun message hmessage => ?_⟩
    · exact (fits_handler_iff (hwell.incoming hmessage)).mpr
        ⟨hincoming message hmessage, hapart message hmessage⟩
    · exact (fits_parameters_iff (hwell.outgoing hmessage)).mpr (houtgoing message hmessage)

/-- Well-formed names cannot break a line, so only the check of the names can fail. -/
theorem generateInterface_eq {interface : Interface} (h : interface.WellFormed) (role : Role) :
    ∃ text, Target.cpp.generateInterface interface role =
      (checkNames (interface.plan role)).map fun _ => text := by
  obtain ⟨text, hrender, -⟩ := outlineOf_classLayout (h.wellNamed role)
  refine ⟨text, ?_⟩
  rw [Target.generateInterface, RolePlan.ofInterface_of_wellFormed h role]
  cases hnames : checkNames (interface.plan role) with
  | error e => simp [bind, Except.bind, Target.render, Target.cpp, hnames, Except.map]
  | ok u => exact Target.render_eq_ok_iff.mpr ⟨hnames, hrender⟩

/-- **Code for one interface.** -/
theorem generateInterface_succeeds_iff {interface : Interface} (h : interface.WellFormed)
    {role : Role} :
    (∃ text, Target.cpp.generateInterface interface role = .ok text) ↔
      InterfaceAcceptable interface role := by
  obtain ⟨text, heq⟩ := generateInterface_eq h role
  rw [← namesFit_plan_iff h, ← checkNames_eq_ok_iff, heq]
  cases checkNames (interface.plan role) <;> simp [Except.map]

/-- **Code for several interfaces.** They are never in each other's way. -/
theorem generate_succeeds_iff {definitions : Definitions} {role : Role} :
    (∃ text, Target.cpp.generate definitions role = .ok text) ↔
      ∀ interface ∈ definitions.interfaces, InterfaceAcceptable interface role := by
  have heach : (∃ texts, (definitions.interfaces.mapM fun interface =>
      Target.cpp.generateInterface interface role) = .ok texts) ↔
      ∀ interface ∈ definitions.interfaces, InterfaceAcceptable interface role := by
    rw [mapM_succeeds_iff]
    exact forall₂_congr fun interface hinterface =>
      generateInterface_succeeds_iff (definitions.wellFormed interface hinterface)
  rw [← heach]
  constructor
  · rintro ⟨text, h⟩
    obtain ⟨-, texts, htexts, -⟩ := Target.generate_eq_ok_iff.mp h
    exact ⟨texts, htexts⟩
  · rintro ⟨texts, htexts⟩
    exact ⟨_, Target.generate_eq_ok_iff.mpr ⟨rfl, texts, htexts, rfl⟩⟩

/-! ## Faults -/

/-- What can stand in the way of a class: always a parameter. -/
inductive ParameterFault (interface : Interface) (role : Role) : GenerateError → Prop
  /-- A parameter hides a member that the routine calls. -/
  | hidesMember {list : RpcList} {rpc : Rpc} {leg : Leg} {name : String} :
      rpc ∈ interface.rpcs list → name ∈ (rpc.parameters leg).map Parameter.name →
      name ∈ baseMembers → ParameterFault interface role (.unusableName interface.name name name)
  /-- A keyword is escaped into the name of another parameter. -/
  | escapes {list : RpcList} {rpc : Rpc} {leg : Leg} {word first second : String} :
      rpc ∈ interface.rpcs list → word ∈ keywords →
      [first, second].Sublist ((rpc.parameters leg).map Parameter.name) →
      (first = word ∧ second = word ++ "_" ∨ first = word ++ "_" ∧ second = word) →
      ParameterFault interface role (.nameCollision interface.name first second (word ++ "_"))
  /-- A parameter hides the handler that the routine calls. -/
  | hidesHandler {list : RpcList} {rpc : Rpc} {handler : String} :
      rpc ∈ interface.rpcs list → handler = "Process" ++ rpc.name ++ (role.accepts list).label →
      handler ∈ (rpc.parameters (role.accepts list)).map Parameter.name →
      ParameterFault interface role (.nameCollision interface.name rpc.name handler handler)

section Faults

variable {interface : Interface} {role : Role} {e : GenerateError}

/-- In a scope of parameters alone, one of these is at fault. -/
theorem parameterFault_of_fault {list : RpcList} {message : Message}
    (hrpc : message.rpc ∈ interface.rpcs list) (h : message.rpc.WellFormed)
    (hfault : Fault reservedLocals interface.name (naming.parameters message) e) :
    ParameterFault interface role e := by
  have hentry : ∀ {name rendered : String}, (name, rendered) ∈ naming.parameters message →
      name ∈ message.parameters.map Parameter.name ∧ rendered = parameterName name := by
    intro name rendered hmem
    obtain ⟨p, hp, heq⟩ := List.mem_map.mp hmem
    obtain ⟨rfl, rfl⟩ := Prod.mk.inj heq
    exact ⟨List.mem_map_of_mem hp, by rw [parameter_naming]⟩
  have hnames : (naming.parameters message).map Prod.fst =
      message.parameters.map Parameter.name := by
    rw [Naming.parameters, List.map_map]
    rfl
  cases hfault with
  | @unusable name rendered hmem hunusable =>
    obtain ⟨hname, rfl⟩ := hentry hmem
    obtain ⟨p, hp, rfl⟩ := List.mem_map.mp hname
    obtain ⟨hidentifier, hreserved⟩ := h.parameters.1 p hp
    -- Every parameter can be used, so it hides a member.
    rw [isUsable_of_isIdentifier (isIdentifier_parameterName hidentifier),
      parameterName_mem_reservedLocals hreserved] at hunusable
    have hmember : p.name ∈ baseMembers := by simpa using hunusable
    rw [parameterName_of_mem_baseMembers hmember]
    rw [Message.parameters_eq] at hname
    exact .hidesMember hrpc hname hmember
  | @collision first second rendered hsublist =>
    obtain ⟨-, hfirst⟩ := hentry (hsublist.subset List.mem_cons_self)
    obtain ⟨-, hsecond⟩ := hentry (hsublist.subset (List.mem_cons_of_mem _ List.mem_cons_self))
    have hpair : [first, second].Sublist (message.parameters.map Parameter.name) := by
      rw [← hnames]
      exact hsublist.map Prod.fst
    have hne : first ≠ second := List.pairwise_iff_forall_sublist.mp h.parameters.2 hpair
    rw [Message.parameters_eq] at hpair
    -- Two names become the same only if one of them is escaped.
    rcases parameterName_eq_iff.mp (hfirst.symm.trans hsecond) with
      heq | ⟨hword, heq⟩ | ⟨hword, heq⟩
    · exact absurd heq hne
    · have hrendered : rendered = first ++ "_" := by
        rw [hfirst]
        simp [parameterName, hword]
      rw [hrendered]
      exact .escapes hrpc hword hpair (.inl ⟨rfl, heq⟩)
    · have hrendered : rendered = second ++ "_" := by
        rw [hsecond]
        simp [parameterName, hword]
      rw [hrendered]
      exact .escapes hrpc hword hpair (.inr ⟨heq, rfl⟩)

/-- **Faults of an interface.** -/
theorem parameterFault_of_error (h : interface.WellFormed)
    (he : Target.cpp.generateInterface interface role = .error e) :
    ParameterFault interface role e := by
  have hnames : checkNames (interface.plan role) = .error e := by
    obtain ⟨text, heq⟩ := generateInterface_eq h role
    rw [heq] at he
    cases hcheck : checkNames (interface.plan role) with
    | ok u => simp [hcheck, Except.map] at he
    | error e' =>
      rw [hcheck] at he
      rw [Except.error.inj he]
  have hplace : ∀ {other : Role} {message : Message}, message ∈ interface.emitted other →
      ∃ list, message.rpc ∈ interface.rpcs list ∧ message.leg = other.emits list := by
    intro other message hmessage
    obtain ⟨place, hplace, -, rfl⟩ := Interface.mem_emitted.mp hmessage
    exact ⟨place.list, List.mem_of_getElem? (Interface.mem_places.mp hplace), rfl⟩
  cases routineFault_of_checkNames (fits_members h role) hnames with
  | @sender message hmessage hfault =>
    obtain ⟨list, hrpc, -⟩ := hplace hmessage
    exact parameterFault_of_fault hrpc (h.emitted hmessage) hfault
  | @reader message hmessage hfault =>
    obtain ⟨list, hrpc, hleg⟩ := hplace hmessage
    have hwell := h.emitted hmessage
    have husable := isUsable_of_isIdentifier (isIdentifier_handler hwell.1)
    rcases hfault.cons husable (handler_notMem_reservedLocals message) with
      hfault | ⟨name, hmem, rfl⟩
    · exact parameterFault_of_fault hrpc hwell hfault
    · -- A parameter that became the handler was called like it from the start.
      obtain ⟨p, hp, heq⟩ := List.mem_map.mp hmem
      obtain ⟨rfl, hrendered⟩ := Prod.mk.inj heq
      rw [parameter_naming, parameterName_eq_handler] at hrendered
      have hname := List.mem_map_of_mem (f := Parameter.name) hp
      rw [role.emits_peer] at hleg
      rw [hrendered, Message.parameters_eq, hleg] at hname
      rw [hrendered]
      refine .hidesHandler hrpc ?_ hname
      rw [← hleg]
      rfl

end Faults

/-- **What is accepted.** An interface that passed its checks becomes a class for a role exactly if
its parameters are acceptable there; otherwise a parameter is named as the fault. So the names of
rpcs are never in the way: without parameters there is always a class. -/
theorem acceptance_by_parameters {interface : Interface} (h : interface.check = .ok ())
    (role : Role) :
    ((∃ text, Target.cpp.generateInterface interface role = .ok text) ↔
      InterfaceAcceptable interface role) ∧
    (∀ e, Target.cpp.generateInterface interface role = .error e →
      ParameterFault interface role e) ∧
    ((∀ list, ∀ rpc ∈ interface.rpcs list, rpc.request = [] ∧ rpc.reply = []) →
      ∃ text, Target.cpp.generateInterface interface role = .ok text) := by
  have hwell := Interface.check_eq_ok_iff.mp h
  refine ⟨generateInterface_succeeds_iff hwell, fun e => parameterFault_of_error hwell, ?_⟩
  intro hnone
  refine (generateInterface_succeeds_iff hwell).mpr (interfaceAcceptable_iff.mpr ?_)
  intro list rpc hrpc
  obtain ⟨hrequest, hreply⟩ := hnone list rpc hrpc
  refine ⟨⟨?_, ?_⟩, ?_⟩
  · simp [hrequest, ParametersAcceptable]
  · simp [hreply, ParametersAcceptable]
  · cases role.accepts list <;> simp [Rpc.parameters, hrequest, hreply]

/-- Rpcs that are called like pieces of each other's names, and a reply with a parameter that is
called like the handler of that reply. -/
def doors : Interface where
  name := "Doors"
  sends :=
    [{ name := "Open", request := [⟨"for", .scalar .u8⟩],
       reply := [⟨"ProcessOpenReply", .scalar .u8⟩] },
     { name := "open" },
     { name := "ForOpen" }]
  receives := [{ name := "Open", reply := [⟨"done", .scalar .u8⟩] }, { name := "OpenReply" }]

/-- Only the client reads that reply, so only the client gets no class. -/
theorem acceptance_by_parameters_doors :
    doors.check = .ok () ∧ (∃ text, Target.cpp.generateInterface doors .server = .ok text) ∧
    ∃ e, Target.cpp.generateInterface doors .client = .error e ∧
      ParameterFault doors .client e := by
  have h : doors.check = .ok () := Interface.check_eq_ok_iff.mpr (by decide)
  obtain ⟨hclient, hfault, -⟩ := acceptance_by_parameters h .client
  refine ⟨h, (acceptance_by_parameters h .server).1.mpr (by decide +kernel), ?_⟩
  cases hresult : Target.cpp.generateInterface doors .client with
  | error e => exact ⟨e, rfl, hfault e hresult⟩
  | ok text => exact absurd (hclient.mp ⟨text, hresult⟩) (by decide +kernel)

end Cpp

end Bindery
