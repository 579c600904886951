import Bindery.Language
import Bindery.Proofs.Generation
import Bindery.Proofs.RustNames
import Bindery.Proofs.RustOutline

/-!
# What is accepted for Rust

Names are written in snake case, which is not one to one: two names can become one, lose all their
characters, or start with a digit. Definitions are accepted exactly if that does not happen
(`Acceptable`), a condition in which no role occurs.

**Parameters.** Keywords are escaped after the conversion. Snake case has neither a hash nor an
underscore at the end, so the escapes can be undone (`unescape_parameterName`) and bring no two
names together.

**Routines.** The name of a routine tells the name of the rpc in snake case and the leg, and nothing
else (`Labels`). A role writes requests of the one list and replies of the other, so routines of one
kind clash only within a list (`nodup_signatures_iff`). Between them, the roles write every leg, and
each of them names a routine for what it writes and for what it reads; so both see every clash.

Main results: `namesFit_plan_iff` and `acceptance_exact`.
-/

namespace Bindery.Rust

open Scope Text

section Lists

variable {α β γ : Type} {f : α → β} {g : α → γ} {items : List α}

/-- Distinct values depend only on which items have the same value. -/
theorem nodup_map_congr (h : ∀ a ∈ items, ∀ b ∈ items, f a = f b ↔ g a = g b) :
    (items.map f).Nodup ↔ (items.map g).Nodup := by
  rw [List.nodup_iff_pairwise_ne, List.nodup_iff_pairwise_ne, List.pairwise_map, List.pairwise_map]
  exact List.Pairwise.iff_of_mem fun ha hb => not_congr (h _ ha _ hb)

end Lists

/-! ## Parameters -/

/-- What the name of a parameter can be. -/
theorem parameterName_cases (name : String) :
    (snakeCase name ∈ pathKeywords ∧ parameterName name = snakeCase name ++ "_") ∨
    (snakeCase name ∈ keywords ∧ parameterName name = "r#" ++ snakeCase name) ∨
    (snakeCase name ∉ pathKeywords ∧ snakeCase name ∉ keywords ∧
      parameterName name = snakeCase name) := by
  simp only [parameterName, List.contains_iff_mem]
  by_cases hpath : snakeCase name ∈ pathKeywords
  · simp [hpath]
  · by_cases hkeyword : snakeCase name ∈ keywords <;> simp [hpath, hkeyword]

/-- The snake case behind the name of a parameter. -/
def unescape : List Char → List Char
  | 'r' :: '#' :: cs => cs
  | cs => if cs.getLast? = some '_' then cs.dropLast else cs

theorem unescape_of_notMem {cs : List Char} (h : '#' ∉ cs) :
    unescape cs = if cs.getLast? = some '_' then cs.dropLast else cs := by
  unfold unescape
  split
  · simp at h
  · rfl

section Parameters

variable {name : String} (h : IsSnake (snakeCase name).toList)
include h

theorem unescape_parameterName :
    unescape (parameterName name).toList = (snakeCase name).toList := by
  have hhash := hash_notMem h.isIdentifierChar
  rcases parameterName_cases name with ⟨-, heq⟩ | ⟨-, heq⟩ | ⟨-, -, heq⟩
  · rw [heq, unescape_of_notMem (by simpa using hhash)]
    simp
  · rw [heq]
    simp [unescape]
  · rw [heq, unescape_of_notMem hhash, if_neg h.getLast?_ne]

theorem isUsable_parameterName :
    isUsable (parameterName name) = true ↔
      snakeCase name ≠ "" ∧ startsWithDigit (snakeCase name).toList = false := by
  have hchars : IsPlain (snakeCase name) := h.isIdentifierChar
  rcases parameterName_cases name with ⟨hpath, heq⟩ | ⟨-, heq⟩ | ⟨-, -, heq⟩
  · have hne : snakeCase name ≠ "" := by
      rintro hempty
      rw [hempty] at hpath
      exact absurd hpath (by decide)
    rw [heq, isUsable_iff (hchars.append (.lit rfl)), String.toList_append,
      startsWithDigit_append (by decide)]
    simp [hne]
  · rw [heq, isUsable_raw, isIdentifier_iff]
    simp only [ne_eq, String.toList_eq_nil_iff]
    exact ⟨fun ⟨hne, hdigit, _⟩ => ⟨hne, hdigit⟩, fun ⟨hne, hdigit⟩ => ⟨hne, hdigit, hchars⟩⟩
  · rw [heq, isUsable_iff hchars, ne_eq, String.toList_eq_nil_iff]

theorem parameterName_notMem_reservedLocals :
    parameterName name ∉ reservedLocals ↔ snakeCase name ∉ reservedParameterNames := by
  rcases parameterName_cases name with ⟨hpath, heq⟩ | ⟨hkeyword, heq⟩ | ⟨-, -, heq⟩
  · have hfree : ∀ word ∈ pathKeywords, word ++ "_" ∉ reservedLocals ∧
        word ∉ reservedParameterNames := by decide
    simp [heq, hfree _ hpath]
  · have hfree : ∀ word ∈ keywords, word ∉ reservedParameterNames := by decide
    have hhash : ∀ word ∈ reservedLocals, '#' ∉ word.toList := by decide
    have hraw : "r#" ++ snakeCase name ∉ reservedLocals := fun hmem => hhash _ hmem (by simp)
    simp [heq, hraw, hfree _ hkeyword]
  · have hunderscore : snakeCase name ≠ "_" := by
      intro hsnake
      exact h.getLast?_ne (by rw [hsnake]; rfl)
    simp [heq, reservedLocals, reservedParameterNames, hunderscore]

end Parameters

/-- The names of parameters stay apart in snake case, and each of them can be used. -/
def ParametersAcceptable (parameters : List Parameter) : Prop :=
  (parameters.map fun p => snakeCase p.name).Nodup ∧
    ∀ p ∈ parameters, snakeCase p.name ≠ "" ∧ startsWithDigit (snakeCase p.name).toList = false ∧
      snakeCase p.name ∉ reservedParameterNames

instance (parameters : List Parameter) : Decidable (ParametersAcceptable parameters) :=
  inferInstanceAs (Decidable (_ ∧ _))

theorem rendered_eq (message : Message) :
    naming.rendered message = message.parameters.map fun p => parameterName p.name := by
  simp only [Naming.rendered, Naming.parameters, List.map_map, parameter_naming,
    Function.comp_def]

/-- **Parameters of a routine.** Escaping brings no two names together. -/
theorem fits_parameters_iff {message : Message} (h : message.rpc.WellFormed) :
    Fits reservedLocals (naming.rendered message) ↔ ParametersAcceptable message.parameters := by
  have hsnake : ∀ p ∈ message.parameters, IsSnake (snakeCase p.name).toList := fun p hp =>
    isSnake_snakeCase (isPlain_of_isIdentifier (h.parameters.1 p hp).1)
  have hnodup : (message.parameters.map fun p => parameterName p.name).Nodup ↔
      (message.parameters.map fun p => snakeCase p.name).Nodup := by
    refine nodup_map_congr fun p hp q hq => ⟨fun heq => ?_, fun heq => ?_⟩
    · rw [← String.toList_inj, ← unescape_parameterName (hsnake p hp), heq,
        unescape_parameterName (hsnake q hq)]
    · simp only [parameterName, heq]
  rw [rendered_eq, Fits, hnodup, List.forall_mem_map, ParametersAcceptable]
  refine and_congr_right fun _ => forall₂_congr fun p hp => ?_
  rw [isUsable_parameterName (hsnake p hp), parameterName_notMem_reservedLocals (hsnake p hp),
    and_assoc]

/-! ## Routines -/

/-- What a routine has in its name from its message. -/
def signature (message : Message) : String × Leg :=
  (snakeCase message.rpc.name, message.leg)

/-- Names of routines of one kind, which all start with one letter. -/
structure Labels (first : Char) (name : Message → String) : Prop where
  plain : ∀ message, isIdentifier message.rpc.name.toList = true → IsPlain (name message)
  head : ∀ message, (name message).toList.head? = some first
  underscore : ∀ message, '_' ∈ (name message).toList
  eq_iff : ∀ m m', name m = name m' ↔ signature m = signature m'

theorem head?_append_lit {c : Char} {cs : List Char} {rest : String} :
    (String.ofList (c :: cs) ++ rest).toList.head? = some c := by
  simp

theorem underscore_mem_append {cs : List Char} {rest : String} (h : '_' ∈ cs) :
    '_' ∈ (String.ofList cs ++ rest).toList := by
  simp [h]

theorem legSuffix_append_inj {a b : String} {leg leg' : Leg}
    (h : a ++ ("_" ++ legSuffix leg) = b ++ ("_" ++ legSuffix leg')) : a = b ∧ leg = leg' := by
  have hlast := congrArg (fun text => text.toList.getLast?) h
  cases leg <;> cases leg'
  · exact ⟨(String.append_left_inj _).mp h, rfl⟩
  · simp [legSuffix] at hlast
  · simp [legSuffix] at hlast
  · exact ⟨(String.append_left_inj _).mp h, rfl⟩

/-- Names with the leg at the end. -/
theorem labels_of_stem {first : Char} {stem : List Char} {name : Message → String}
    (hname : ∀ message, name message = String.ofList (first :: stem) ++
      (snakeCase message.rpc.name ++ ("_" ++ legSuffix message.leg)))
    (hplain : IsPlain (String.ofList (first :: stem))) (hstem : '_' ∈ stem) :
    Labels first name where
  plain message h := by
    rw [hname]
    refine hplain.append ((isPlain_snakeCase (isPlain_of_isIdentifier h)).append
      ((IsPlain.lit rfl).append ?_))
    cases message.leg <;> exact .lit rfl
  head message := by
    rw [hname]
    exact head?_append_lit
  underscore message := by
    rw [hname]
    exact underscore_mem_append (List.mem_cons_of_mem first hstem)
  eq_iff m m' := by
    rw [hname, hname, String.append_right_inj]
    constructor
    · intro heq
      obtain ⟨hsnake, hleg⟩ := legSuffix_append_inj heq
      exact Prod.ext hsnake hleg
    · intro heq
      obtain ⟨hsnake, hleg⟩ := Prod.mk.inj heq
      rw [hsnake, hleg]

theorem labels_handler : Labels 'p' naming.handler :=
  labels_of_stem (fun _ => handler_eq) (.lit rfl) (by decide)

theorem labels_reader : Labels 'p' naming.reader :=
  labels_of_stem (fun _ => reader_eq) (.lit rfl) (by decide)

theorem labels_sender : Labels 's' naming.sender where
  plain := by
    rintro ⟨rpc, _ | _, opcode⟩ h <;>
      exact (IsPlain.lit rfl).append (isPlain_snakeCase (isPlain_of_isIdentifier h))
  head := by
    rintro ⟨rpc, _ | _, opcode⟩ <;> exact head?_append_lit
  underscore := by
    rintro ⟨rpc, _ | _, opcode⟩ <;> exact underscore_mem_append (by decide)
  eq_iff := by
    -- The stems differ behind `send_re`, so names of different legs do too.
    rintro ⟨rpc, _ | _, opcode⟩ ⟨rpc', _ | _, opcode'⟩ <;>
      simp [naming, signature, ← String.toList_inj]

theorem Labels.fits_iff {first : Char} {name : Message → String} (h : Labels first name)
    (hfirst : first.isDigit = false) {reserved : List String}
    (hreserved : ∀ word ∈ reserved, '_' ∉ word.toList) {messages : List Message}
    (hwell : ∀ message ∈ messages, message.rpc.WellFormed) :
    Fits reserved (messages.map name) ↔ (messages.map signature).Nodup := by
  rw [Fits, nodup_map_congr fun m _ m' _ => h.eq_iff m m', and_iff_left_iff_imp,
    List.forall_mem_map]
  intro _ message hmessage
  refine ⟨(isUsable_iff (h.plain message (hwell message hmessage).1)).mpr ⟨?_, ?_⟩, ?_⟩
  · exact List.ne_nil_of_mem (h.underscore message)
  · rw [startsWithDigit, h.head, Option.any_some, hfirst]
  · exact fun hmem => hreserved _ hmem (h.underscore message)

/-! ## Signatures -/

/-- The rpcs of a list of which a role writes a message. -/
def rpcsEmitted (interface : Interface) (role : Role) (list : RpcList) : List Rpc :=
  (interface.rpcs list).filter fun rpc => rpc.has (role.emits list)

theorem map_filter_eq_filterMap {α β : Type} (p : α → Bool) (f : α → β) (items : List α) :
    (items.filter p).map f = items.filterMap fun a => if p a then some (f a) else none := by
  induction items with
  | nil => rfl
  | cons a rest ih => by_cases h : p a = true <;> simp [h, ih]

theorem signatures_emitted (interface : Interface) (role : Role) :
    (interface.emitted role).map signature =
      (rpcsEmitted interface role .sends).map
          (fun rpc => (snakeCase rpc.name, role.emits .sends)) ++
      (rpcsEmitted interface role .receives).map
        (fun rpc => (snakeCase rpc.name, role.emits .receives)) := by
  have hlist : ∀ list, ((interface.placesIn list).filterMap (Place.emission role)).map signature =
      (rpcsEmitted interface role list).map fun rpc => (snakeCase rpc.name, role.emits list) := by
    intro list
    rw [rpcsEmitted, map_filter_eq_filterMap, List.map_filterMap, Interface.placesIn,
      List.filterMap_map]
    conv_rhs => rw [← List.zipIdx_map_fst 0 (interface.rpcs list), List.filterMap_map]
    refine List.filterMap_congr fun place _ => ?_
    simp only [Function.comp_apply, Place.emission]
    split <;> rfl
  rw [Interface.emitted, Interface.places, List.filterMap_append, List.map_append, hlist, hlist]

theorem nodup_signatures_iff {interface : Interface} {role : Role} :
    ((interface.emitted role).map signature).Nodup ↔
      ∀ list, ((rpcsEmitted interface role list).map fun rpc => snakeCase rpc.name).Nodup := by
  have hnodup : ∀ list, ((rpcsEmitted interface role list).map
      fun rpc => (snakeCase rpc.name, role.emits list)).Nodup ↔
        ((rpcsEmitted interface role list).map fun rpc => snakeCase rpc.name).Nodup :=
    fun list => nodup_map_congr fun _ _ _ _ => by simp
  -- A role writes requests of one list and replies of the other.
  have hlegs : role.emits .sends ≠ role.emits .receives := by
    cases role <;> decide
  rw [signatures_emitted, List.nodup_append, hnodup, hnodup]
  constructor
  · rintro ⟨hsends, hreceives, -⟩ list
    cases list with
    | sends => exact hsends
    | receives => exact hreceives
  · intro h
    refine ⟨h .sends, h .receives, ?_⟩
    simp only [List.forall_mem_map]
    intro rpc _ rpc' _ heq
    exact hlegs (Prod.mk.inj heq).2

/-- Between them, the roles write every request; so nothing is left out of the lists. -/
theorem nodup_both_signatures_iff (interface : Interface) (role : Role) :
    ((interface.emitted role.peer).map signature).Nodup ∧
      ((interface.emitted role).map signature).Nodup ↔
        ∀ list, ((interface.rpcs list).map fun rpc => snakeCase rpc.name).Nodup := by
  rw [nodup_signatures_iff, nodup_signatures_iff]
  have hall : ∀ (other : Role) (list : RpcList), other.emits list = .request →
      rpcsEmitted interface other list = interface.rpcs list := by
    intro other list hrequest
    simp [rpcsEmitted, hrequest, Rpc.has]
  constructor
  · rintro ⟨hpeer, hrole⟩ list
    rcases role.emits_or_peer_emits list .request with hrequest | hrequest
    · exact hall role list hrequest ▸ hrole list
    · exact hall role.peer list hrequest ▸ hpeer list
  · intro h
    have hsome : ∀ other list,
        ((rpcsEmitted interface other list).map fun rpc => snakeCase rpc.name).Nodup :=
      fun other list => (h list).sublist (List.filter_sublist.map _)
    exact ⟨hsome role.peer, hsome role⟩

theorem fits_methods_iff {interface : Interface} (h : interface.WellFormed) (role : Role) :
    Fits ["dispatch", "send"] ((interface.emitted role.peer).map naming.handler ++
        (interface.emitted role).map naming.sender) ↔
      ((interface.emitted role.peer).map signature).Nodup ∧
        ((interface.emitted role).map signature).Nodup := by
  have happart : ∀ a ∈ (interface.emitted role.peer).map naming.handler,
      ∀ b ∈ (interface.emitted role).map naming.sender, a ≠ b := by
    simp only [List.forall_mem_map]
    intro m _ m' _ heq
    have hhead := labels_handler.head m
    rw [heq, labels_sender.head] at hhead
    exact absurd hhead (by decide)
  have hreserved : ∀ word ∈ ["dispatch", "send"], '_' ∉ word.toList := by decide
  rw [fits_append,
    labels_handler.fits_iff (by decide) hreserved fun m hm => h.emitted hm,
    labels_sender.fits_iff (by decide) hreserved fun m hm => h.emitted hm]
  exact and_congr_right fun _ => and_iff_left happart

theorem fits_readers_iff {interface : Interface} (h : interface.WellFormed) (role : Role) :
    Fits ["dispatch"] ((interface.emitted role.peer).map naming.reader) ↔
      ((interface.emitted role.peer).map signature).Nodup :=
  labels_reader.fits_iff (by decide) (by decide) fun _ hm => h.emitted hm

/-! ## Interfaces -/

/-- The names of rpcs stay apart in snake case, and so do those of the parameters in each leg. -/
def RpcsAcceptable (rpcs : List Rpc) : Prop :=
  (rpcs.map fun rpc => snakeCase rpc.name).Nodup ∧
    ∀ rpc ∈ rpcs, ParametersAcceptable rpc.request ∧ ParametersAcceptable rpc.reply

instance (rpcs : List Rpc) : Decidable (RpcsAcceptable rpcs) :=
  inferInstanceAs (Decidable (_ ∧ _))

/-- The name of the interface can be used in snake case, and each of its lists is acceptable. -/
def InterfaceAcceptable (interface : Interface) : Prop :=
  startsWithDigit (snakeCase interface.name).toList = false ∧ RpcsAcceptable interface.sends ∧
    RpcsAcceptable interface.receives

instance (interface : Interface) : Decidable (InterfaceAcceptable interface) :=
  inferInstanceAs (Decidable (_ ∧ _))

theorem interfaceAcceptable_iff {interface : Interface} :
    InterfaceAcceptable interface ↔ startsWithDigit (snakeCase interface.name).toList = false ∧
      ∀ list, RpcsAcceptable (interface.rpcs list) := by
  rw [InterfaceAcceptable, and_congr_right_iff]
  intro _
  constructor
  · rintro ⟨hsends, hreceives⟩ list
    cases list with
    | sends => exact hsends
    | receives => exact hreceives
  · intro h
    exact ⟨h .sends, h .receives⟩

section Items

variable {name : String} (h : isIdentifier name.toList = true) (role : Role)
include h

theorem isPlain_moduleName : IsPlain (moduleName name role) := by
  refine ((isPlain_snakeCase (isPlain_of_isIdentifier h)).append (.lit rfl)).append ?_
  cases role <;> exact .lit rfl

theorem isUsable_moduleName :
    isUsable (moduleName name role) = true ↔ startsWithDigit (snakeCase name).toList = false := by
  rw [isUsable_iff (isPlain_moduleName h role), moduleName, String.append_assoc,
    String.toList_append, startsWithDigit_append (by cases role <;> decide)]
  simp

theorem isUsable_traitName :
    isUsable (traitName name role) = true ↔ startsWithDigit (snakeCase name).toList = false := by
  have hchars := isPlain_of_isIdentifier h
  have hplain : IsPlain (traitName name role) := by
    refine ((isPlain_camelCase hchars).append ?_).append (.lit rfl)
    cases role <;> exact .lit rfl
  rw [isUsable_iff hplain, traitName, String.append_assoc, String.toList_append,
    startsWithDigit_append (by cases role <;> decide), startsWithDigit_camelCase hchars]
  simp

theorem fits_items_iff :
    Fits [] [moduleName name role, traitName name role] ↔
      startsWithDigit (snakeCase name).toList = false := by
  have hne : moduleName name role ≠ traitName name role := by
    intro heq
    have hlast := congrArg (fun text => text.toList.getLast?) heq
    cases role <;> simp [moduleName, traitName, Role.name] at hlast
  simp [Fits, hne, isUsable_moduleName h, isUsable_traitName h]

end Items

/-- **Names of an interface.** Which of the roles the names are for makes no difference. -/
theorem namesFit_plan_iff {interface : Interface} (h : interface.WellFormed) (role : Role) :
    NamesFit (interface.plan role) ↔ InterfaceAcceptable interface := by
  have hwell := (h.wellNamed role).2
  have hlegs := @interface.forall_parameters_iff role ParametersAcceptable
    ⟨List.nodup_nil, by simp⟩
  rw [interfaceAcceptable_iff]
  constructor
  · intro hfit
    have hrpcs := (nodup_both_signatures_iff interface role).mp
      ((fits_methods_iff h role).mp hfit.methods)
    have hparameters := hlegs.mp fun message hmessage =>
      (fits_parameters_iff (hwell message hmessage)).mp (hfit.parameters message hmessage)
    exact ⟨(fits_items_iff h.1 role).mp hfit.items, fun list => ⟨hrpcs list, hparameters list⟩⟩
  · rintro ⟨hname, hlists⟩
    have hsignatures := (nodup_both_signatures_iff interface role).mpr fun list => (hlists list).1
    have hparameters := hlegs.mpr fun list => (hlists list).2
    exact ⟨(fits_items_iff h.1 role).mpr hname, (fits_methods_iff h role).mpr hsignatures,
      (fits_readers_iff h role).mpr hsignatures.1, fun message hmessage =>
        (fits_parameters_iff (hwell message hmessage)).mpr (hparameters message hmessage)⟩

/-- **Code for one interface.** -/
theorem generateInterface_succeeds_iff {interface : Interface} {role : Role} :
    (∃ text, Target.rust.generateInterface interface role = .ok text) ↔
      interface.WellFormed ∧ InterfaceAcceptable interface := by
  simp only [Target.generateInterface_eq_ok_iff]
  constructor
  · rintro ⟨text, hwell, hnames, -⟩
    exact ⟨hwell, (namesFit_plan_iff hwell role).mp (checkNames_eq_ok_iff.mp hnames)⟩
  · rintro ⟨hwell, hacceptable⟩
    -- Names that fit cannot break a line, so there is a text.
    obtain ⟨text, hrender, -⟩ := outlineOf_moduleLayout (hwell.wellNamed role)
    exact ⟨text, hwell, checkNames_eq_ok_iff.mpr ((namesFit_plan_iff hwell role).mpr hacceptable),
      hrender⟩

/-! ## Files -/

theorem checkModules_eq_ok_iff {role : Role} {interfaces : List Interface} :
    checkModules role interfaces = .ok () ↔
      Fits [] (interfaces.map fun interface => moduleName interface.name role) := by
  have hclaims := Claims.foldlM (fun modules (interface : Interface) =>
    claims_claim modules interface.name interface.name (moduleName interface.name role)) interfaces
    (Scope.empty [])
  rw [checkModules, drop_eq_ok_iff, claims_empty_iff hclaims, ← List.map_eq_flatMap]
  simp

/-- The names of the interfaces stay apart in snake case, and each interface is acceptable. -/
def Acceptable (interfaces : List Interface) : Prop :=
  (interfaces.map fun interface => snakeCase interface.name).Nodup ∧
    ∀ interface ∈ interfaces, InterfaceAcceptable interface

instance (interfaces : List Interface) : Decidable (Acceptable interfaces) :=
  inferInstanceAs (Decidable (_ ∧ _))

theorem acceptable_conformance : Acceptable Conformance.interfaces := by
  decide

theorem nodup_modules_iff {role : Role} {interfaces : List Interface} :
    (interfaces.map fun interface => moduleName interface.name role).Nodup ↔
      (interfaces.map fun interface => snakeCase interface.name).Nodup :=
  nodup_map_congr fun _ _ _ _ => by simp [moduleName]

theorem generate_succeeds_iff {definitions : Definitions} {role : Role} :
    (∃ text, Target.rust.generate definitions role = .ok text) ↔
      Acceptable definitions.interfaces := by
  have heach : (∃ texts, (definitions.interfaces.mapM fun interface =>
      Target.rust.generateInterface interface role) = .ok texts) ↔
        ∀ interface ∈ definitions.interfaces, InterfaceAcceptable interface := by
    rw [mapM_succeeds_iff]
    refine forall₂_congr fun interface hinterface => ?_
    rw [generateInterface_succeeds_iff]
    exact and_iff_right (definitions.wellFormed interface hinterface)
  have hsteps : (∃ text, Target.rust.generate definitions role = .ok text) ↔
      checkModules role definitions.interfaces = .ok () ∧ ∃ texts,
        (definitions.interfaces.mapM fun interface =>
          Target.rust.generateInterface interface role) = .ok texts := by
    simp only [Target.generate_eq_ok_iff]
    constructor
    · rintro ⟨_, hmodules, texts, htexts, -⟩
      exact ⟨hmodules, texts, htexts⟩
    · rintro ⟨hmodules, texts, htexts⟩
      exact ⟨_, hmodules, texts, htexts, rfl⟩
  rw [hsteps, heach, checkModules_eq_ok_iff, Fits, nodup_modules_iff, List.forall_mem_map,
    Acceptable, and_congr_left_iff]
  intro hacceptable
  refine and_iff_left fun interface hinterface => ⟨?_, List.not_mem_nil⟩
  have hwell := definitions.wellFormed interface hinterface
  exact (isUsable_moduleName hwell.1 role).mpr (hacceptable interface hinterface).1

/-- **What is accepted.** Code is generated for a role exactly if the names of the definitions stay
apart and can be used in snake case, so if it is for one role, it is for the other as well. It is
then the code for the interfaces one by one. -/
theorem acceptance_exact (definitions : Definitions) (role : Role) :
    ((∃ text, Target.rust.generate definitions role = .ok text) ↔
      Acceptable definitions.interfaces) ∧
    ((∃ text, Target.rust.generate definitions role = .ok text) ↔
      ∃ text, Target.rust.generate definitions role.peer = .ok text) ∧
    ∀ text, Target.rust.generate definitions role = .ok text ↔
      Acceptable definitions.interfaces ∧ ∃ texts,
        (definitions.interfaces.mapM fun interface =>
          Target.rust.generateInterface interface role) = .ok texts ∧
        text = "\n".intercalate texts := by
  refine ⟨generate_succeeds_iff, generate_succeeds_iff.trans generate_succeeds_iff.symm, ?_⟩
  intro text
  constructor
  · intro h
    exact ⟨generate_succeeds_iff.mp ⟨text, h⟩, (Target.generate_eq_ok_iff.mp h).2⟩
  · rintro ⟨hacceptable, htexts⟩
    obtain ⟨_, h⟩ := (@generate_succeeds_iff definitions role).mpr hacceptable
    exact Target.generate_eq_ok_iff.mpr ⟨(Target.generate_eq_ok_iff.mp h).1, htexts⟩

-- The lists of an interface do not share a scope, but the rpcs of one list do.
example : Acceptable [⟨"Link", [⟨"GetValue", [], []⟩], [⟨"get_value", [], []⟩]⟩] ∧
    ¬Acceptable [⟨"Link", [⟨"GetValue", [], []⟩, ⟨"get_value", [], []⟩], []⟩] := by
  decide

end Bindery.Rust
