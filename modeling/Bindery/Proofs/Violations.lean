import Bindery.Proofs.Check

/-!
# What a refusal names

The checks walk over a set of interfaces in nested loops and stop at the first fault. Here their
verdict is compared with the rules that they enforce, said in terms of names, positions and counts
only (`Definitions.Valid`), and each fault with the breach of a rule that it reports
(`Definitions.Violation`).

**Walking over a list.** A list whose items must differ fails at one of its items, or at an item
whose key stands at an earlier position too (`fault_of_checkDistinct`). So a fault found at any
depth is a fault of something that occurs in the definitions.

Main result: `definitions_decided`.
-/

namespace Bindery

/-- The name stands at two positions of the list. -/
def Twice (name : String) (names : List String) : Prop :=
  ∃ i j : Nat, i < j ∧ names[i]? = some name ∧ names[j]? = some name

/-- Letters and the underscore, with which names begin. -/
def IsNameStart (c : Char) : Prop :=
  ('A' ≤ c ∧ c ≤ 'Z') ∨ ('a' ≤ c ∧ c ≤ 'z') ∨ c = '_'

/-- The name has the form `[A-Za-z_][A-Za-z0-9_]*`. -/
def IsName (name : String) : Prop :=
  ∃ first rest, name.toList = first :: rest ∧ IsNameStart first ∧
    ∀ c ∈ rest, IsNameStart c ∨ ('0' ≤ c ∧ c ≤ '9')

/-- The parameters of the request and those of the reply. -/
def Rpc.legs (rpc : Rpc) : List (List Parameter) :=
  [rpc.request, rpc.reply]

/-- All names in an rpc. -/
def Rpc.names (rpc : Rpc) : List String :=
  rpc.name :: rpc.legs.flatMap (·.map Parameter.name)

/-- All names in an interface. -/
def Interface.names (interface : Interface) : List String :=
  interface.name :: (interface.sends ++ interface.receives).flatMap Rpc.names

namespace Definitions

/-- The rules for a set of interfaces. -/
structure Valid (interfaces : List Interface) : Prop where
  /-- No two interfaces have the same name. -/
  interfaces_differ : (interfaces.map Interface.name).Nodup
  /-- There are opcodes for all rpcs. -/
  rpcs_fit : ∀ interface ∈ interfaces,
    interface.sends.length ≤ 16383 ∧ interface.receives.length ≤ 16384
  /-- No two rpcs of a list have the same name. -/
  rpcs_differ : ∀ interface ∈ interfaces,
    (interface.sends.map Rpc.name).Nodup ∧ (interface.receives.map Rpc.name).Nodup
  /-- No two parameters of a leg have the same name, and none has a name that is reserved. -/
  parameters_differ : ∀ interface ∈ interfaces, ∀ rpc ∈ interface.sends ++ interface.receives,
    ∀ leg ∈ rpc.legs, (leg.map Parameter.name).Nodup ∧
      ∀ reserved ∈ ["cursor", "handler", "message"], reserved ∉ leg.map Parameter.name
  /-- All names have the form of a name. -/
  names_valid : ∀ interface ∈ interfaces, ∀ name ∈ interface.names, IsName name

/-- What a fault says of the interfaces it was found in. -/
inductive Violation (interfaces : List Interface) : SchemaError → Prop where
  | tooManySends {interface : Interface} (occurs : interface ∈ interfaces)
      (exceeds : interface.sends.length > 16383) :
      Violation interfaces (.tooManyRpcs interface.name .sends interface.sends.length)
  | tooManyReceives {interface : Interface} (occurs : interface ∈ interfaces)
      (exceeds : interface.receives.length > 16384) :
      Violation interfaces (.tooManyRpcs interface.name .receives interface.receives.length)
  | duplicateInterface {name : String} (twice : Twice name (interfaces.map Interface.name)) :
      Violation interfaces (.duplicateInterface name)
  | duplicateRpc {interface : Interface} {list : RpcList} {name : String}
      (occurs : interface ∈ interfaces)
      (twice : Twice name ((interface.rpcs list).map Rpc.name)) :
      Violation interfaces (.duplicateRpc interface.name list name)
  | duplicateParameter {interface : Interface} {rpc : Rpc} {leg : List Parameter} {name : String}
      (occurs : interface ∈ interfaces) (declared : rpc ∈ interface.sends ++ interface.receives)
      (carried : leg ∈ rpc.legs) (twice : Twice name (leg.map Parameter.name)) :
      Violation interfaces (.duplicateParameter rpc.name name)
  | invalidIdentifier {interface : Interface} {name : String} (occurs : interface ∈ interfaces)
      (used : name ∈ interface.names) (malformed : ¬IsName name) :
      Violation interfaces (.invalidIdentifier name)
  | reservedName {interface : Interface} {rpc : Rpc} {leg : List Parameter} {name : String}
      (occurs : interface ∈ interfaces) (declared : rpc ∈ interface.sends ++ interface.receives)
      (carried : leg ∈ rpc.legs) (used : name ∈ leg.map Parameter.name)
      (reserved : name ∈ ["cursor", "handler", "message"]) :
      Violation interfaces (.reservedName rpc.name name)

end Definitions

/-! ## Names and occurrences -/

theorem isAlpha_or_underscore_iff (c : Char) :
    (c.isAlpha || c == '_') = true ↔ IsNameStart c := by
  have halpha : c.isAlpha = (decide ('A'.val ≤ c.val ∧ c.val ≤ 'Z'.val) ||
      ('a'.val ≤ c.val && c.val ≤ 'z'.val)) := rfl
  simp only [halpha, IsNameStart, Bool.or_eq_true, beq_iff_eq, Bool.and_eq_true, decide_eq_true_eq,
    Char.le_def, or_assoc]

theorem isAlphanum_or_underscore_iff (c : Char) :
    (c.isAlphanum || c == '_') = true ↔ IsNameStart c ∨ ('0' ≤ c ∧ c ≤ '9') := by
  rw [← isAlpha_or_underscore_iff]
  simp only [Char.isAlphanum, Char.isDigit, Bool.or_eq_true, Bool.and_eq_true, decide_eq_true_eq,
    Char.le_def, ge_iff_le]
  exact or_right_comm

theorem isIdentifier_iff_isName (name : String) :
    isIdentifier name.toList = true ↔ IsName name := by
  unfold isIdentifier IsName
  cases name.toList with
  | nil => simp
  | cons first rest =>
    simp only [Bool.and_eq_true, List.all_eq_true, isAlpha_or_underscore_iff,
      isAlphanum_or_underscore_iff, List.cons.injEq]
    constructor
    · intro h
      exact ⟨first, rest, ⟨rfl, rfl⟩, h⟩
    · intro ⟨_, _, ⟨hfirst, hrest⟩, h⟩
      subst hfirst hrest
      exact h

theorem Interface.mem_rpcs_iff {interface : Interface} {rpc : Rpc} :
    rpc ∈ interface.sends ++ interface.receives ↔ ∃ list, rpc ∈ interface.rpcs list := by
  rw [List.mem_append]
  constructor
  · intro h
    cases h with
    | inl h => exact ⟨.sends, h⟩
    | inr h => exact ⟨.receives, h⟩
  · intro ⟨list, h⟩
    cases list with
    | sends => exact .inl h
    | receives => exact .inr h

/-! ## What passes -/

theorem Interface.forall_names_iff {interface : Interface} {P : String → Prop} :
    (∀ name ∈ interface.names, P name) ↔ P interface.name ∧
      ∀ rpc ∈ interface.sends ++ interface.receives, P rpc.name ∧
        ∀ leg ∈ rpc.legs, ∀ name ∈ leg.map Parameter.name, P name := by
  simp only [names, Rpc.names, List.forall_mem_cons, List.forall_mem_flatMap]

theorem parametersWellFormed_iff {leg : List Parameter} :
    ParametersWellFormed leg ↔ (∀ name ∈ leg.map Parameter.name, IsName name) ∧
      (leg.map Parameter.name).Nodup ∧
      ∀ reserved ∈ ["cursor", "handler", "message"], reserved ∉ leg.map Parameter.name := by
  have hreserved : (∀ reserved ∈ ["cursor", "handler", "message"],
      reserved ∉ leg.map Parameter.name) ↔ ∀ p ∈ leg, p.name ∉ reservedParameterNames := by
    constructor
    · intro h p hp hmem
      exact h p.name hmem (List.mem_map_of_mem hp)
    · intro h reserved hmem hused
      obtain ⟨p, hp, hname⟩ := List.mem_map.mp hused
      exact h p hp (hname ▸ hmem)
  rw [hreserved, List.forall_mem_map]
  simp only [ParametersWellFormed, isIdentifier_iff_isName, forall_and]
  rw [and_assoc]
  exact and_congr_right fun _ => and_comm

theorem Rpc.wellFormed_iff {rpc : Rpc} :
    rpc.WellFormed ↔ IsName rpc.name ∧ ∀ leg ∈ rpc.legs, ParametersWellFormed leg := by
  simp only [WellFormed, isIdentifier_iff_isName, legs, List.forall_mem_cons, List.not_mem_nil,
    false_implies, implies_true, and_true]

theorem Interface.wellFormed_iff {interface : Interface} :
    interface.WellFormed ↔
      (interface.sends.length ≤ 16383 ∧ interface.receives.length ≤ 16384) ∧
      ((interface.sends.map Rpc.name).Nodup ∧ (interface.receives.map Rpc.name).Nodup) ∧
      IsName interface.name ∧ ∀ rpc ∈ interface.sends ++ interface.receives, rpc.WellFormed := by
  simp only [WellFormed, RpcsWellFormed, isIdentifier_iff_isName, List.forall_mem_append]
  constructor
  · intro h
    obtain ⟨hname, ⟨hsends, hrpcs, hdiffer⟩, hreceives, hrpcs', hdiffer'⟩ := h
    exact ⟨⟨hsends, hreceives⟩, ⟨hdiffer, hdiffer'⟩, hname, hrpcs, hrpcs'⟩
  · intro h
    obtain ⟨⟨hsends, hreceives⟩, ⟨hdiffer, hdiffer'⟩, hname, hrpcs, hrpcs'⟩ := h
    exact ⟨hname, ⟨hsends, hrpcs, hdiffer⟩, hreceives, hrpcs', hdiffer'⟩

/-- **What passes.** The checks pass exactly the interfaces that keep the rules. -/
theorem checkInterfaces_eq_ok_iff_valid {interfaces : List Interface} :
    checkInterfaces interfaces = .ok () ↔ Definitions.Valid interfaces := by
  rw [checkInterfaces_eq_ok_iff]
  constructor
  · intro ⟨hwell, hdiffer⟩
    have hrules := fun interface hmem => Interface.wellFormed_iff.mp (hwell interface hmem)
    have hleg : ∀ interface ∈ interfaces, ∀ rpc ∈ interface.sends ++ interface.receives,
        ∀ leg ∈ rpc.legs, _ := fun interface hmem rpc hrpc leg hleg =>
      parametersWellFormed_iff.mp
        ((Rpc.wellFormed_iff.mp ((hrules interface hmem).2.2.2 rpc hrpc)).2 leg hleg)
    refine ⟨hdiffer, fun interface hmem => (hrules interface hmem).1,
      fun interface hmem => (hrules interface hmem).2.1,
      fun interface hmem rpc hrpc leg hmemLeg => (hleg interface hmem rpc hrpc leg hmemLeg).2,
      fun interface hmem => Interface.forall_names_iff.mpr ⟨(hrules interface hmem).2.2.1, ?_⟩⟩
    intro rpc hrpc
    exact ⟨(Rpc.wellFormed_iff.mp ((hrules interface hmem).2.2.2 rpc hrpc)).1,
      fun leg hmemLeg => (hleg interface hmem rpc hrpc leg hmemLeg).1⟩
  · intro h
    refine ⟨fun interface hmem => ?_, h.interfaces_differ⟩
    obtain ⟨hname, hrpcs⟩ := Interface.forall_names_iff.mp (h.names_valid interface hmem)
    refine Interface.wellFormed_iff.mpr
      ⟨h.rpcs_fit interface hmem, h.rpcs_differ interface hmem, hname, fun rpc hrpc => ?_⟩
    refine Rpc.wellFormed_iff.mpr ⟨(hrpcs rpc hrpc).1, fun leg hleg => ?_⟩
    exact parametersWellFormed_iff.mpr
      ⟨(hrpcs rpc hrpc).2 leg hleg, h.parameters_differ interface hmem rpc hrpc leg hleg⟩

/-! ## What is reported -/

section Walks

variable {α ε : Type} {key : α → String} {check : α → Except ε Unit} {clash : α → ε} {e : ε}

theorem then_eq_error {first : Except ε Unit} {next : Unit → Except ε Unit}
    (h : (first >>= next) = .error e) : first = .error e ∨ next () = .error e := by
  cases first with
  | error e' => exact .inl h
  | ok u => exact .inr h

theorem twice_of_mem {name : String} {before after : List String} (h : name ∈ before) :
    Twice name (before ++ name :: after) := by
  obtain ⟨i, hi⟩ := List.mem_iff_getElem?.mp h
  obtain ⟨hlt, -⟩ := List.getElem?_eq_some_iff.mp hi
  refine ⟨i, before.length, hlt, ?_, ?_⟩
  · rw [List.getElem?_append_left hlt]
    exact hi
  · simp

/-- The keys seen so far are those of the items `before`. -/
theorem fault_of_checkDistinctFrom {seen : Std.HashSet String} {before items : List α}
    (hseen : ∀ k, k ∈ seen → k ∈ before.map key)
    (h : checkDistinctFrom key check clash seen items = .error e) :
    (∃ a ∈ items, check a = .error e) ∨
      ∃ a ∈ items, e = clash a ∧ Twice (key a) ((before ++ items).map key) := by
  induction items generalizing seen before with
  | nil => cases h
  | cons a rest ih =>
    rw [checkDistinctFrom] at h
    cases hcheck : check a with
    | error e' =>
      rw [hcheck] at h
      exact .inl ⟨a, List.mem_cons_self, hcheck.trans h⟩
    | ok u =>
      simp only [hcheck, Std.HashSet.contains_iff_mem] at h
      by_cases hmem : key a ∈ seen
      · rw [if_pos hmem] at h
        refine .inr ⟨a, List.mem_cons_self, (Except.error.inj h).symm, ?_⟩
        rw [List.map_append, List.map_cons]
        exact twice_of_mem (hseen _ hmem)
      · rw [if_neg hmem] at h
        have hinsert : ∀ k, k ∈ seen.insert (key a) → k ∈ (before ++ [a]).map key := by
          intro k hk
          rw [Std.HashSet.mem_insert, beq_iff_eq] at hk
          simp only [List.map_append, List.map_cons, List.map_nil, List.mem_append,
            List.mem_singleton]
          exact hk.symm.imp (hseen k) Eq.symm
        have hrest := ih hinsert h
        rw [List.append_assoc, List.singleton_append] at hrest
        obtain ⟨b, hb, hfault⟩ | ⟨b, hb, hfault⟩ := hrest
        · exact .inl ⟨b, List.mem_cons_of_mem a hb, hfault⟩
        · exact .inr ⟨b, List.mem_cons_of_mem a hb, hfault⟩

/-- A list whose items must differ fails at an item by itself, or at one whose key came before. -/
theorem fault_of_checkDistinct {items : List α}
    (h : checkDistinct key check clash items = .error e) :
    (∃ a ∈ items, check a = .error e) ∨
      ∃ a ∈ items, e = clash a ∧ Twice (key a) (items.map key) := by
  have hnone : ∀ k, k ∈ (∅ : Std.HashSet String) → k ∈ ([] : List α).map key := by simp
  exact fault_of_checkDistinctFrom hnone h

end Walks

namespace Definitions

variable {interfaces : List Interface} {interface : Interface} {e : SchemaError}
  (hinterface : interface ∈ interfaces)
include hinterface

theorem violation_of_checkIdentifier {name : String} (hname : name ∈ interface.names)
    (h : checkIdentifier name = .error e) : Violation interfaces e := by
  unfold checkIdentifier at h
  split at h
  · cases h
  · rename_i hnot
    obtain rfl := Except.error.inj h
    exact .invalidIdentifier hinterface hname (fun hvalid =>
      hnot ((isIdentifier_iff_isName name).mpr hvalid))

section Rpcs

variable {rpc : Rpc} (hrpc : rpc ∈ interface.sends ++ interface.receives)
include hrpc

theorem violation_of_checkParameter {leg : List Parameter} (hleg : leg ∈ rpc.legs)
    {parameter : Parameter} (hparameter : parameter ∈ leg)
    (h : rpc.checkParameter parameter = .error e) : Violation interfaces e := by
  have hused : parameter.name ∈ leg.map Parameter.name := List.mem_map_of_mem hparameter
  cases then_eq_error h with
  | inl h =>
    refine violation_of_checkIdentifier hinterface ?_ h
    exact List.mem_cons_of_mem _ (List.mem_flatMap.mpr
      ⟨rpc, hrpc, List.mem_cons_of_mem _ (List.mem_flatMap.mpr ⟨leg, hleg, hused⟩)⟩)
  | inr h =>
    by_cases hreserved : parameter.name ∈ reservedParameterNames
    · rw [if_pos (List.contains_iff_mem.mpr hreserved)] at h
      obtain rfl := Except.error.inj h
      exact .reservedName hinterface hrpc hleg hused hreserved
    · rw [if_neg (fun hcontains => hreserved (List.contains_iff_mem.mp hcontains))] at h
      cases h

theorem violation_of_checkParameters {leg : List Parameter} (hleg : leg ∈ rpc.legs)
    (h : rpc.checkParameters leg = .error e) : Violation interfaces e := by
  cases fault_of_checkDistinct h with
  | inl h =>
    obtain ⟨parameter, hparameter, hfault⟩ := h
    exact violation_of_checkParameter hinterface hrpc hleg hparameter hfault
  | inr h =>
    obtain ⟨parameter, -, rfl, htwice⟩ := h
    exact .duplicateParameter hinterface hrpc hleg htwice

theorem violation_of_rpc_check (h : rpc.check = .error e) : Violation interfaces e := by
  cases then_eq_error h with
  | inl h =>
    refine violation_of_checkIdentifier hinterface ?_ h
    exact List.mem_cons_of_mem _ (List.mem_flatMap.mpr ⟨rpc, hrpc, List.mem_cons_self⟩)
  | inr h =>
    cases then_eq_error h with
    | inl h => exact violation_of_checkParameters hinterface hrpc (by simp [Rpc.legs]) h
    | inr h => exact violation_of_checkParameters hinterface hrpc (by simp [Rpc.legs]) h

end Rpcs

theorem violation_of_checkRpcs {list : RpcList} (h : interface.checkRpcs list = .error e) :
    Violation interfaces e := by
  unfold Interface.checkRpcs at h
  by_cases hlong : (interface.rpcs list).length > list.capacity
  · rw [if_pos hlong] at h
    obtain rfl := Except.error.inj h
    cases list with
    | sends => exact .tooManySends hinterface hlong
    | receives => exact .tooManyReceives hinterface hlong
  · rw [if_neg hlong] at h
    cases fault_of_checkDistinct h with
    | inl h =>
      obtain ⟨rpc, hrpc, hfault⟩ := h
      exact violation_of_rpc_check hinterface (Interface.mem_rpcs_iff.mpr ⟨list, hrpc⟩) hfault
    | inr h =>
      obtain ⟨rpc, -, rfl, htwice⟩ := h
      exact .duplicateRpc hinterface htwice

theorem violation_of_check (h : interface.check = .error e) : Violation interfaces e := by
  cases then_eq_error h with
  | inl h => exact violation_of_checkIdentifier hinterface List.mem_cons_self h
  | inr h =>
    cases then_eq_error h with
    | inl h => exact violation_of_checkRpcs hinterface h
    | inr h => exact violation_of_checkRpcs hinterface h

end Definitions

/-- **What is reported.** A fault is a breach of the rules that it names. -/
theorem violation_of_checkInterfaces {interfaces : List Interface} {e : SchemaError}
    (h : checkInterfaces interfaces = .error e) : Definitions.Violation interfaces e := by
  cases fault_of_checkDistinct h with
  | inl h =>
    obtain ⟨interface, hinterface, hfault⟩ := h
    exact Definitions.violation_of_check hinterface hfault
  | inr h =>
    obtain ⟨interface, -, rfl, htwice⟩ := h
    exact .duplicateInterface htwice

namespace Definitions

theorem ofInterfaces_eq_ok_iff {interfaces : List Interface} {definitions : Definitions} :
    ofInterfaces interfaces = .ok definitions ↔ definitions.interfaces = interfaces := by
  unfold ofInterfaces
  split
  · rename_i hchecked
    constructor
    · intro h
      rw [← Except.ok.inj h]
    · intro h
      obtain ⟨_, _⟩ := definitions
      subst h
      rfl
  · rename_i e hfault
    constructor
    · intro h
      cases h
    · intro h
      have hchecked := definitions.checked
      rw [h, hfault] at hchecked
      cases hchecked

theorem ofInterfaces_eq_error_iff {interfaces : List Interface} {e : SchemaError} :
    ofInterfaces interfaces = .error e ↔ checkInterfaces interfaces = .error e := by
  unfold ofInterfaces
  split <;> simp_all

end Definitions

/-- **Deciding definitions.** Interfaces become definitions exactly if they keep the rules, and they
do so unchanged; if they do not, the fault that is reported is a breach of the rules as it says. -/
theorem definitions_decided (interfaces : List Interface) :
    ((∃ definitions, Definitions.ofInterfaces interfaces = .ok definitions) ↔
      Definitions.Valid interfaces) ∧
    (∀ definitions, Definitions.ofInterfaces interfaces = .ok definitions →
      definitions.interfaces = interfaces) ∧
    ∀ e, Definitions.ofInterfaces interfaces = .error e → Definitions.Violation interfaces e := by
  refine ⟨?_, fun definitions h => Definitions.ofInterfaces_eq_ok_iff.mp h,
    fun e h => violation_of_checkInterfaces (Definitions.ofInterfaces_eq_error_iff.mp h)⟩
  rw [← checkInterfaces_eq_ok_iff_valid]
  constructor
  · intro ⟨definitions, h⟩
    rw [← Definitions.ofInterfaces_eq_ok_iff.mp h]
    exact definitions.checked
  · intro h
    exact ⟨⟨interfaces, h⟩, Definitions.ofInterfaces_eq_ok_iff.mpr rfl⟩

end Bindery
