import Bindery.Conformance
import Bindery.Schema.Check

/-!
# What passes the checks

A check walks over a definition and stops at the first fault. Here each check is given its meaning
when there is none: `checkDistinct` passes exactly the lists whose items pass and whose keys differ,
so `Interface.check` passes exactly the interfaces that are `WellFormed`, a condition that says
nothing about order or hashing and can be decided.

Main result: `Interface.check_eq_ok_iff`.
-/

namespace Bindery

/-! ## Sequences of checks -/

section Sequences

variable {α β κ ε : Type}

/-- What comes after a check succeeds if the check passes. -/
theorem then_eq_ok_iff {first : Except ε Unit} {next : Unit → Except ε β} {b : β} :
    (first >>= next) = .ok b ↔ first = .ok () ∧ next () = .ok b := by
  cases first <;> simp [bind, Except.bind]

theorem mapM_eq_ok {f : α → Except ε β} {g : α → β} :
    ∀ {items : List α}, (∀ a ∈ items, f a = .ok (g a)) → items.mapM f = .ok (items.map g)
  | [], _ => rfl
  | a :: rest, h => by
    have hrest := mapM_eq_ok fun b hb => h b (List.mem_cons_of_mem a hb)
    rw [List.mapM_cons, h a List.mem_cons_self, hrest]
    rfl

variable [BEq κ] [Hashable κ] [LawfulBEq κ]

/-- The keys seen earlier count like items in front of the list. -/
theorem checkDistinctFrom_eq_ok_iff {key : α → κ} {check : α → Except ε Unit} {clash : α → ε}
    {seen : Std.HashSet κ} {items : List α} :
    checkDistinctFrom key check clash seen items = .ok () ↔
      (∀ a ∈ items, check a = .ok ()) ∧ (∀ a ∈ items, key a ∉ seen) ∧ (items.map key).Nodup := by
  induction items generalizing seen with
  | nil => simp [checkDistinctFrom]
  | cons a rest ih =>
    rw [checkDistinctFrom]
    cases ha : check a with
    | error e => simp [ha]
    | ok u =>
      by_cases hseen : key a ∈ seen
      · simp [hseen]
      · -- A later item must avoid both the keys seen before and the key of `a`.
        have havoid : (∀ b ∈ rest, key b ∉ seen.insert (key a)) ↔
            (∀ b ∈ rest, key b ∉ seen) ∧ key a ∉ rest.map key := by
          simp only [Std.HashSet.mem_insert, beq_iff_eq, not_or, List.mem_map, not_exists, not_and]
          exact ⟨fun h => ⟨fun b hb => (h b hb).2, fun b hb hab => (h b hb).1 hab.symm⟩,
            fun h b hb => ⟨fun hab => h.2 b hb hab.symm, h.1 b hb⟩⟩
        simp only [Std.HashSet.contains_iff_mem, hseen, if_false, ih, havoid, List.forall_mem_cons,
          ha, List.map_cons, List.nodup_cons, not_false_eq_true, true_and]
        exact ⟨fun ⟨h, ⟨hs, hk⟩, hn⟩ => ⟨h, hs, hk, hn⟩, fun ⟨h, hs, hk, hn⟩ => ⟨h, ⟨hs, hk⟩, hn⟩⟩

/-- **Distinct items.** The check passes the lists whose items pass and whose keys differ. -/
theorem checkDistinct_eq_ok_iff {key : α → κ} {check : α → Except ε Unit} {clash : α → ε}
    {items : List α} :
    checkDistinct key check clash items = .ok () ↔
      (∀ a ∈ items, check a = .ok ()) ∧ (items.map key).Nodup := by
  rw [checkDistinct, checkDistinctFrom_eq_ok_iff]
  simp

end Sequences

/-! ## Well-formed definitions -/

theorem checkIdentifier_eq_ok_iff {name : String} :
    checkIdentifier name = .ok () ↔ isIdentifier name.toList = true := by
  unfold checkIdentifier
  split <;> simp_all

/-- The parameters of one leg have names that are identifiers, free for use and distinct. -/
def ParametersWellFormed (parameters : List Parameter) : Prop :=
  (∀ parameter ∈ parameters, isIdentifier parameter.name.toList = true ∧
    parameter.name ∉ reservedParameterNames) ∧
  (parameters.map Parameter.name).Nodup

instance (parameters : List Parameter) : Decidable (ParametersWellFormed parameters) :=
  inferInstanceAs (Decidable (_ ∧ _))

namespace Rpc

/-- The rpc and the parameters of its legs are well named. -/
def WellFormed (rpc : Rpc) : Prop :=
  isIdentifier rpc.name.toList = true ∧ ParametersWellFormed rpc.request ∧
    ParametersWellFormed rpc.reply

instance (rpc : Rpc) : Decidable rpc.WellFormed :=
  inferInstanceAs (Decidable (_ ∧ _))

theorem checkParameter_eq_ok_iff {rpc : Rpc} {parameter : Parameter} :
    rpc.checkParameter parameter = .ok () ↔
      isIdentifier parameter.name.toList = true ∧ parameter.name ∉ reservedParameterNames := by
  rw [checkParameter, then_eq_ok_iff]
  simp only [checkIdentifier_eq_ok_iff, List.contains_iff_mem]
  by_cases hreserved : parameter.name ∈ reservedParameterNames
  · simp [hreserved, throw, throwThe, MonadExceptOf.throw]
  · simp [hreserved, pure, Except.pure]

theorem checkParameters_eq_ok_iff {rpc : Rpc} {parameters : List Parameter} :
    rpc.checkParameters parameters = .ok () ↔ ParametersWellFormed parameters := by
  simp only [checkParameters, checkDistinct_eq_ok_iff, checkParameter_eq_ok_iff,
    ParametersWellFormed]

theorem check_eq_ok_iff {rpc : Rpc} : rpc.check = .ok () ↔ rpc.WellFormed := by
  simp only [check, then_eq_ok_iff, checkIdentifier_eq_ok_iff, checkParameters_eq_ok_iff,
    WellFormed]

end Rpc

namespace Interface

/-- A list of rpcs leaves room for its opcodes, and its rpcs are well-formed and distinct. -/
def RpcsWellFormed (interface : Interface) (list : RpcList) : Prop :=
  (interface.rpcs list).length ≤ list.capacity ∧ (∀ rpc ∈ interface.rpcs list, rpc.WellFormed) ∧
    ((interface.rpcs list).map Rpc.name).Nodup

instance (interface : Interface) (list : RpcList) : Decidable (interface.RpcsWellFormed list) :=
  inferInstanceAs (Decidable (_ ∧ _))

/-- The interface is well named and both its lists are well-formed. -/
def WellFormed (interface : Interface) : Prop :=
  isIdentifier interface.name.toList = true ∧ interface.RpcsWellFormed .sends ∧
    interface.RpcsWellFormed .receives

instance (interface : Interface) : Decidable interface.WellFormed :=
  inferInstanceAs (Decidable (_ ∧ _))

theorem checkRpcs_eq_ok_iff {interface : Interface} {list : RpcList} :
    interface.checkRpcs list = .ok () ↔ interface.RpcsWellFormed list := by
  simp only [checkRpcs, RpcsWellFormed, ← Rpc.check_eq_ok_iff]
  by_cases hlong : (interface.rpcs list).length > list.capacity
  · simp [hlong, Nat.not_le.mpr hlong, throw, throwThe, MonadExceptOf.throw, bind, Except.bind]
  · rw [if_neg hlong, ← checkDistinct_eq_ok_iff]
    exact ⟨fun h => ⟨Nat.not_lt.mp hlong, h⟩, fun h => h.2⟩

/-- **What the check passes.** An interface passes exactly if it is well-formed. -/
theorem check_eq_ok_iff {interface : Interface} :
    interface.check = .ok () ↔ interface.WellFormed := by
  simp only [check, then_eq_ok_iff, checkIdentifier_eq_ok_iff, checkRpcs_eq_ok_iff, WellFormed]

theorem WellFormed.length_le {interface : Interface} (h : interface.WellFormed) (list : RpcList) :
    (interface.rpcs list).length ≤ list.capacity :=
  match list with
  | .sends => h.2.1.1
  | .receives => h.2.2.1

end Interface

theorem checkInterfaces_eq_ok_iff {interfaces : List Interface} :
    checkInterfaces interfaces = .ok () ↔
      (∀ interface ∈ interfaces, interface.WellFormed) ∧ (interfaces.map Interface.name).Nodup := by
  simp only [checkInterfaces, checkDistinct_eq_ok_iff, Interface.check_eq_ok_iff]

theorem Conformance.wellFormed :
    ∀ interface ∈ Conformance.interfaces, interface.WellFormed := by
  decide

end Bindery
