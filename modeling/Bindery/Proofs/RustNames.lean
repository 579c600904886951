import Bindery.Proofs.Outline
import Bindery.Proofs.Scope
import Bindery.Target.RustNames

/-!
# Names in Rust modules

The methods of a trait share a scope, the routines of the private module share another, and so do
the variables of each routine. The check of a plan's names passes if the names in each of these
scopes fit (`checkNames_eq_ok_iff`).
-/

namespace Bindery.Rust

open Scope Text

/-- The names in the module for a plan fit in the scopes they stand in. -/
structure NamesFit (plan : RolePlan) : Prop where
  /-- The module and the trait. -/
  items : Fits []
    [moduleName plan.interface.name plan.role, traitName plan.interface.name plan.role]
  /-- The methods of the trait. -/
  methods : Fits ["dispatch", "send"]
    (plan.incoming.map naming.handler ++ plan.outgoing.map naming.sender)
  /-- The routines of the private module. -/
  readers : Fits ["dispatch"] (plan.incoming.map naming.reader)
  /-- The variables of each routine. -/
  parameters : ∀ message ∈ plan.incoming ++ plan.outgoing,
    Fits reservedLocals (naming.rendered message)

section Messages

variable (interface : String) (message : Message)

theorem checkParameters_eq_ok_iff :
    checkParameters interface message = .ok () ↔ Fits reservedLocals (naming.rendered message) := by
  rw [checkParameters, drop_eq_ok_iff, claimAll_empty_iff, Naming.rendered]

theorem claims_claimIncoming (scopes : Scope × Scope) :
    Claims FreeIn scopes (claimIncoming interface scopes message)
      [.inl (naming.handler message), .inr (naming.reader message)]
      (Fits reservedLocals (naming.rendered message)) := by
  have hclaims := ((claims_inl (claims_claim scopes.1 interface message.rpc.name
    (naming.handler message))).bind fun scopes => claims_inr (claims_claim scopes.2 interface
    message.rpc.name (naming.reader message))).bind fun scopes =>
      Claims.guard (checkParameters_eq_ok_iff interface message) scopes
  refine hclaims.congr ?_ (by simp) (by simp)
  rw [claimIncoming]
  cases scopes.1.claim interface message.rpc.name (naming.handler message) with
  | error e => rfl
  | ok methods =>
    cases hreaders : scopes.2.claim interface message.rpc.name (naming.reader message) with
    | error e => simp [hreaders, bind, Except.bind]
    | ok readers => simp [hreaders, bind, Except.bind, pure, Except.pure]

theorem claims_claimOutgoing (methods : Scope) :
    Claims Free methods (claimOutgoing interface methods message) [naming.sender message]
      (Fits reservedLocals (naming.rendered message)) := by
  have hclaims := (claims_claim methods interface message.rpc.name (naming.sender message)).bind
    fun methods => Claims.guard (checkParameters_eq_ok_iff interface message) methods
  exact hclaims.congr rfl (by simp) (by simp)

end Messages

section Pairs

variable {α : Type} (f g : α → String) (items : List α)

theorem lefts_pairs : (items.flatMap fun a => [Sum.inl (f a), Sum.inr (g a)]).filterMap
    Sum.getLeft? = items.map f := by
  induction items with
  | nil => rfl
  | cons a rest ih => simp [List.filterMap_cons, ih]

theorem rights_pairs : (items.flatMap fun a => [Sum.inl (f a), Sum.inr (g a)]).filterMap
    Sum.getRight? = items.map g := by
  induction items with
  | nil => rfl
  | cons a rest ih => simp [List.filterMap_cons, ih]

end Pairs

/-- **Names of a module.** The check passes exactly the plans whose names fit. -/
theorem checkNames_eq_ok_iff {plan : RolePlan} : checkNames plan = .ok () ↔ NamesFit plan := by
  have hincoming := Claims.foldlM (fun scopes message =>
    claims_claimIncoming plan.interface.name message scopes) plan.incoming
    (Scope.empty ["dispatch", "send"], Scope.empty ["dispatch"])
  have houtgoing (methods : Scope) := Claims.foldlM (fun methods message =>
    claims_claimOutgoing plan.interface.name message methods) plan.outgoing methods
  have hroutines :=
    claims_empties_iff (hincoming.bind fun scopes => claims_inl (houtgoing scopes.1))
  have hsteps : checkNames plan = .ok () ↔
      (∃ after, (Scope.empty []).claimAll plan.interface.name
        [(plan.interface.name, moduleName plan.interface.name plan.role),
         (plan.interface.name, traitName plan.interface.name plan.role)] = .ok after) ∧
      ∃ after, (plan.incoming.foldlM (claimIncoming plan.interface.name)
        (Scope.empty ["dispatch", "send"], Scope.empty ["dispatch"]) >>= fun scopes =>
          plan.outgoing.foldlM (claimOutgoing plan.interface.name) scopes.1 >>= fun methods =>
            .ok (methods, scopes.2)) = .ok after := by
    constructor
    · intro h
      obtain ⟨items, hitems, h⟩ := chain_eq_ok_iff.mp h
      obtain ⟨scopes, hscopes, h⟩ := chain_eq_ok_iff.mp h
      obtain ⟨methods, hmethods⟩ := drop_eq_ok_iff.mp h
      exact ⟨⟨items, hitems⟩, _, chain_eq_ok_iff.mpr ⟨scopes, hscopes,
        chain_eq_ok_iff.mpr ⟨methods, hmethods, rfl⟩⟩⟩
    · rintro ⟨⟨items, hitems⟩, last, h⟩
      obtain ⟨scopes, hscopes, h⟩ := chain_eq_ok_iff.mp h
      obtain ⟨methods, hmethods, -⟩ := chain_eq_ok_iff.mp h
      exact chain_eq_ok_iff.mpr ⟨items, hitems, chain_eq_ok_iff.mpr ⟨scopes, hscopes,
        drop_eq_ok_iff.mpr ⟨methods, hmethods⟩⟩⟩
  rw [← List.map_eq_flatMap, List.filterMap_append, List.filterMap_append, lefts_pairs,
    rights_pairs, filterMap_map_some (fun _ => Sum.getLeft?_inl),
    filterMap_map_none (fun _ => Sum.getRight?_inl), List.map_id', List.append_nil] at hroutines
  rw [hsteps, claimAll_empty_iff, hroutines]
  constructor
  · rintro ⟨hitems, hmethods, hreaders, hincoming, houtgoing⟩
    exact ⟨hitems, hmethods, hreaders, List.forall_mem_append.mpr ⟨hincoming, houtgoing⟩⟩
  · intro h
    exact ⟨h.items, h.methods, h.readers, List.forall_mem_append.mp h.parameters⟩

namespace NamesFit

variable {plan : RolePlan} (h : NamesFit plan)
include h

theorem nodup_handlers : (plan.incoming.map naming.handler).Nodup :=
  (List.nodup_append.mp h.methods.1).1

theorem nodup_readers : (plan.incoming.map naming.reader).Nodup :=
  h.readers.1

end NamesFit

end Bindery.Rust
