import Bindery.Proofs.Outline
import Bindery.Proofs.Scope
import Bindery.Target.CppNames

/-!
# Names in C++ classes

All members of a class share a scope, and a routine that reads a message shares one between its
parameters and the handler it calls. The check of a plan's names passes if the names in each of
these scopes fit (`checkNames_eq_ok_iff`).
-/

namespace Bindery.Cpp

open Scope

/-- The names in the class for a plan fit in the scopes they stand in. -/
structure NamesFit (plan : RolePlan) : Prop where
  members : Fits ["Dispatch"]
    ((plan.incoming.flatMap fun message => [naming.handler message, naming.reader message]) ++
      plan.outgoing.map naming.sender)
  /-- The variables of a routine that reads, which calls the handler by its bare name. -/
  incoming : ∀ message ∈ plan.incoming,
    Fits reservedLocals (naming.handler message :: naming.rendered message)
  /-- The variables of a routine that sends. -/
  outgoing : ∀ message ∈ plan.outgoing, Fits reservedLocals (naming.rendered message)

section Messages

variable (interface : String) (message : Message) (members : Scope)

/-- Names claimed apart, in a scope of their own. -/
theorem claims_apart (names : List (String × String)) :
    Claims Free members ((Scope.empty reservedLocals).claimAll interface names >>= fun _ =>
      .ok members) [] (Fits reservedLocals (names.map Prod.snd)) := by
  have hcheck : (do let _ ← (Scope.empty reservedLocals).claimAll interface names) =
      (.ok () : Except GenerateError Unit) ↔ Fits reservedLocals (names.map Prod.snd) := by
    rw [drop_eq_ok_iff, claimAll_empty_iff]
  refine (Claims.guard hcheck members).congr ?_ rfl Iff.rfl
  cases (Scope.empty reservedLocals).claimAll interface names <;> rfl

theorem claims_claimIncoming :
    Claims Free members (claimIncoming interface members message)
      [naming.handler message, naming.reader message]
      (Fits reservedLocals (naming.handler message :: naming.rendered message)) :=
  ((claims_claimAll members interface [(message.rpc.name, naming.handler message),
    (message.rpc.name, naming.reader message)]).bind fun members =>
      claims_apart interface members ((message.rpc.name, naming.handler message) ::
        naming.parameters message)).congr rfl (by simp) (by simp [Naming.rendered])

theorem claims_claimOutgoing :
    Claims Free members (claimOutgoing interface members message) [naming.sender message]
      (Fits reservedLocals (naming.rendered message)) :=
  ((claims_claim members interface message.rpc.name (naming.sender message)).bind fun members =>
    claims_apart interface members (naming.parameters message)).congr rfl (by simp)
      (by simp [Naming.rendered])

section Faults

variable {blame : GenerateError → Prop}

theorem blames_claimIncoming
    (h : ∀ e, Fault reservedLocals interface
      ((message.rpc.name, naming.handler message) :: naming.parameters message) e → blame e) :
    Blames Free members (claimIncoming interface members message)
      [naming.handler message, naming.reader message] blame := by
  have hmembers := claims_claimAll members interface [(message.rpc.name, naming.handler message),
    (message.rpc.name, naming.reader message)]
  refine ((Blames.of_claims hmembers).bind hmembers fun members =>
    Blames.guard (fun e he => h e ?_) members).congr rfl (by simp)
  exact fault_of_claimAll he

theorem blames_claimOutgoing
    (h : ∀ e, Fault reservedLocals interface (naming.parameters message) e → blame e) :
    Blames Free members (claimOutgoing interface members message) [naming.sender message]
      blame := by
  have hmember := claims_claim members interface message.rpc.name (naming.sender message)
  refine ((Blames.of_claims hmember).bind hmember fun members =>
    Blames.guard (fun e he => h e ?_) members).congr rfl (by simp)
  exact fault_of_claimAll he

end Faults

end Messages

theorem checkNames_eq (plan : RolePlan) : checkNames plan = (do
    let _ ← plan.incoming.foldlM (claimIncoming plan.interface.name) (Scope.empty ["Dispatch"]) >>=
      plan.outgoing.foldlM (claimOutgoing plan.interface.name)) := by
  rw [checkNames]
  cases plan.incoming.foldlM (claimIncoming plan.interface.name) (Scope.empty ["Dispatch"]) <;> rfl

/-- **Names of a class.** The check passes exactly the plans whose names fit. -/
theorem checkNames_eq_ok_iff {plan : RolePlan} : checkNames plan = .ok () ↔ NamesFit plan := by
  have hincoming := Claims.foldlM (fun members message =>
    claims_claimIncoming plan.interface.name message members) plan.incoming
    (Scope.empty ["Dispatch"])
  have houtgoing := Claims.foldlM (fun members message =>
    claims_claimOutgoing plan.interface.name message members) plan.outgoing
  rw [checkNames_eq, drop_eq_ok_iff,
    claims_empty_iff (hincoming.bind fun members => houtgoing members), ← List.map_eq_flatMap]
  constructor
  · rintro ⟨hmembers, hincoming, houtgoing⟩
    exact ⟨hmembers, hincoming, houtgoing⟩
  · intro h
    exact ⟨h.members, h.incoming, h.outgoing⟩

/-- The names in one of the routines for a plan cannot be claimed. -/
inductive RoutineFault (plan : RolePlan) (e : GenerateError) : Prop
  | reader {message : Message} : message ∈ plan.incoming →
      Fault reservedLocals plan.interface.name
        ((message.rpc.name, naming.handler message) :: naming.parameters message) e →
      RoutineFault plan e
  | sender {message : Message} : message ∈ plan.outgoing →
      Fault reservedLocals plan.interface.name (naming.parameters message) e →
      RoutineFault plan e

/-- **Faults of a class.** If the members fit, a fault comes from one of the routines. -/
theorem routineFault_of_checkNames {plan : RolePlan} {e : GenerateError}
    (hmembers : Fits ["Dispatch"]
      ((plan.incoming.flatMap fun message => [naming.handler message, naming.reader message]) ++
        plan.outgoing.map naming.sender))
    (h : checkNames plan = .error e) : RoutineFault plan e := by
  obtain ⟨hnodup, husable⟩ := hmembers
  rw [List.map_eq_flatMap] at hnodup husable
  have hclaims := fun members message =>
    claims_claimIncoming plan.interface.name message members
  have hclaims' := fun members message =>
    claims_claimOutgoing plan.interface.name message members
  have hincoming := @Blames.foldlM _ _ _ _ _ (RoutineFault plan) _ _ _ plan.incoming hclaims
    fun members message hmessage => blames_claimIncoming _ _ _ fun _ => .reader hmessage
  have houtgoing := @Blames.foldlM _ _ _ _ _ (RoutineFault plan) _ _ _ plan.outgoing hclaims'
    fun members message hmessage => blames_claimOutgoing _ _ _ fun _ => .sender hmessage
  rw [checkNames_eq, drop_eq_error_iff] at h
  exact (hincoming _).bind (Claims.foldlM hclaims plan.incoming _) houtgoing hnodup
    (fun name hname => free_empty.mpr (husable name hname)) e h

namespace NamesFit

variable {plan : RolePlan} (h : NamesFit plan)
include h

theorem nodup_handlers : (plan.incoming.map naming.handler).Nodup := by
  have hpairs := (List.nodup_flatMap.mp (List.nodup_append.mp h.members.1).1).2
  refine List.pairwise_map.mpr (hpairs.imp fun hdisjoint heq => ?_)
  exact hdisjoint List.mem_cons_self (heq ▸ List.mem_cons_self)

theorem nodup_readers : (plan.incoming.map naming.reader).Nodup := by
  have hpairs := (List.nodup_flatMap.mp (List.nodup_append.mp h.members.1).1).2
  refine List.pairwise_map.mpr (hpairs.imp fun hdisjoint heq => ?_)
  exact hdisjoint (List.mem_cons_of_mem _ List.mem_cons_self)
    (heq ▸ List.mem_cons_of_mem _ List.mem_cons_self)

end NamesFit

end Bindery.Cpp
