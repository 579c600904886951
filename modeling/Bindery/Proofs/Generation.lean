import Bindery.Language
import Bindery.Proofs.Outline
import Bindery.Proofs.Scope

/-!
# When code is generated

Generating code fails where an interface is not well-formed, where names clash, or where the text
cannot be written. Here success is taken apart: code for one interface is the layout of its plan
once the names are checked, and code for several interfaces is that of each of them, in order.

Main results: `Target.generateInterface_eq_ok_iff` and `Target.generate_eq_ok_iff`.
-/

namespace Bindery

/-- A list is gone through without a fault if no item has one. -/
theorem mapM_succeeds_iff {α β ε : Type} {f : α → Except ε β} {items : List α} :
    (∃ results, items.mapM f = .ok results) ↔ ∀ a ∈ items, ∃ b, f a = .ok b := by
  induction items with
  | nil => simp [pure, Except.pure]
  | cons a rest ih =>
    rw [List.forall_mem_cons, ← ih, List.mapM_cons]
    simp only [chain_eq_ok_iff]
    constructor
    · rintro ⟨_, b, hb, results, hresults, -⟩
      exact ⟨⟨b, hb⟩, results, hresults⟩
    · rintro ⟨⟨b, hb⟩, results, hresults⟩
      exact ⟨b :: results, b, hb, results, hresults, rfl⟩

/-- The results are those of the items, one by one. -/
theorem forall₂_of_mapM {α β ε : Type} {f : α → Except ε β} {items : List α} {results : List β}
    (h : items.mapM f = .ok results) : List.Forall₂ (fun a b => f a = .ok b) items results := by
  induction items generalizing results with
  | nil =>
    obtain rfl : [] = results := Except.ok.inj h
    exact .nil
  | cons a rest ih =>
    simp only [List.mapM_cons, chain_eq_ok_iff] at h
    obtain ⟨b, hb, others, hothers, heq⟩ := h
    obtain rfl : b :: others = results := Except.ok.inj heq
    exact .cons hb (ih hothers)

/-- Each leg of the rpcs of a list is written by one of the roles. -/
theorem Role.emits_or_peer_emits (role : Role) (list : RpcList) (leg : Leg) :
    role.emits list = leg ∨ role.peer.emits list = leg := by
  cases role <;> cases list <;> cases leg <;> decide

namespace Interface

variable {interface : Interface}

/-- Between them, the messages of a plan carry the parameters of every leg. -/
theorem forall_parameters_iff (interface : Interface) (role : Role) {P : List Parameter → Prop}
    (hnil : P []) :
    (∀ message ∈ (interface.plan role).incoming ++ (interface.plan role).outgoing,
        P message.parameters) ↔
      ∀ list, ∀ rpc ∈ interface.rpcs list, P rpc.request ∧ P rpc.reply := by
  constructor
  · intro h list rpc hrpc
    obtain ⟨index, hindex⟩ := List.mem_iff_getElem?.mp hrpc
    have hplace : ⟨list, index, rpc⟩ ∈ interface.places := mem_places.mpr hindex
    have hleg : ∀ leg, rpc.has leg = true →
        P (Place.message ⟨list, index, rpc⟩ leg).parameters := by
      intro leg hhas
      refine h _ (List.mem_append.mpr ?_)
      rcases role.emits_or_peer_emits list leg with rfl | rfl
      · exact .inr (mem_emitted.mpr ⟨_, hplace, hhas, rfl⟩)
      · exact .inl (mem_emitted.mpr ⟨_, hplace, hhas, rfl⟩)
    refine ⟨hleg .request rfl, ?_⟩
    by_cases hreply : rpc.hasReply = true
    · exact hleg .reply hreply
    · -- An rpc without a reply has no parameters there.
      have hnone : rpc.reply = [] := by simpa [Rpc.hasReply] using hreply
      rw [hnone]
      exact hnil
  · intro h
    have hemitted : ∀ other, ∀ message ∈ interface.emitted other, P message.parameters := by
      intro other message hmessage
      obtain ⟨place, hplace, -, rfl⟩ := mem_emitted.mp hmessage
      have hrpc := h place.list place.rpc (List.mem_of_getElem? (mem_places.mp hplace))
      cases hleg : other.emits place.list with
      | request => exact hrpc.1
      | reply => exact hrpc.2
    exact List.forall_mem_append.mpr ⟨hemitted role.peer, hemitted role⟩

theorem WellFormed.rpc (h : interface.WellFormed) {list : RpcList} {rpc : Rpc}
    (hrpc : rpc ∈ interface.rpcs list) : rpc.WellFormed := by
  cases list with
  | sends => exact h.2.1.2.1 rpc hrpc
  | receives => exact h.2.2.2.1 rpc hrpc

theorem WellFormed.emitted (h : interface.WellFormed) {role : Role} {message : Message}
    (hmessage : message ∈ interface.emitted role) : message.rpc.WellFormed := by
  obtain ⟨place, hplace, -, rfl⟩ := mem_emitted.mp hmessage
  exact h.rpc (List.mem_of_getElem? (mem_places.mp hplace))

theorem WellFormed.wellNamed (h : interface.WellFormed) (role : Role) :
    (interface.plan role).WellNamed := by
  refine ⟨h.1, fun message hmessage => ?_⟩
  rcases List.mem_append.mp hmessage with hmessage | hmessage
  · exact h.emitted hmessage
  · exact h.emitted hmessage

end Interface

theorem Definitions.wellFormed (definitions : Definitions) :
    ∀ interface ∈ definitions.interfaces, interface.WellFormed :=
  (checkInterfaces_eq_ok_iff.mp definitions.checked).1

/-- The conformance interfaces as definitions. -/
def Conformance.definitions : Definitions :=
  ⟨interfaces, checkInterfaces_eq_ok_iff.mpr ⟨Conformance.wellFormed, by decide⟩⟩

theorem RolePlan.ofInterface_eq_ok_iff {interface : Interface} {role : Role} {plan : RolePlan} :
    ofInterface interface role = .ok plan ↔ interface.WellFormed ∧ plan = interface.plan role := by
  by_cases h : interface.WellFormed
  · simp only [ofInterface_of_wellFormed h, h, true_and, Except.ok.injEq]
    exact eq_comm
  · cases hcheck : interface.check with
    | ok => exact absurd (Interface.check_eq_ok_iff.mp hcheck) h
    | error e => simp [ofInterface_of_check_error hcheck, h]

namespace Target

variable {target : Target} {role : Role} {text : String}

theorem render_eq_ok_iff {plan : RolePlan} :
    target.render plan = .ok text ↔ target.checkNames plan = .ok () ∧
      Layout.render? target.indentation none (target.layout plan) = some text := by
  rw [render]
  cases target.checkNames plan with
  | error e => simp [bind, Except.bind]
  | ok u =>
    cases Layout.render? target.indentation none (target.layout plan) <;>
      simp [bind, Except.bind, throw, throwThe, MonadExceptOf.throw, pure, Except.pure]

/-- **Code for one interface.** -/
theorem generateInterface_eq_ok_iff {interface : Interface} :
    target.generateInterface interface role = .ok text ↔
      interface.WellFormed ∧ target.checkNames (interface.plan role) = .ok () ∧
      Layout.render? target.indentation none (target.layout (interface.plan role)) = some text := by
  rw [generateInterface, chain_eq_ok_iff]
  constructor
  · rintro ⟨plan, hplan, hrender⟩
    obtain ⟨hwell, rfl⟩ := RolePlan.ofInterface_eq_ok_iff.mp hplan
    exact ⟨hwell, render_eq_ok_iff.mp hrender⟩
  · rintro ⟨hwell, hrender⟩
    exact ⟨_, RolePlan.ofInterface_eq_ok_iff.mpr ⟨hwell, rfl⟩, render_eq_ok_iff.mpr hrender⟩

theorem texts_generateEach (interfaces : List Interface) :
    (target.generateEach role interfaces).texts =
      interfaces.mapM fun interface => target.generateInterface interface role := by
  induction interfaces with
  | nil => rfl
  | cons interface rest ih =>
    rw [List.mapM_cons, ← ih, generateEach, generateInterface]
    cases RolePlan.ofInterface interface role with
    | error e => rfl
    | ok plan =>
      cases hrender : target.render plan with
      | error e => simp [hrender, bind, Except.bind]
      | ok text =>
        cases htexts : (target.generateEach role rest).texts <;>
          simp [hrender, htexts, bind, Except.bind, Except.map, pure, Except.pure]

/-- **Code for several interfaces.** -/
theorem generate_eq_ok_iff {definitions : Definitions} :
    target.generate definitions role = .ok text ↔
      target.checkTogether role definitions.interfaces = .ok () ∧
      ∃ texts, (definitions.interfaces.mapM fun interface =>
        target.generateInterface interface role) = .ok texts ∧ text = "\n".intercalate texts := by
  rw [generate, generation, Generation.text]
  cases target.checkTogether role definitions.interfaces with
  | error e => simp [Except.map]
  | ok u =>
    simp only [texts_generateEach, true_and]
    cases definitions.interfaces.mapM fun interface => target.generateInterface interface role with
    | error e => simp [Except.map]
    | ok texts => simp [Except.map, eq_comm]

end Target

end Bindery
