import Bindery.Generate.Scope
import Bindery.Proofs.Check
import Mathlib.Data.List.Nodup
import Mathlib.Data.Sum.Basic

/-!
# What a scope lets through

Names are claimed one after the other, and a scope remembers those it gave away. What matters of a
scope is only which names are still free in it (`Scope.Free`): a claim succeeds for a free name and
takes that one name away (`Scope.claim_eq_ok_iff`, `Scope.free_insert`), and a claim that is refused
changes nothing (`Scope.tryClaim_cases`).

**Claiming.** A check that claims several names, in one scope or in two, and looks at other things
in between, is described by the list of names it takes and by what else it requires (`Claims`).
Claims in a row take the names of both (`Claims.bind`), so a check that runs over a list takes the
names of all items, and succeeds exactly if they are free, distinct and nothing else stands in the
way (`Claims.foldlM`).

**Blaming.** Where the names a check takes are known to be free and distinct, its faults must come
from what it looks at in between (`Blames`). And names that are claimed in a fresh scope fail for
one of two reasons: a name cannot be used there, or an earlier one has become the same
(`Scope.fault_of_claimAll`).

Main results: `Claims.foldlM`, `Scope.claims_empty_iff` and `Blames.foldlM`.
-/

namespace Bindery

section Outcomes

variable {α β ε : Type}

theorem chain_eq_ok_iff {x : Except ε α} {f : α → Except ε β} {b : β} :
    (x >>= f) = .ok b ↔ ∃ a, x = .ok a ∧ f a = .ok b := by
  cases x <;> simp [bind, Except.bind]

/-- A check that drops its result passes if there was one. -/
theorem drop_eq_ok_iff {x : Except ε α} :
    (do let _ ← x) = (.ok () : Except ε Unit) ↔ ∃ a, x = .ok a := by
  cases x <;> simp [bind, Except.bind, pure, Except.pure]

theorem drop_eq_error_iff {x : Except ε α} {e : ε} :
    (do let _ ← x) = (.error e : Except ε Unit) ↔ x = .error e := by
  cases x <;> simp [bind, Except.bind, pure, Except.pure]

end Outcomes

/-! ## Claims -/

section Claims

variable {σ ν α ε : Type} {free : σ → ν → Prop} {state : σ} {names names' : List ν}
  {fine fine' : Prop}

/-- The outcome of claiming `names` in a state of which `free` says what is left: it succeeds if
the names are distinct and free and what else is asked for is `fine`, and then takes them. -/
structure Claims (free : σ → ν → Prop) (state : σ) (outcome : Except ε σ) (names : List ν)
    (fine : Prop) : Prop where
  ok_iff : (∃ after, outcome = .ok after) ↔
    names.Nodup ∧ (∀ name ∈ names, free state name) ∧ fine
  free_iff : ∀ {after}, outcome = .ok after → ∀ name, free after name ↔
    free state name ∧ name ∉ names

namespace Claims

theorem congr {outcome outcome' : Except ε σ} (h : Claims free state outcome names fine)
    (houtcome : outcome = outcome') (hnames : names = names') (hfine : fine ↔ fine') :
    Claims free state outcome' names' fine' := by
  rw [← houtcome, ← hnames, ← propext hfine]
  exact h

theorem nothing (state : σ) : Claims free state (pure state : Except ε σ) [] True where
  ok_iff := by simp [pure, Except.pure]
  free_iff := by
    intro after h name
    obtain rfl := Except.ok.inj h
    simp

/-- What is asked for besides names comes to nothing more than a condition. -/
theorem guard {check : Except ε Unit} (h : check = .ok () ↔ fine) (state : σ) :
    Claims free state (check >>= fun _ => .ok state) [] fine where
  ok_iff := by
    simp only [chain_eq_ok_iff, List.nodup_nil, List.not_mem_nil, false_implies, implies_true,
      true_and, ← h]
    constructor
    · rintro ⟨_, _, hcheck, _⟩
      exact hcheck
    · intro hcheck
      exact ⟨state, (), hcheck, rfl⟩
  free_iff := by
    intro after hok name
    obtain ⟨_, _, hafter⟩ := chain_eq_ok_iff.mp hok
    obtain rfl := Except.ok.inj hafter
    simp

theorem bind {outcome : Except ε σ} {next : σ → Except ε σ}
    (h : Claims free state outcome names fine)
    (hnext : ∀ after, Claims free after (next after) names' fine') :
    Claims free state (outcome >>= next) (names ++ names') (fine ∧ fine') where
  ok_iff := by
    constructor
    · rintro ⟨last, hlast⟩
      obtain ⟨after, hafter, hlast⟩ := chain_eq_ok_iff.mp hlast
      obtain ⟨hnodup, hfree, hfine⟩ := h.ok_iff.mp ⟨after, hafter⟩
      obtain ⟨hnodup', hfree', hfine'⟩ := (hnext after).ok_iff.mp ⟨last, hlast⟩
      -- The second names are free where the first are gone already.
      have hleft : ∀ name ∈ names', free state name ∧ name ∉ names := fun name hname =>
        (h.free_iff hafter name).mp (hfree' name hname)
      refine ⟨List.nodup_append.mpr ⟨hnodup, hnodup', ?_⟩, ?_, hfine, hfine'⟩
      · intro name hname name' hname' heq
        exact (hleft name' hname').2 (heq ▸ hname)
      · intro name hname
        rcases List.mem_append.mp hname with hname | hname
        · exact hfree name hname
        · exact (hleft name hname).1
    · rintro ⟨hnodup, hfree, hfine, hfine'⟩
      obtain ⟨hnodup, hnodup', hdisjoint⟩ := List.nodup_append.mp hnodup
      obtain ⟨after, hafter⟩ := h.ok_iff.mpr
        ⟨hnodup, fun name hname => hfree name (List.mem_append_left _ hname), hfine⟩
      obtain ⟨last, hlast⟩ := (hnext after).ok_iff.mpr ⟨hnodup', fun name hname =>
        (h.free_iff hafter name).mpr ⟨hfree name (List.mem_append_right _ hname),
          fun hname' => hdisjoint name hname' name hname rfl⟩, hfine'⟩
      exact ⟨last, chain_eq_ok_iff.mpr ⟨after, hafter, hlast⟩⟩
  free_iff := by
    intro last hlast name
    obtain ⟨after, hafter, hlast⟩ := chain_eq_ok_iff.mp hlast
    rw [(hnext after).free_iff hlast, h.free_iff hafter, List.mem_append, not_or, and_assoc]

/-- Claims in one part of a state are claims in the whole: the names of the part stand for names of
the whole, and the other names are not touched. -/
theorem lift {τ μ : Type} {free' : τ → μ → Prop} {state' : τ} {put : σ → τ} {name : ν → μ}
    {outcome : Except ε σ} (h : Claims free state outcome names fine)
    (hname : Function.Injective name)
    (hput : ∀ after n, free' (put after) (name n) ↔ free after n)
    (hstate : ∀ n, free' state' (name n) ↔ free state n)
    (hother : ∀ after m, (∀ n, m ≠ name n) → (free' (put after) m ↔ free' state' m)) :
    Claims free' state' (outcome >>= fun after => .ok (put after)) (names.map name) fine where
  ok_iff := by
    rw [List.nodup_map_iff hname]
    simp only [List.forall_mem_map, hstate, ← h.ok_iff, chain_eq_ok_iff]
    constructor
    · rintro ⟨_, after, hafter, -⟩
      exact ⟨after, hafter⟩
    · rintro ⟨after, hafter⟩
      exact ⟨_, after, hafter, rfl⟩
  free_iff := by
    intro last hlast m
    obtain ⟨after, hafter, hput'⟩ := chain_eq_ok_iff.mp hlast
    obtain rfl := Except.ok.inj hput'
    by_cases hm : ∃ n, m = name n
    · obtain ⟨n, rfl⟩ := hm
      rw [hput, hstate, h.free_iff hafter, List.mem_map_of_injective hname]
    · have hm' : ∀ n, m ≠ name n := fun n hn => hm ⟨n, hn⟩
      have hnot : m ∉ names.map name := fun hmem => by
        obtain ⟨n, -, rfl⟩ := List.mem_map.mp hmem
        exact hm ⟨n, rfl⟩
      rw [hother after m hm']
      simp [hnot]

/-- **Claiming item by item.** If every item claims its names in whatever state it finds, the items
together claim the names of all. -/
theorem foldlM {step : σ → α → Except ε σ} {names : α → List ν} {fine : α → Prop}
    (h : ∀ state a, Claims free state (step state a) (names a) (fine a)) (items : List α) :
    ∀ state, Claims free state (items.foldlM step state) (items.flatMap names)
      (∀ a ∈ items, fine a) := by
  induction items with
  | nil =>
    intro state
    simpa using Claims.nothing state
  | cons a rest ih =>
    intro state
    rw [List.foldlM_cons, List.flatMap_cons]
    simpa only [List.forall_mem_cons] using (h state a).bind ih

end Claims

/-- Claiming `names` goes wrong only in ways that are to `blame`, if the names are distinct and free
in the state. -/
def Blames (free : σ → ν → Prop) (state : σ) (outcome : Except ε σ) (names : List ν)
    (blame : ε → Prop) : Prop :=
  names.Nodup → (∀ name ∈ names, free state name) → ∀ e, outcome = .error e → blame e

namespace Blames

variable {blame : ε → Prop}

theorem congr {outcome outcome' : Except ε σ} (h : Blames free state outcome names blame)
    (houtcome : outcome = outcome') (hnames : names = names') :
    Blames free state outcome' names' blame := by
  rw [← houtcome, ← hnames]
  exact h

/-- Where nothing but names is asked for, nothing is to blame. -/
theorem of_claims {outcome : Except ε σ} (h : Claims free state outcome names True) :
    Blames free state outcome names blame := by
  intro hnodup hfree e he
  obtain ⟨after, hafter⟩ := h.ok_iff.mpr ⟨hnodup, hfree, trivial⟩
  rw [hafter] at he
  cases he

/-- What is looked at in between, in whatever form it comes. -/
theorem guard {β : Type} {check : Except ε β} (h : ∀ e, check = .error e → blame e) (state : σ) :
    Blames free state (check >>= fun _ => .ok state) [] blame := by
  intro _ _ e he
  cases hcheck : check with
  | ok b =>
    rw [hcheck] at he
    cases he
  | error e' =>
    rw [hcheck] at he
    obtain rfl := Except.error.inj he
    exact h e' hcheck

theorem bind {outcome : Except ε σ} {next : σ → Except ε σ}
    (hclaims : Claims free state outcome names fine) (h : Blames free state outcome names blame)
    (hnext : ∀ after, Blames free after (next after) names' blame) :
    Blames free state (outcome >>= next) (names ++ names') blame := by
  intro hnodup hfree e he
  obtain ⟨hfirst, hsecond, hdisjoint⟩ := List.nodup_append.mp hnodup
  obtain ⟨hfreeFirst, hfreeSecond⟩ := List.forall_mem_append.mp hfree
  cases houtcome : outcome with
  | error e' =>
    rw [houtcome] at he
    obtain rfl := Except.error.inj he
    exact h hfirst hfreeFirst e' houtcome
  | ok after =>
    rw [houtcome] at he
    -- The first names are gone, and the second are not among them.
    refine hnext after hsecond (fun name hname => ?_) e he
    exact (hclaims.free_iff houtcome name).mpr
      ⟨hfreeSecond name hname, fun hmem => hdisjoint name hmem name hname rfl⟩

/-- **Blaming item by item.** -/
theorem foldlM {step : σ → α → Except ε σ} {names : α → List ν} {fine : α → Prop} {items : List α}
    (hclaims : ∀ state a, Claims free state (step state a) (names a) (fine a))
    (h : ∀ state, ∀ a ∈ items, Blames free state (step state a) (names a) blame) :
    ∀ state, Blames free state (items.foldlM step state) (items.flatMap names) blame := by
  induction items with
  | nil =>
    intro state _ _ e he
    cases he
  | cons a rest ih =>
    intro state
    rw [List.foldlM_cons, List.flatMap_cons]
    exact (h state a List.mem_cons_self).bind (hclaims state a)
      (ih fun state b hb => h state b (List.mem_cons_of_mem a hb))

end Blames

end Claims

/-! ## Scopes -/

namespace Scope

/-- Whether a name can still be claimed. -/
def Free (scope : Scope) (rendered : String) : Prop :=
  isUsable rendered = true ∧ rendered ∉ scope.reserved ∧ rendered ∉ scope.taken

theorem free_empty {reserved : List String} {rendered : String} :
    (empty reserved).Free rendered ↔ isUsable rendered = true ∧ rendered ∉ reserved := by
  simp [Free, empty]

/-- **One attempt.** A rendering that cannot stand in the scope is refused, and so is one that is
taken. A free one is given away under the name it stands for. A refusal changes nothing. -/
theorem tryClaim_cases (scope : Scope) (interface name rendered : String) :
    ((isUsable rendered = false ∨ rendered ∈ scope.reserved) ∧
      scope.tryClaim interface name rendered =
        (.error (.unusableName interface name rendered), scope)) ∨
    ((isUsable rendered = true ∧ rendered ∉ scope.reserved) ∧
      ∃ first, scope.taken[rendered]? = some first ∧
        scope.tryClaim interface name rendered =
          (.error (.nameCollision interface first name rendered), scope)) ∨
    (scope.Free rendered ∧
      scope.tryClaim interface name rendered =
        (.ok (), { scope with taken := scope.taken.insert rendered name })) := by
  by_cases hexcluded : isUsable rendered = false ∨ rendered ∈ scope.reserved
  · exact .inl ⟨hexcluded, by simp [tryClaim, hexcluded]⟩
  · obtain ⟨husable, hreserved⟩ : isUsable rendered = true ∧ rendered ∉ scope.reserved := by
      simpa using hexcluded
    cases htaken : scope.taken[rendered]? with
    | some first =>
      refine .inr (.inl ⟨⟨husable, hreserved⟩, first, rfl, ?_⟩)
      simp [tryClaim, husable, hreserved, htaken]
    | none =>
      have hfree : rendered ∉ scope.taken := by simpa using htaken
      refine .inr (.inr ⟨⟨husable, hreserved, hfree⟩, ?_⟩)
      simp [tryClaim, husable, hreserved, hfree]

/-- **A claim.** A name can be claimed exactly if it is free. -/
theorem claim_eq_ok_iff {scope after : Scope} {interface name rendered : String} :
    scope.claim interface name rendered = .ok after ↔
      scope.Free rendered ∧ after = { scope with taken := scope.taken.insert rendered name } := by
  rcases tryClaim_cases scope interface name rendered with
    ⟨hexcluded, htry⟩ | ⟨-, first, htaken, htry⟩ | ⟨hfree, htry⟩
  · have hnot : ¬scope.Free rendered := by
      rintro ⟨husable, hreserved, -⟩
      simp [husable, hreserved] at hexcluded
    simp [claim, htry, hnot]
  · have hnot : ¬scope.Free rendered := by
      rintro ⟨-, -, hfree⟩
      simp [Std.HashMap.getElem?_eq_none hfree] at htaken
    simp [claim, htry, hnot]
  · simp [claim, htry, hfree, eq_comm]

/-- A claim takes its own name and no other. -/
theorem free_insert {scope : Scope} {name rendered other : String} :
    Free { scope with taken := scope.taken.insert rendered name } other ↔
      scope.Free other ∧ other ≠ rendered := by
  have hother : other ≠ rendered ↔ ¬rendered = other := ne_comm
  simp only [Free, Std.HashMap.mem_insert, beq_iff_eq, not_or, hother]
  tauto

theorem claims_claim (scope : Scope) (interface name rendered : String) :
    Claims Free scope (scope.claim interface name rendered) [rendered] True where
  ok_iff := by simp [claim_eq_ok_iff]
  free_iff := by
    intro after h other
    obtain ⟨_, rfl⟩ := claim_eq_ok_iff.mp h
    rw [free_insert, List.mem_singleton]

theorem claims_claimAll (scope : Scope) (interface : String) (names : List (String × String)) :
    Claims Free scope (scope.claimAll interface names) (names.map Prod.snd) True := by
  have h := Claims.foldlM (fun scope (name : String × String) =>
    claims_claim scope interface name.1 name.2) names scope
  rw [claimAll, List.map_eq_flatMap]
  simpa only [implies_true] using h

/-- Names that can stand together in a scope which reserves some others. -/
def Fits (reserved names : List String) : Prop :=
  names.Nodup ∧ ∀ name ∈ names, isUsable name = true ∧ name ∉ reserved

instance (reserved names : List String) : Decidable (Fits reserved names) :=
  inferInstanceAs (Decidable (_ ∧ _))

theorem fits_append {reserved names names' : List String} :
    Fits reserved (names ++ names') ↔
      Fits reserved names ∧ Fits reserved names' ∧ ∀ a ∈ names, ∀ b ∈ names', a ≠ b := by
  simp only [Fits, List.nodup_append, List.forall_mem_append]
  tauto

/-- **A fresh scope.** Names can be claimed in it if they fit. -/
theorem claims_empty_iff {ε : Type} {reserved names : List String} {outcome : Except ε Scope}
    {fine : Prop} (h : Claims Free (empty reserved) outcome names fine) :
    (∃ after, outcome = .ok after) ↔ Fits reserved names ∧ fine := by
  rw [h.ok_iff, Fits, and_assoc]
  simp only [free_empty]

theorem claimAll_empty_iff {reserved : List String} {interface : String}
    {names : List (String × String)} :
    (∃ after, (empty reserved).claimAll interface names = .ok after) ↔
      Fits reserved (names.map Prod.snd) := by
  rw [claims_empty_iff (claims_claimAll _ _ _), and_true]

/-! ## Faults -/

/-- Why names cannot be claimed in a scope which reserves some others. Each of the names comes with
its rendering. -/
inductive Fault (reserved : List String) (interface : String) (names : List (String × String)) :
    GenerateError → Prop
  | unusable {name rendered : String} : (name, rendered) ∈ names →
      (isUsable rendered = false ∨ rendered ∈ reserved) →
      Fault reserved interface names (.unusableName interface name rendered)
  /-- An earlier name has become the same. -/
  | collision {first name rendered : String} :
      [(first, rendered), (name, rendered)].Sublist names →
      Fault reserved interface names (.nameCollision interface first name rendered)

/-- A name in front that fits is no fault itself, but a later one may have become the same. -/
theorem Fault.cons {reserved : List String} {interface name rendered : String}
    {names : List (String × String)} {e : GenerateError}
    (h : Fault reserved interface ((name, rendered) :: names) e)
    (husable : isUsable rendered = true) (hfree : rendered ∉ reserved) :
    Fault reserved interface names e ∨
      ∃ second, (second, rendered) ∈ names ∧ e = .nameCollision interface name second rendered := by
  cases h with
  | unusable hmem hunusable =>
    rcases List.mem_cons.mp hmem with heq | hmem
    · obtain ⟨rfl, rfl⟩ := Prod.mk.inj heq
      simp [husable, hfree] at hunusable
    · exact .inl (.unusable hmem hunusable)
  | collision hsublist =>
    rcases List.sublist_cons_iff.mp hsublist with hlater | ⟨rest, heq, hlater⟩
    · exact .inl (.collision hlater)
    · obtain ⟨hfirst, rfl⟩ := List.cons.inj heq
      obtain ⟨rfl, rfl⟩ := Prod.mk.inj hfirst
      exact .inr ⟨_, List.singleton_sublist.mp hlater, rfl⟩

theorem claim_eq_error {scope : Scope} {interface name rendered : String} {e : GenerateError}
    (h : scope.claim interface name rendered = .error e) :
    ((isUsable rendered = false ∨ rendered ∈ scope.reserved) ∧
      e = .unusableName interface name rendered) ∨
    ∃ first, scope.taken[rendered]? = some first ∧
      e = .nameCollision interface first name rendered := by
  rcases tryClaim_cases scope interface name rendered with
    ⟨hexcluded, htry⟩ | ⟨-, first, htaken, htry⟩ | ⟨-, htry⟩
  · rw [claim, htry] at h
    exact .inl ⟨hexcluded, (Except.error.inj h).symm⟩
  · rw [claim, htry] at h
    exact .inr ⟨first, htaken, (Except.error.inj h).symm⟩
  · rw [claim, htry] at h
    cases h

theorem claimAll_cons {scope : Scope} {interface name rendered : String}
    {rest : List (String × String)} :
    scope.claimAll interface ((name, rendered) :: rest) =
      scope.claim interface name rendered >>= fun after => after.claimAll interface rest :=
  List.foldlM_cons

/-- What a scope has given away before counts like names in front. -/
theorem fault_of_claimAll_from {scope : Scope} {interface : String}
    {before names : List (String × String)} {e : GenerateError}
    (hscope : ∀ name rendered, scope.taken[rendered]? = some name → (name, rendered) ∈ before)
    (h : scope.claimAll interface names = .error e) :
    Fault scope.reserved interface (before ++ names) e := by
  induction names generalizing scope before with
  | nil => cases h
  | cons entry rest ih =>
    obtain ⟨name, rendered⟩ := entry
    rw [claimAll_cons] at h
    cases hclaim : scope.claim interface name rendered with
    | error e' =>
      rw [hclaim] at h
      obtain rfl := Except.error.inj h
      rcases claim_eq_error hclaim with ⟨hunusable, rfl⟩ | ⟨first, hfirst, rfl⟩
      · exact .unusable (by simp) hunusable
      · refine .collision ?_
        have hmem := List.singleton_sublist.mpr (hscope first rendered hfirst)
        exact hmem.append (List.Sublist.cons_cons _ (List.nil_sublist rest))
    | ok after =>
      rw [hclaim] at h
      obtain ⟨-, rfl⟩ := claim_eq_ok_iff.mp hclaim
      rw [List.append_cons]
      refine @ih { scope with taken := scope.taken.insert rendered name } _ ?_ h
      intro other rendered' hother
      rw [Std.HashMap.getElem?_insert] at hother
      split at hother
      · rename_i hsame
        obtain rfl := eq_of_beq hsame
        obtain rfl := Option.some.inj hother
        exact List.mem_append_right _ (List.mem_singleton_self _)
      · exact List.mem_append_left _ (hscope other rendered' hother)

theorem fault_of_claimAll {reserved : List String} {interface : String}
    {names : List (String × String)} {e : GenerateError}
    (h : (empty reserved).claimAll interface names = .error e) : Fault reserved interface names e :=
  @fault_of_claimAll_from (empty reserved) _ [] _ _ (by simp [empty]) h

/-! ## Two scopes side by side -/

/-- Whether a name can still be claimed, in the first scope or in the second. -/
def FreeIn (scopes : Scope × Scope) : String ⊕ String → Prop
  | .inl rendered => scopes.1.Free rendered
  | .inr rendered => scopes.2.Free rendered

variable {ε : Type} {scopes : Scope × Scope} {outcome : Except ε Scope} {names : List String}
  {fine : Prop}

theorem claims_inl (h : Claims Free scopes.1 outcome names fine) :
    Claims FreeIn scopes (outcome >>= fun after => .ok (after, scopes.2)) (names.map .inl)
      fine := by
  refine h.lift Sum.inl_injective (fun _ _ => Iff.rfl) (fun _ => Iff.rfl) ?_
  rintro after (rendered | rendered) hother
  · exact absurd rfl (hother rendered)
  · exact Iff.rfl

theorem claims_inr (h : Claims Free scopes.2 outcome names fine) :
    Claims FreeIn scopes (outcome >>= fun after => .ok (scopes.1, after)) (names.map .inr)
      fine := by
  refine h.lift Sum.inr_injective (fun _ _ => Iff.rfl) (fun _ => Iff.rfl) ?_
  rintro after (rendered | rendered) hother
  · exact Iff.rfl
  · exact absurd rfl (hother rendered)

theorem nodup_iff_sides {names : List (String ⊕ String)} :
    names.Nodup ↔ (names.filterMap Sum.getLeft?).Nodup ∧ (names.filterMap Sum.getRight?).Nodup := by
  induction names with
  | nil => simp
  | cons name rest ih =>
    cases name with
    | inl rendered =>
      simp only [List.nodup_cons, ih, List.filterMap_cons, Sum.getLeft?_inl, Sum.getRight?_inl,
        List.mem_filterMap, Sum.getLeft?_eq_some_iff, exists_eq_right, and_assoc]
    | inr rendered =>
      simp only [List.nodup_cons, ih, List.filterMap_cons, Sum.getLeft?_inr, Sum.getRight?_inr,
        List.mem_filterMap, Sum.getRight?_eq_some_iff, exists_eq_right]
      exact and_left_comm

/-- **Two fresh scopes.** Names can be claimed in them if those of each scope fit. -/
theorem claims_empties_iff {reserved reserved' : List String} {outcome : Except ε (Scope × Scope)}
    {names : List (String ⊕ String)}
    (h : Claims FreeIn (empty reserved, empty reserved') outcome names fine) :
    (∃ after, outcome = .ok after) ↔
      Fits reserved (names.filterMap Sum.getLeft?) ∧
      Fits reserved' (names.filterMap Sum.getRight?) ∧
        fine := by
  have hfree : (∀ name ∈ names, FreeIn (empty reserved, empty reserved') name) ↔
      (∀ rendered, .inl rendered ∈ names → isUsable rendered = true ∧ rendered ∉ reserved) ∧
      ∀ rendered, .inr rendered ∈ names → isUsable rendered = true ∧ rendered ∉ reserved' := by
    simp only [Sum.forall, FreeIn, free_empty]
  rw [h.ok_iff, hfree, nodup_iff_sides, Fits, Fits]
  simp only [List.mem_filterMap, Sum.getLeft?_eq_some_iff, Sum.getRight?_eq_some_iff,
    exists_eq_right]
  tauto

end Scope

end Bindery
