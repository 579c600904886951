import Bindery.Proofs.Scope
import Bindery.Proofs.SnakeCase
import Bindery.Proofs.Violations

/-!
# Claiming on after failures

A scope keeps the names it gave away in a map. Here bids for names are made in it one after the
other, whether or not those before them succeeded, and every outcome is told from the outcomes
before it, without the map.

**Histories** (`Scope.history`). The bids and how each turned out. A bid that fails leaves the scope
as it was, so a history without it is the same in all other entries (`Scope.history_eraseIdx`).

**What a scope remembers** (`Scope.Remembers`). The names in the map are those that bids of the
history won, each with the name that its winner stands for, and no name was won twice. One more bid
keeps it so (`Remembers.answer`), hence any number of them (`Remembers.after`). What a scope
remembers decides how it answers the next bid (`Remembers.judged`).

Main result: `Scope.bids_judged_by_history`.
-/

namespace Bindery.Scope

/-- A bid for the rendering of a name. -/
structure Bid where
  interface : String
  name : String
  rendered : String
  deriving DecidableEq, Repr

/-- A bid and how it turned out. -/
abbrev Entry := Bid × Except GenerateError Unit

/-- How the scope answers a bid, and what it is afterwards. -/
def answer (scope : Scope) (bid : Bid) : Except GenerateError Unit × Scope :=
  scope.tryClaim bid.interface bid.name bid.rendered

/-- The scope after some bids. -/
def after (scope : Scope) (bids : List Bid) : Scope :=
  bids.foldl (fun scope bid => (scope.answer bid).2) scope

/-- Bids made one after the other, with their outcomes. A failure does not keep back later ones. -/
def history (scope : Scope) : List Bid → List Entry
  | [] => []
  | bid :: bids => (bid, (scope.answer bid).1) :: history (scope.answer bid).2 bids

/-- The rendering that a bid has won, if it has. -/
def Entry.won? : Entry → Option String
  | (bid, .ok ()) => some bid.rendered
  | (_, .error _) => none

/-- The renderings that were won, in order. -/
def won (past : List Entry) : List String :=
  past.filterMap Entry.won?

/-! ## Renderings -/

/-- The rendering has the form of a name, perhaps behind one mark `r#` of a raw one. -/
def IsRendering (rendered : String) : Prop :=
  IsName rendered ∨ ∃ bare, rendered = "r#" ++ bare ∧ IsName bare

/-- What a scope refuses whatever was won in it. -/
def Unusable (reserved : List String) (rendered : String) : Prop :=
  ¬IsRendering rendered ∨ rendered ∈ reserved

theorem isUsable_iff_isRendering (rendered : String) :
    isUsable rendered = true ↔ IsRendering rendered := by
  by_cases hraw : ∃ bare, rendered = "r#" ++ bare
  · obtain ⟨bare, rfl⟩ := hraw
    rw [isUsable_raw, isIdentifier_iff_isName]
    constructor
    · intro hbare
      exact .inr ⟨bare, rfl, hbare⟩
    · rintro (hname | ⟨other, heq, hother⟩)
      · -- The mark holds a character that names do not have.
        have hplain := isPlain_of_isIdentifier ((isIdentifier_iff_isName _).mpr hname)
        exact absurd rfl (hplain.ne_raw bare)
      · obtain rfl := (String.append_right_inj _).mp heq
        exact hother
  · rw [isUsable_of_not_raw (not_exists.mp hraw), isIdentifier_iff_isName]
    constructor
    · exact .inl
    · rintro (hname | ⟨bare, heq, -⟩)
      · exact hname
      · exact absurd ⟨bare, heq⟩ hraw

/-! ## One bid -/

/-- The three answers to a bid. -/
theorem answer_cases (scope : Scope) (bid : Bid) :
    (Unusable scope.reserved bid.rendered ∧
      scope.answer bid =
        (.error (.unusableName bid.interface bid.name bid.rendered), scope)) ∨
    (¬Unusable scope.reserved bid.rendered ∧
      ∃ first, scope.taken[bid.rendered]? = some first ∧
        scope.answer bid =
          (.error (.nameCollision bid.interface first bid.name bid.rendered), scope)) ∨
    (¬Unusable scope.reserved bid.rendered ∧ scope.taken[bid.rendered]? = none ∧
      scope.answer bid =
        (.ok (), { scope with taken := scope.taken.insert bid.rendered bid.name })) := by
  have hform := isUsable_iff_isRendering bid.rendered
  rcases tryClaim_cases scope bid.interface bid.name bid.rendered with
    ⟨hexcluded, htry⟩ | ⟨⟨husable, hreserved⟩, first, htaken, htry⟩ |
      ⟨⟨husable, hreserved, hfree⟩, htry⟩
  · refine .inl ⟨?_, htry⟩
    rcases hexcluded with husable | hreserved
    · exact .inl (by simp [← hform, husable])
    · exact .inr hreserved
  · exact .inr (.inl ⟨by simp [Unusable, ← hform, husable, hreserved], first, htaken, htry⟩)
  · refine .inr (.inr ⟨by simp [Unusable, ← hform, husable, hreserved], ?_, htry⟩)
    exact Std.HashMap.getElem?_eq_none hfree

section Answers

variable {scope : Scope} {bid : Bid}

theorem answer_eq_unusable_iff {interface name rendered : String} :
    (scope.answer bid).1 = .error (.unusableName interface name rendered) ↔
      bid = ⟨interface, name, rendered⟩ ∧ Unusable scope.reserved rendered := by
  have hcases := answer_cases scope bid
  cases bid
  rcases hcases with ⟨hun, heq⟩ | ⟨hun, first, -, heq⟩ | ⟨hun, -, heq⟩ <;> grind

theorem answer_eq_collision_iff {interface first second rendered : String} :
    (scope.answer bid).1 = .error (.nameCollision interface first second rendered) ↔
      bid = ⟨interface, second, rendered⟩ ∧ ¬Unusable scope.reserved rendered ∧
        scope.taken[rendered]? = some first := by
  have hcases := answer_cases scope bid
  cases bid
  rcases hcases with ⟨hun, heq⟩ | ⟨hun, holder, htaken, heq⟩ | ⟨hun, hfree, heq⟩ <;> grind

theorem answer_eq_ok_iff :
    (scope.answer bid).1 = .ok () ↔
      ¬Unusable scope.reserved bid.rendered ∧ scope.taken[bid.rendered]? = none := by
  rcases answer_cases scope bid with ⟨hun, heq⟩ | ⟨hun, holder, htaken, heq⟩ | ⟨hun, hfree, heq⟩
  · simp [heq, hun]
  · simp [heq, htaken]
  · simp [heq, hun, hfree]

end Answers

/-- A bid that fails changes nothing. -/
theorem answer_of_error {scope : Scope} {bid : Bid} {e : GenerateError}
    (h : (scope.answer bid).1 = .error e) : (scope.answer bid).2 = scope := by
  rcases answer_cases scope bid with ⟨-, heq⟩ | ⟨-, first, -, heq⟩ | ⟨-, -, heq⟩
  · rw [heq]
  · rw [heq]
  · rw [heq] at h
    cases h

/-! ## Histories -/

theorem map_fst_history (scope : Scope) (bids : List Bid) :
    (scope.history bids).map Prod.fst = bids := by
  induction bids generalizing scope with
  | nil => rfl
  | cons bid bids ih => simp [history, ih]

theorem take_history (scope : Scope) (bids : List Bid) (k : Nat) :
    (scope.history bids).take k = scope.history (bids.take k) := by
  induction bids generalizing scope k with
  | nil => simp [history]
  | cons bid bids ih =>
    cases k with
    | zero => rfl
    | succ k => simp [history, ih]

/-- An entry is the answer of the scope after the bids before it. -/
theorem getElem?_history (scope : Scope) (bids : List Bid) (k : Nat) :
    (scope.history bids)[k]? =
      bids[k]?.map fun bid => (bid, ((scope.after (bids.take k)).answer bid).1) := by
  induction bids generalizing scope k with
  | nil => rfl
  | cons bid bids ih =>
    cases k with
    | zero => rfl
    | succ k => simpa [history, after] using ih (scope.answer bid).2 k

/-- **Failures do not matter.** A history without a bid that failed has all other entries as they
were. -/
theorem history_eraseIdx {scope : Scope} {bids : List Bid} {k : Nat} {bid : Bid}
    {e : GenerateError} (h : (scope.history bids)[k]? = some (bid, .error e)) :
    scope.history (bids.eraseIdx k) = (scope.history bids).eraseIdx k := by
  induction bids generalizing scope k with
  | nil => rfl
  | cons first rest ih =>
    cases k with
    | zero =>
      have hfirst : (first, (scope.answer first).1) = (bid, .error e) := by simpa [history] using h
      have hstays := answer_of_error (congrArg Prod.snd hfirst)
      simp [history, hstays]
    | succ k =>
      have hlater : ((scope.answer first).2.history rest)[k]? = some (bid, .error e) := by
        simpa [history] using h
      simp [history, ih hlater]

/-! ## What a scope remembers -/

theorem mem_won_iff {past : List Entry} {rendered : String} :
    rendered ∈ won past ↔ ∃ winner : Bid, (winner, .ok ()) ∈ past ∧ winner.rendered = rendered := by
  rw [won, List.mem_filterMap]
  constructor
  · rintro ⟨⟨winner, _ | ⟨⟩⟩, hmem, hwon⟩
    · cases hwon
    · exact ⟨winner, hmem, Option.some.inj hwon⟩
  · rintro ⟨winner, hmem, rfl⟩
    exact ⟨_, hmem, rfl⟩

theorem won_concat_error (past : List Entry) (bid : Bid) (e : GenerateError) :
    won (past ++ [(bid, .error e)]) = won past := by
  rw [won, List.filterMap_append]
  exact List.append_nil _

theorem won_concat_ok (past : List Entry) (bid : Bid) :
    won (past ++ [(bid, .ok ())]) = won past ++ [bid.rendered] :=
  List.filterMap_append

/-- The scope holds what was won in the past, and nothing was won that it reserves or twice. -/
structure Remembers (reserved : List String) (past : List Entry) (scope : Scope) : Prop where
  reserved_eq : scope.reserved = reserved
  taken_iff : ∀ rendered name, scope.taken[rendered]? = some name ↔
    ∃ winner : Bid, (winner, .ok ()) ∈ past ∧ winner.rendered = rendered ∧ winner.name = name
  nodup : (won past).Nodup
  usable : ∀ rendered ∈ won past, ¬Unusable reserved rendered

theorem remembers_empty (reserved : List String) : Remembers reserved [] (empty reserved) where
  reserved_eq := rfl
  taken_iff := by simp [empty]
  nodup := List.nodup_nil
  usable := by simp [won]

namespace Remembers

variable {reserved : List String} {past : List Entry} {scope : Scope}

theorem notMem_won (h : Remembers reserved past scope) {rendered : String}
    (hfree : scope.taken[rendered]? = none) : rendered ∉ won past := by
  intro hwon
  obtain ⟨winner, hmem, hrendered⟩ := mem_won_iff.mp hwon
  rw [(h.taken_iff _ _).mpr ⟨winner, hmem, hrendered, rfl⟩] at hfree
  cases hfree

/-- A failure adds nothing to remember. -/
theorem failed (h : Remembers reserved past scope) (bid : Bid) (e : GenerateError) :
    Remembers reserved (past ++ [(bid, .error e)]) scope where
  reserved_eq := h.reserved_eq
  taken_iff rendered name := by simp [h.taken_iff]
  nodup := by simpa only [won_concat_error] using h.nodup
  usable := by simpa only [won_concat_error] using h.usable

/-- A win adds the name that was won. -/
theorem succeeded (h : Remembers reserved past scope) {bid : Bid}
    (husable : ¬Unusable reserved bid.rendered) (hfree : scope.taken[bid.rendered]? = none) :
    Remembers reserved (past ++ [(bid, .ok ())])
      { scope with taken := scope.taken.insert bid.rendered bid.name } where
  reserved_eq := h.reserved_eq
  taken_iff rendered name := by
    simp only [Std.HashMap.getElem?_insert, beq_iff_eq, List.mem_append, List.mem_singleton,
      Prod.mk.injEq, and_true]
    by_cases hsame : bid.rendered = rendered
    · subst hsame
      rw [if_pos rfl, Option.some.injEq]
      constructor
      · intro hname
        exact ⟨bid, .inr rfl, rfl, hname⟩
      · rintro ⟨winner, hmem | rfl, hrendered, hname⟩
        · -- Nobody has won this rendering before.
          exact absurd (mem_won_iff.mpr ⟨winner, hmem, hrendered⟩) (h.notMem_won hfree)
        · exact hname
    · rw [if_neg hsame, h.taken_iff]
      constructor
      · rintro ⟨winner, hmem, hwinner⟩
        exact ⟨winner, .inl hmem, hwinner⟩
      · rintro ⟨winner, hmem | rfl, hwinner⟩
        · exact ⟨winner, hmem, hwinner⟩
        · exact absurd hwinner.1 hsame
  nodup := by
    rw [won_concat_ok, ← List.concat_eq_append]
    exact h.nodup.concat (h.notMem_won hfree)
  usable := by
    rw [won_concat_ok, List.forall_mem_append]
    exact ⟨h.usable, by simpa using husable⟩

/-- **One bid.** -/
theorem answer (h : Remembers reserved past scope) (bid : Bid) :
    Remembers reserved (past ++ [(bid, (scope.answer bid).1)]) (scope.answer bid).2 := by
  rcases answer_cases scope bid with ⟨-, heq⟩ | ⟨-, first, -, heq⟩ | ⟨husable, hfree, heq⟩
  · rw [heq]
    exact h.failed bid _
  · rw [heq]
    exact h.failed bid _
  · rw [heq]
    exact h.succeeded (h.reserved_eq ▸ husable) hfree

/-- **Any number of bids.** -/
theorem after (h : Remembers reserved past scope) (bids : List Bid) :
    Remembers reserved (past ++ scope.history bids) (scope.after bids) := by
  induction bids generalizing past scope with
  | nil => simpa [history, Scope.after] using h
  | cons bid bids ih => simpa [history, Scope.after] using ih (h.answer bid)

end Remembers

/-! ## Judging by history -/

/-- The bid at this position of the past got the rendering. -/
def WonAt (past : List Entry) (i : Nat) (winner : Bid) (rendered : String) : Prop :=
  past[i]? = some (winner, .ok ()) ∧ winner.rendered = rendered

/-- How a bid turns out, told from the past bids and how those turned out. -/
structure Judged (reserved : List String) (past : List Entry) (bid : Bid)
    (outcome : Except GenerateError Unit) : Prop where
  unusable_iff : ∀ interface name rendered,
    outcome = .error (.unusableName interface name rendered) ↔
      bid = ⟨interface, name, rendered⟩ ∧ Unusable reserved rendered
  /-- The error names first the one that has won, and then the one that is too late. -/
  collision_iff : ∀ interface first second rendered,
    outcome = .error (.nameCollision interface first second rendered) ↔
      bid = ⟨interface, second, rendered⟩ ∧ ¬Unusable reserved rendered ∧
        ∃ i winner, WonAt past i winner rendered ∧ winner.name = first
  ok_iff : outcome = .ok () ↔
    ¬Unusable reserved bid.rendered ∧ ¬∃ i winner, WonAt past i winner bid.rendered
  /-- At most one bid can have won before. -/
  winner_unique : ∀ i j winner winner', WonAt past i winner bid.rendered →
    WonAt past j winner' bid.rendered → i = j

/-- Where no rendering was won twice, it was won at one place at most. -/
theorem eq_of_wonAt {past : List Entry} (h : (won past).Nodup) {rendered : String} {i j : Nat}
    {winner winner' : Bid} (hi : WonAt past i winner rendered)
    (hj : WonAt past j winner' rendered) : i = j := by
  rw [won, List.Nodup, List.pairwise_filterMap, List.pairwise_iff_getElem] at h
  have hnot : ∀ {i j : Nat} {winner winner' : Bid}, WonAt past i winner rendered →
      WonAt past j winner' rendered → ¬i < j := by
    intro i j winner winner' ⟨hi, hrendered⟩ ⟨hj, hrendered'⟩ hlt
    obtain ⟨hilt, hi⟩ := List.getElem?_eq_some_iff.mp hi
    obtain ⟨hjlt, hj⟩ := List.getElem?_eq_some_iff.mp hj
    refine h i j hilt hjlt hlt rendered ?_ rendered ?_ rfl
    · rw [hi, Entry.won?, hrendered]
    · rw [hj, Entry.won?, hrendered']
  exact Nat.le_antisymm (Nat.le_of_not_lt (hnot hj hi)) (Nat.le_of_not_lt (hnot hi hj))

namespace Remembers

variable {reserved : List String} {past : List Entry} {scope : Scope}

theorem taken_iff_wonAt (h : Remembers reserved past scope) (rendered name : String) :
    scope.taken[rendered]? = some name ↔
      ∃ i winner, WonAt past i winner rendered ∧ winner.name = name := by
  rw [h.taken_iff]
  constructor
  · rintro ⟨winner, hmem, hrendered, hname⟩
    obtain ⟨i, hi⟩ := List.mem_iff_getElem?.mp hmem
    exact ⟨i, winner, ⟨hi, hrendered⟩, hname⟩
  · rintro ⟨i, winner, ⟨hi, hrendered⟩, hname⟩
    exact ⟨winner, List.mem_of_getElem? hi, hrendered, hname⟩

/-- **The next bid.** -/
theorem judged (h : Remembers reserved past scope) (bid : Bid) :
    Judged reserved past bid (scope.answer bid).1 where
  unusable_iff interface name rendered := by
    rw [answer_eq_unusable_iff, h.reserved_eq]
  collision_iff interface first second rendered := by
    rw [answer_eq_collision_iff, h.reserved_eq, h.taken_iff_wonAt]
  ok_iff := by
    have hfree : scope.taken[bid.rendered]? = none ↔
        ¬∃ i winner, WonAt past i winner bid.rendered := by
      simp only [Option.eq_none_iff_forall_ne_some, ne_eq, h.taken_iff_wonAt, not_exists, not_and]
      constructor
      · intro hnone i winner hwon
        exact hnone winner.name i winner hwon rfl
      · intro hnone name i winner hwon
        exact absurd hwon (hnone i winner)
    rw [answer_eq_ok_iff, h.reserved_eq, hfree]
  winner_unique _ _ _ _ hi hj := eq_of_wonAt h.nodup hi hj

end Remembers

/-- **Judged by history.** Whatever bids are made in a fresh scope, each is answered. It fails as
unusable if its rendering is no identifier, raw or not, or is reserved; otherwise it collides if an
earlier bid has won the rendering, and that one is named; otherwise it wins. A bid that fails may as
well not have been made. What is won is never reserved and never won twice. -/
theorem bids_judged_by_history (reserved : List String) (bids : List Bid) :
    ((empty reserved).history bids).map Prod.fst = bids ∧
    (∀ k bid outcome, ((empty reserved).history bids)[k]? = some (bid, outcome) →
      Judged reserved (((empty reserved).history bids).take k) bid outcome) ∧
    (∀ k bid e, ((empty reserved).history bids)[k]? = some (bid, .error e) →
      (empty reserved).history (bids.eraseIdx k) = ((empty reserved).history bids).eraseIdx k) ∧
    (won ((empty reserved).history bids)).Nodup ∧
    (won ((empty reserved).history bids)).Disjoint reserved := by
  have hremembers : ∀ made, Remembers reserved ((empty reserved).history made)
      ((empty reserved).after made) := (remembers_empty reserved).after
  refine ⟨map_fst_history _ bids, ?_, fun k bid e => history_eraseIdx, (hremembers bids).nodup, ?_⟩
  · intro k bid outcome hentry
    rw [getElem?_history, Option.map_eq_some_iff] at hentry
    obtain ⟨_, -, heq⟩ := hentry
    cases heq
    rw [take_history]
    exact (hremembers (bids.take k)).judged bid
  · intro rendered hwon hreserved
    exact (hremembers bids).usable rendered hwon (.inr hreserved)

/-- Two of these names come too late, one is lost in rendering, and one wants what the generated
code needs itself. -/
def loginBids : List Bid :=
  [⟨"Login", "userName", "user_name"⟩, ⟨"Login", "Cursor", "cursor"⟩,
    ⟨"Login", "user_name", "user_name"⟩, ⟨"Login", "_1", "1"⟩, ⟨"Login", "type", "r#type"⟩,
    ⟨"Login", "user_Name", "user_name"⟩]

theorem history_loginBids : (empty ["cursor"]).history loginBids =
    loginBids.zip [.ok (), .error (.unusableName "Login" "Cursor" "cursor"),
      .error (.nameCollision "Login" "userName" "user_name" "user_name"),
      .error (.unusableName "Login" "_1" "1"), .ok (),
      .error (.nameCollision "Login" "userName" "user_Name" "user_name")] := by
  have husable : isUsable "user_name" = true ∧ isUsable "1" = false ∧ isUsable "r#type" = true := by
    decide
  simp [loginBids, history, answer, tryClaim, empty, husable, Std.HashMap.getElem_insert]

theorem bids_judged_by_history_login :
    Judged ["cursor"] (((empty ["cursor"]).history loginBids).take 5)
      ⟨"Login", "user_Name", "user_name"⟩
      (.error (.nameCollision "Login" "userName" "user_Name" "user_name")) ∧
    (empty ["cursor"]).history (loginBids.eraseIdx 2) =
      ((empty ["cursor"]).history loginBids).eraseIdx 2 ∧
    won ((empty ["cursor"]).history loginBids) = ["user_name", "r#type"] ∧
    ["user_name", "r#type"].Nodup ∧ ["user_name", "r#type"].Disjoint ["cursor"] := by
  have hwon : won ((empty ["cursor"]).history loginBids) = ["user_name", "r#type"] := by
    rw [history_loginBids]
    rfl
  obtain ⟨-, hjudged, herased, hkept⟩ := bids_judged_by_history ["cursor"] loginBids
  rw [hwon] at hkept
  refine ⟨hjudged 5 _ _ ?_, herased 2 ⟨"Login", "user_name", "user_name"⟩
    (.nameCollision "Login" "userName" "user_name" "user_name") ?_, hwon, hkept⟩
  · rw [history_loginBids]
    rfl
  · rw [history_loginBids]
    rfl

end Bindery.Scope
