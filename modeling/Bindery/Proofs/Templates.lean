import Bindery.Output.Template
import Mathlib.Data.List.TakeWhile

/-!
# What a template stands for

A template is read by a loop that looks for the next opening brace, then for the closing brace
behind it, and goes on with what is left. Here the result is described by the positions of the text
alone: a brace offends if no placeholder starts with it (`Offends`), and placeholders are replaced
wherever they stand (`replaced`).

**Shapes.** A text has no opening brace, or one that is never closed behind it, or one with a
closing brace behind it (`shapes`). In each case one turn of the loop is an equation
(`piecesOf_plain`, `piecesOf_unclosed`, `piecesOf_named`).

**Passing on** (`Passes`). Text without an opening brace and whole placeholders hold no brace that
offends. So what is found in the text behind them is found in the whole text, further on by their
length.

Main result: `templates_filled`.
-/

namespace Bindery.Template

/-! ## Placeholders and positions -/

/-- A name between braces. -/
def mark (name : List Char) : List Char :=
  '\x7b' :: (name ++ ['\x7d'])

/-- The text starts with a placeholder. -/
def Opens (cs : List Char) : Prop :=
  mark "filename".toList <+: cs ∨ mark "ext".toList <+: cs

/-- At this position of the text stands an opening brace that starts no placeholder. -/
def Offends (cs : List Char) (i : Nat) : Prop :=
  cs[i]? = some '\x7b' ∧ ¬Opens (cs.drop i)

/-- The position is that of the first brace that offends. -/
def OffendsFirst (cs : List Char) (i : Nat) : Prop :=
  Offends cs i ∧ ∀ j < i, ¬Offends cs j

/-- What is reported of a text that starts with a brace that offends: the text between it and the
next closing brace, or all of the text if there is none. -/
def Reported (cs placeholder : List Char) : Prop :=
  (∃ rest, cs = '\x7b' :: (placeholder ++ '\x7d' :: rest) ∧ '\x7d' ∉ placeholder) ∨
    ('\x7d' ∉ cs ∧ placeholder = cs)

/-- The text with all its placeholders replaced at once. What is put in is not looked at again. -/
def replaced (filename extension : List Char) : List Char → List Char
  | [] => []
  | c :: rest =>
    if mark "filename".toList <+: c :: rest then
      filename ++ replaced filename extension ((c :: rest).drop (mark "filename".toList).length)
    else if mark "ext".toList <+: c :: rest then
      extension ++ replaced filename extension ((c :: rest).drop (mark "ext".toList).length)
    else c :: replaced filename extension rest
  termination_by cs => cs.length
  decreasing_by
    · simp only [mark, List.length_cons, List.drop_succ_cons, List.length_drop]
      omega
    · simp only [mark, List.length_cons, List.drop_succ_cons, List.length_drop]
      omega
    · exact Nat.lt_succ_self _

/-! ## Cutting a text at a character -/

section Cuts

variable {c : Char} {cs before rest : List Char}

theorem notMem_takeWhile (c : Char) (cs : List Char) : c ∉ cs.takeWhile (· != c) := by
  intro h
  simpa using List.mem_takeWhile_imp h

theorem dropWhile_eq_nil_iff_notMem : cs.dropWhile (· != c) = [] ↔ c ∉ cs := by
  rw [List.dropWhile_eq_nil_iff]
  constructor
  · intro h hc
    simpa using h c hc
  · intro h d hd
    simpa using ne_of_mem_of_not_mem hd h

theorem eq_append_of_dropWhile {d : Char} (h : cs.dropWhile (· != c) = d :: rest) :
    cs = cs.takeWhile (· != c) ++ c :: rest := by
  have hd : (d != c) = false := by
    have hhead := List.head?_dropWhile_not (· != c) cs
    rwa [h] at hhead
  obtain rfl : d = c := by simpa using hd
  rw [← h, List.takeWhile_append_dropWhile]

theorem takeWhile_at (h : c ∉ before) : (before ++ c :: rest).takeWhile (· != c) = before := by
  rw [List.takeWhile_append_of_pos, List.takeWhile_cons_of_neg (by simp), List.append_nil]
  intro d hd
  simpa using ne_of_mem_of_not_mem hd h

theorem dropWhile_at (h : c ∉ before) : (before ++ c :: rest).dropWhile (· != c) = c :: rest := by
  rw [List.dropWhile_append_of_pos, List.dropWhile_cons_of_neg (by simp)]
  intro d hd
  simpa using ne_of_mem_of_not_mem hd h

end Cuts

/-! ## Shapes -/

section Shapes

variable {cs before body name rest : List Char}

/-- Every text is of one of three shapes. -/
theorem shapes (cs : List Char) :
    '\x7b' ∉ cs ∨
    (∃ before body, '\x7b' ∉ before ∧ '\x7d' ∉ body ∧ cs = before ++ '\x7b' :: body) ∨
    ∃ before name rest, '\x7b' ∉ before ∧ '\x7d' ∉ name ∧
      cs = before ++ '\x7b' :: (name ++ '\x7d' :: rest) := by
  cases hopen : cs.dropWhile (· != '\x7b') with
  | nil => exact .inl (dropWhile_eq_nil_iff_notMem.mp hopen)
  | cons brace body =>
    have hcs := eq_append_of_dropWhile hopen
    cases hclose : body.dropWhile (· != '\x7d') with
    | nil =>
      exact .inr (.inl ⟨_, body, notMem_takeWhile _ cs, dropWhile_eq_nil_iff_notMem.mp hclose, hcs⟩)
    | cons close rest =>
      rw [eq_append_of_dropWhile hclose] at hcs
      exact .inr (.inr ⟨_, _, rest, notMem_takeWhile _ cs, notMem_takeWhile _ body, hcs⟩)

theorem piecesOf_plain (h : '\x7b' ∉ cs) : piecesOf cs = .ok (literal cs) := by
  have hopen := dropWhile_eq_nil_iff_notMem.mpr h
  rw [piecesOf]
  split
  · rfl
  · simp_all

theorem piecesOf_unclosed (hbefore : '\x7b' ∉ before) (hbody : '\x7d' ∉ body) :
    piecesOf (before ++ '\x7b' :: body) = .error ('\x7b' :: body) := by
  have hopen := @dropWhile_at _ _ body hbefore
  have hclose := dropWhile_eq_nil_iff_notMem.mpr hbody
  rw [piecesOf]
  split
  · simp_all
  · rename_i brace body' hbody'
    obtain ⟨rfl, rfl⟩ := List.cons.inj (hopen.symm.trans hbody')
    split
    · rfl
    · simp_all

/-- One turn of the loop. -/
theorem piecesOf_named (hbefore : '\x7b' ∉ before) (hname : '\x7d' ∉ name) :
    piecesOf (before ++ '\x7b' :: (name ++ '\x7d' :: rest)) =
      match placeholder? name with
      | none => .error name
      | some piece => (piecesOf rest).map fun pieces => literal before ++ piece :: pieces := by
  have hopen := @dropWhile_at _ _ (name ++ '\x7d' :: rest) hbefore
  have hclose := @dropWhile_at _ _ rest hname
  rw [piecesOf]
  split
  · simp_all
  · rename_i brace body hbody
    obtain ⟨rfl, rfl⟩ := List.cons.inj (hopen.symm.trans hbody)
    split
    · simp_all
    · rename_i close rest' hrest
      obtain ⟨rfl, rfl⟩ := List.cons.inj (hclose.symm.trans hrest)
      simp only [takeWhile_at hname, takeWhile_at hbefore]
      cases placeholder? name with
      | none => rfl
      | some piece => cases piecesOf rest <;> rfl

end Shapes

/-! ## Placeholders -/

section Marks

variable {word name rest : List Char}

theorem mark_append : mark name ++ rest = '\x7b' :: (name ++ '\x7d' :: rest) := by
  simp [mark]

theorem mark_prefix_iff (hword : '\x7d' ∉ word) (hname : '\x7d' ∉ name) :
    mark word <+: '\x7b' :: (name ++ '\x7d' :: rest) ↔ name = word := by
  constructor
  · rintro ⟨tail, htail⟩
    rw [mark_append] at htail
    have hcut := congrArg (List.takeWhile (· != '\x7d')) (List.cons.inj htail).2
    rw [takeWhile_at hword, takeWhile_at hname] at hcut
    exact hcut.symm
  · rintro rfl
    rw [← mark_append]
    exact List.prefix_append _ _

/-- What starts with a named brace is a placeholder if the name is that of one. -/
theorem opens_iff (hname : '\x7d' ∉ name) :
    Opens ('\x7b' :: (name ++ '\x7d' :: rest)) ↔
      name = "filename".toList ∨ name = "ext".toList := by
  have hfilename : '\x7d' ∉ "filename".toList := by decide
  have hext : '\x7d' ∉ "ext".toList := by decide
  rw [Opens, mark_prefix_iff hfilename hname, mark_prefix_iff hext hname]

theorem placeholder?_eq_none_iff :
    placeholder? name = none ↔ ¬(name = "filename".toList ∨ name = "ext".toList) := by
  unfold placeholder?
  split
  · simp_all
  · split <;> simp_all

theorem placeholder?_eq_some {piece : Piece} (h : placeholder? name = some piece) :
    (name = "filename".toList ∧ piece = .filename) ∨
      (name = "ext".toList ∧ piece = .extension) := by
  unfold placeholder? at h
  split at h
  · exact .inl ⟨‹_›, (Option.some.inj h).symm⟩
  · split at h
    · exact .inr ⟨‹_›, (Option.some.inj h).symm⟩
    · cases h

theorem not_opens_of_unclosed {cs : List Char} (h : '\x7d' ∉ cs) : ¬Opens cs := by
  have hclosed : ∀ name, '\x7d' ∈ mark name := by simp [mark]
  rintro (hopens | hopens)
  · exact h (hopens.subset (hclosed _))
  · exact h (hopens.subset (hclosed _))

theorem not_opens_of_ne {c : Char} (h : c ≠ '\x7b') : ¬Opens (c :: rest) := by
  rintro (hopens | hopens)
  · exact h (List.cons_prefix_cons.mp hopens).1.symm
  · exact h (List.cons_prefix_cons.mp hopens).1.symm

end Marks

/-! ## Replacing -/

section Replacing

variable {filename extension : List Char}

theorem replaced_filename (rest : List Char) :
    replaced filename extension (mark "filename".toList ++ rest) =
      filename ++ replaced filename extension rest := by
  have hopens : mark "filename".toList <+: mark "filename".toList ++ rest := List.prefix_append _ _
  have hdrop : (mark "filename".toList ++ rest).drop (mark "filename".toList).length = rest :=
    List.drop_left
  rw [mark_append] at hopens hdrop ⊢
  rw [replaced, if_pos hopens, hdrop]

theorem replaced_ext (rest : List Char) :
    replaced filename extension (mark "ext".toList ++ rest) =
      extension ++ replaced filename extension rest := by
  have hopens : mark "ext".toList <+: mark "ext".toList ++ rest := List.prefix_append _ _
  have hdrop : (mark "ext".toList ++ rest).drop (mark "ext".toList).length = rest := List.drop_left
  have hother : ¬mark "filename".toList <+: mark "ext".toList ++ rest := by
    rw [mark_append, mark_prefix_iff (by decide) (by decide)]
    decide
  rw [mark_append] at hopens hdrop hother ⊢
  rw [replaced, if_neg hother, if_pos hopens, hdrop]

theorem replaced_of_notMem {before : List Char} (h : '\x7b' ∉ before) (rest : List Char) :
    replaced filename extension (before ++ rest) =
      before ++ replaced filename extension rest := by
  induction before with
  | nil => rfl
  | cons c before ih =>
    obtain ⟨hc, hbefore⟩ := not_or.mp (mt List.mem_cons.mpr h)
    obtain ⟨hfilename, hext⟩ := not_or.mp (@not_opens_of_ne (before ++ rest) c (Ne.symm hc))
    rw [List.cons_append, replaced, if_neg hfilename, if_neg hext, ih hbefore]
    rfl

/-- Placeholders that stand for themselves leave the text as it is. -/
theorem replaced_marks (cs : List Char) :
    replaced (mark "filename".toList) (mark "ext".toList) cs = cs := by
  fun_induction replaced (mark "filename".toList) (mark "ext".toList) cs with
  | case1 => rfl
  | case2 c rest h ih =>
    rw [ih]
    exact List.prefix_iff_eq_append.mp h
  | case3 c rest _ h ih =>
    rw [ih]
    exact List.prefix_iff_eq_append.mp h
  | case4 c rest _ _ ih => rw [ih]

end Replacing

/-! ## Passing on -/

/-- No brace in `skipped` offends if `rest` stands behind it. -/
def Passes (skipped rest : List Char) : Prop :=
  ∀ i < skipped.length, ¬Offends (skipped ++ rest) i

section Passing

variable {skipped skipped' rest : List Char}

theorem offends_append {i : Nat} :
    Offends (skipped ++ rest) (skipped.length + i) ↔ Offends rest i := by
  rw [Offends, Offends, List.drop_length_add_append,
    List.getElem?_append_right (Nat.le_add_right _ _), Nat.add_sub_cancel_left]

theorem passes_of_notMem (h : '\x7b' ∉ skipped) (rest : List Char) : Passes skipped rest := by
  intro i hi hoffends
  have hbrace := hoffends.1
  rw [List.getElem?_append_left hi] at hbrace
  exact h (List.mem_of_getElem? hbrace)

theorem passes_placeholder {name : List Char} {piece : Piece} (h : placeholder? name = some piece)
    (rest : List Char) : Passes (mark name) rest := by
  have hopens : Opens (mark name ++ rest) := by
    rcases placeholder?_eq_some h with ⟨rfl, -⟩ | ⟨rfl, -⟩
    · exact .inl (List.prefix_append _ _)
    · exact .inr (List.prefix_append _ _)
  have hname : '\x7b' ∉ name := by
    rcases placeholder?_eq_some h with ⟨rfl, -⟩ | ⟨rfl, -⟩ <;> decide
  intro i hi hoffends
  cases i with
  | zero => exact hoffends.2 hopens
  | succ i =>
    have hbrace := hoffends.1
    rw [List.getElem?_append_left hi] at hbrace
    have hmem : '\x7b' ∈ name ++ ['\x7d'] := List.mem_of_getElem? hbrace
    rw [List.mem_append, List.mem_singleton] at hmem
    exact hmem.elim hname (by decide)

theorem Passes.none (h : Passes skipped rest) (hrest : ∀ i, ¬Offends rest i) (i : Nat) :
    ¬Offends (skipped ++ rest) i := by
  rcases Nat.lt_or_ge i skipped.length with hlt | hle
  · exact h i hlt
  · obtain ⟨k, rfl⟩ := Nat.exists_eq_add_of_le hle
    rw [offends_append]
    exact hrest k

theorem Passes.first (h : Passes skipped rest) {i : Nat} (hrest : OffendsFirst rest i) :
    OffendsFirst (skipped ++ rest) (skipped.length + i) := by
  refine ⟨offends_append.mpr hrest.1, fun j hj => ?_⟩
  rcases Nat.lt_or_ge j skipped.length with hlt | hle
  · exact h j hlt
  · obtain ⟨k, rfl⟩ := Nat.exists_eq_add_of_le hle
    rw [offends_append]
    exact hrest.2 k (Nat.lt_of_add_lt_add_left hj)

theorem offendsFirst_of_not_opens {cs : List Char} (h : ¬Opens ('\x7b' :: cs)) :
    OffendsFirst ('\x7b' :: cs) 0 :=
  ⟨⟨rfl, h⟩, fun _ hj => absurd hj (Nat.not_lt_zero _)⟩

end Passing

/-! ## Reading -/

/-- The pieces with the placeholders filled in. -/
def filled (filename extension : List Char) (pieces : List Piece) : List Char :=
  pieces.flatMap fun
    | .text text => text.toList
    | .filename => filename
    | .extension => extension

theorem toList_expand (pieces : List Piece) (filename extension : String) :
    (expand ⟨pieces⟩ filename extension).toList =
      filled filename.toList extension.toList pieces := by
  rw [expand, String.toList_join, List.flatMap_map, filled]
  congr 1
  funext piece
  cases piece <;> rfl

theorem filled_literal (filename extension cs : List Char) (pieces : List Piece) :
    filled filename extension (literal cs ++ pieces) = cs ++ filled filename extension pieces := by
  unfold literal filled
  cases cs <;> simp

/-- What the result of reading says about the text. -/
def Accounts (cs : List Char) : Except (List Char) (List Piece) → Prop
  | .ok pieces => (∀ i, ¬Offends cs i) ∧
      ∀ filename extension, filled filename extension pieces = replaced filename extension cs
  | .error placeholder => ∃ i, OffendsFirst cs i ∧ Reported (cs.drop i) placeholder

theorem filled_placeholder {name rest : List Char} {piece : Piece} {pieces : List Piece}
    (hpiece : placeholder? name = some piece) {filename extension : List Char}
    (h : filled filename extension pieces = replaced filename extension rest) :
    filled filename extension (piece :: pieces) =
      replaced filename extension (mark name ++ rest) := by
  rcases placeholder?_eq_some hpiece with ⟨rfl, rfl⟩ | ⟨rfl, rfl⟩
  · rw [replaced_filename, ← h]
    rfl
  · rw [replaced_ext, ← h]
    rfl

/-- A known placeholder hands on what is found behind it. -/
theorem Accounts.named {before name rest : List Char} {piece : Piece}
    {result : Except (List Char) (List Piece)} (hbefore : '\x7b' ∉ before)
    (hpiece : placeholder? name = some piece) (h : Accounts rest result) :
    Accounts (before ++ (mark name ++ rest))
      (result.map fun pieces => literal before ++ piece :: pieces) := by
  have hpasses := passes_of_notMem hbefore (mark name ++ rest)
  have hpasses' := passes_placeholder hpiece rest
  cases result with
  | ok pieces =>
    refine ⟨hpasses.none (hpasses'.none h.1), fun filename extension => ?_⟩
    rw [filled_literal, filled_placeholder hpiece (h.2 filename extension),
      replaced_of_notMem hbefore]
  | error placeholder =>
    obtain ⟨i, hfirst, hreported⟩ := h
    refine ⟨_, hpasses.first (hpasses'.first hfirst), ?_⟩
    rwa [List.drop_length_add_append, List.drop_length_add_append]

/-- **Reading.** By induction on the length of the text, along its shapes. -/
theorem accounts_piecesOf (cs : List Char) : Accounts cs (piecesOf cs) := by
  induction hlength : cs.length using Nat.strongRecOn generalizing cs with
  | ind n ih =>
    rcases shapes cs with hplain | ⟨before, body, hbefore, hbody, rfl⟩ |
      ⟨before, name, rest, hbefore, hname, rfl⟩
    · rw [piecesOf_plain hplain]
      refine ⟨fun i hoffends => hplain (List.mem_of_getElem? hoffends.1),
        fun filename extension => ?_⟩
      have hfilled := filled_literal filename extension cs []
      have hreplaced := @replaced_of_notMem filename extension cs hplain []
      rw [List.append_nil] at hfilled hreplaced
      rw [hfilled, hreplaced, replaced]
      rfl
    · have hopen : '\x7d' ∉ '\x7b' :: body := by simpa using hbody
      rw [piecesOf_unclosed hbefore hbody]
      refine ⟨_, (passes_of_notMem hbefore _).first
        (offendsFirst_of_not_opens (not_opens_of_unclosed hopen)), .inr ?_⟩
      rw [List.drop_length_add_append]
      exact ⟨hopen, rfl⟩
    · rw [piecesOf_named hbefore hname]
      cases hpiece : placeholder? name with
      | none =>
        have hunknown : ¬Opens ('\x7b' :: (name ++ '\x7d' :: rest)) := by
          rw [opens_iff hname]
          exact placeholder?_eq_none_iff.mp hpiece
        refine ⟨_, (passes_of_notMem hbefore _).first (offendsFirst_of_not_opens hunknown), .inl ?_⟩
        rw [List.drop_length_add_append]
        exact ⟨rest, rfl, hname⟩
      | some piece =>
        rw [← mark_append]
        refine Accounts.named hbefore hpiece (ih rest.length ?_ rest rfl)
        rw [← hlength]
        simp only [List.length_append, List.length_cons]
        omega

theorem expand_eq {cs : List Char} {pieces : List Piece} (h : Accounts cs (.ok pieces))
    (filename extension : String) :
    expand ⟨pieces⟩ filename extension =
      String.ofList (replaced filename.toList extension.toList cs) := by
  rw [← String.toList_inj, toList_expand, String.toList_ofList]
  exact h.2 filename.toList extension.toList

end Bindery.Template

namespace Bindery

open Template

/-- **Templates.** A text is a template exactly if every opening brace in it starts a placeholder.
Filling a template in gives its text with all placeholders replaced at once, and placeholders that
stand for themselves give the text back. If the text is no template, the fault names it and the
first brace that offends. -/
theorem templates_filled (text : String) :
    ((∃ template, Template.parse text = .ok template) ↔
      ∀ i, text.toList[i]? = some '\x7b' → Opens (text.toList.drop i)) ∧
    (∀ template, Template.parse text = .ok template →
      (∀ filename extension, template.expand filename extension =
        String.ofList (replaced filename.toList extension.toList text.toList)) ∧
      template.expand "\x7bfilename\x7d" "\x7bext\x7d" = text) ∧
    ∀ e, Template.parse text = .error e → e.template = text ∧
      ∃ i, OffendsFirst text.toList i ∧ Reported (text.toList.drop i) e.placeholder.toList := by
  have haccounts := accounts_piecesOf text.toList
  rw [Template.parse]
  cases hpieces : piecesOf text.toList with
  | ok pieces =>
    rw [hpieces] at haccounts
    refine ⟨⟨fun _ i hbrace => ?_, fun _ => ⟨⟨pieces⟩, rfl⟩⟩, fun template h => ?_, fun e h => ?_⟩
    · by_contra hopens
      exact haccounts.1 i ⟨hbrace, hopens⟩
    · obtain rfl : ⟨pieces⟩ = template := Except.ok.inj h
      refine ⟨expand_eq haccounts, ?_⟩
      have hmarks := replaced_marks text.toList
      rw [expand_eq haccounts, ← String.toList_inj, String.toList_ofList]
      exact hmarks
    · cases h
  | error placeholder =>
    rw [hpieces] at haccounts
    obtain ⟨i, hfirst, hreported⟩ := haccounts
    refine ⟨⟨fun h => ?_, fun h => ?_⟩, fun template h => ?_, fun e h => ?_⟩
    · obtain ⟨template, h⟩ := h
      cases h
    · exact absurd (h i hfirst.1.1) hfirst.1.2
    · cases h
    · obtain rfl : ⟨text, String.ofList placeholder⟩ = e := Except.error.inj h
      refine ⟨rfl, i, hfirst, ?_⟩
      rwa [String.toList_ofList]

/-- A file name with braces is put in as it is, and a brace inside another is not seen. -/
theorem templates_filled_braces :
    (∃ template, Template.parse "\x7bfilename\x7d/\x7bext\x7d\x7d" = .ok template ∧
      template.expand "\x7bext\x7d" "rs" = "\x7bext\x7d/rs\x7d" ∧
      template.expand "\x7bfilename\x7d" "\x7bext\x7d" = "\x7bfilename\x7d/\x7bext\x7d\x7d") ∧
    ∃ e, Template.parse "\x7bext\x7d-\x7bfile\x7bname\x7d" = .error e ∧
      e.template = "\x7bext\x7d-\x7bfile\x7bname\x7d" ∧ e.placeholder = "file\x7bname" := by
  have hok : Template.parse "\x7bfilename\x7d/\x7bext\x7d\x7d" =
      .ok ⟨[.filename, .text "/", .extension, .text "\x7d"]⟩ := by decide +kernel
  have herror : Template.parse "\x7bext\x7d-\x7bfile\x7bname\x7d" =
      .error ⟨"\x7bext\x7d-\x7bfile\x7bname\x7d", "file\x7bname"⟩ := by decide +kernel
  have hfilled := (templates_filled _).2.1 _ hok
  exact ⟨⟨_, hok, by decide, hfilled.2⟩, _, herror, ((templates_filled _).2.2 _ herror).1, rfl⟩

end Bindery
