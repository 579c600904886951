import Mathlib.Data.List.Basic

/-!
# Fields of a text

Splitting a text at a divider and putting the divider between fields undo each other, so a text can
be described by its fields. The first fields of a text are a beginning of it that ends at a divider
(`eq_or_eq_append_of_fields`).
-/

namespace Bindery.Text

/-! ## Splitting -/

section Splitting

variable {α : Type} {divides : α → Bool} {cs : List α}

theorem splitOnP_append_of_forall {more field : List α} {fields : List (List α)}
    (h : ∀ c ∈ cs, divides c = false) (hfields : more.splitOnP divides = field :: fields) :
    (cs ++ more).splitOnP divides = (cs ++ field) :: fields := by
  induction cs with
  | nil => exact hfields
  | cons c cs ih =>
    obtain ⟨hc, hcs⟩ := List.forall_mem_cons.mp h
    simp [List.splitOnP_cons_eq_if_modifyHead, hc, ih hcs]

/-- Fields hold characters of the text, and no dividers. -/
theorem mem_of_mem_splitOnP {field : List α} (h : field ∈ cs.splitOnP divides) :
    ∀ c ∈ field, c ∈ cs ∧ divides c = false := by
  induction cs generalizing field with
  | nil => simp_all
  | cons d rest ih =>
    have hlater : ∀ field ∈ rest.splitOnP divides, ∀ c ∈ field, c ∈ d :: rest ∧ divides c = false :=
      fun field hfield c hc => ⟨List.mem_cons_of_mem d (ih hfield c hc).1, (ih hfield c hc).2⟩
    rw [List.splitOnP_cons_eq_if_modifyHead] at h
    split at h
    · rcases List.mem_cons.mp h with rfl | h
      · simp
      · exact hlater field h
    · rename_i hd
      -- The character joins the first field of the rest; the other fields are those of the rest.
      obtain ⟨first, others, hrest⟩ :=
        List.exists_cons_of_ne_nil (List.splitOnP_ne_nil divides rest)
      rw [hrest] at h hlater
      obtain ⟨hfirst, hothers⟩ := List.forall_mem_cons.mp hlater
      rcases List.mem_cons.mp h with rfl | h
      · exact List.forall_mem_cons.mpr ⟨⟨List.mem_cons_self, by simpa using hd⟩, hfirst⟩
      · exact hothers field h

theorem notMem_of_mem_splitOn [BEq α] [LawfulBEq α] {d : α} {field : List α}
    (h : field ∈ cs.splitOn d) : d ∉ field := fun hd => by
  simpa using (mem_of_mem_splitOnP h d hd).2

end Splitting

/-! ## Joining -/

section Joining

variable {α : Type} {divider : List α} {fields : List (List α)}

theorem intercalate_ne_nil {word : List α} (h : word ≠ []) (words : List (List α)) :
    divider.intercalate (word :: words) ≠ [] := by
  cases words <;> simp [h]

theorem intercalate_append {more : List (List α)} (h : fields ≠ []) (hmore : more ≠ []) :
    divider.intercalate (fields ++ more) =
      divider.intercalate fields ++ divider ++ divider.intercalate more := by
  induction fields with
  | nil => exact absurd rfl h
  | cons field fields ih =>
    cases fields with
    | nil => simp [List.intercalate_cons_of_ne_nil hmore]
    | cons next rest =>
      rw [List.cons_append, List.cons_append, List.intercalate_cons_cons, ← List.cons_append,
        ih (List.cons_ne_nil _ _), List.intercalate_cons_cons]
      simp only [List.append_assoc]

theorem suffix_intercalate (fields : List (List α)) (last : List α) :
    last <:+ divider.intercalate (fields ++ [last]) := by
  cases fields with
  | nil => simp
  | cons field fields =>
    rw [intercalate_append (List.cons_ne_nil _ _) (List.cons_ne_nil _ _),
      List.intercalate_singleton]
    exact List.suffix_append _ _

/-- After the first fields the text is at its end or at a divider. -/
theorem eq_or_eq_append_of_fields [BEq α] [LawfulBEq α] {d : α} {cs : List α}
    (h : fields <+: cs.splitOn d) (hne : fields ≠ []) :
    cs = [d].intercalate fields ∨ ∃ rest, cs = [d].intercalate fields ++ d :: rest := by
  obtain ⟨more, hmore⟩ := h
  have hcs : [d].intercalate (cs.splitOn d) = cs := List.intercalate_splitOn d
  rw [← hmore] at hcs
  cases more with
  | nil =>
    rw [List.append_nil] at hcs
    exact .inl hcs.symm
  | cons field others =>
    rw [intercalate_append hne (by simp), List.append_assoc, List.singleton_append] at hcs
    exact .inr ⟨_, hcs.symm⟩

end Joining

end Bindery.Text
