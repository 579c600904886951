import Bindery.Proofs.Pieces

/-!
# Passages

A part of a script may stand anywhere: inside of blocks, between other parts, while guards are held.
Its lines are then a passage of the text, with the indentation of the place where the part stands.
Nothing need be known of the other parts, but that those in front end their last line (`EndsLine`).

**Places** (`Occurs`). A part occurs in a list of steps, or in the body of a block that is one of
them. The events of the script are those of the part with others around them (`Occurs.events`), and
what a part of whole lines writes from the start of a line are its lines (`written_of_draws`).

Main result: `Occurs.passage`.
-/

namespace Bindery.Layout

open Text

/-! ## Ends of lines -/

theorem eventsOf_append (blocks held : Nat) (script more : List Step) :
    eventsOf blocks held (script ++ more) =
      eventsOf blocks held script ++ eventsOf blocks (heldAfter held script) more := by
  induction script generalizing held with
  | nil => rfl
  | cons step steps ih =>
    rw [List.cons_append, eventsOf, eventsOf, heldAfter, ih, List.append_assoc]

/-- From the start of a line, these steps lead to the start of a line. -/
def EndsLine (steps : List Step) : Prop :=
  ∀ blocks held, startAfter true (eventsOf blocks held steps) = true

namespace EndsLine

variable {steps more : List Step}

theorem nil : EndsLine [] := fun _ _ => rfl

theorem append (h : EndsLine steps) (h' : EndsLine more) : EndsLine (steps ++ more) := by
  intro blocks held
  rw [eventsOf_append, startAfter_append, h, h']

theorem flatMap {α : Type} {part : α → List Step} {items : List α}
    (h : ∀ a ∈ items, EndsLine (part a)) : EndsLine (items.flatMap part) := by
  induction items with
  | nil => exact nil
  | cons a rest ih =>
    rw [List.flatMap_cons]
    exact (h a List.mem_cons_self).append (ih fun b hb => h b (List.mem_cons_of_mem a hb))

/-- Whatever stands in front, an empty line ends it. -/
theorem concat_blank (steps : List Step) : EndsLine (steps ++ [.blank]) := by
  intro blocks held
  rw [eventsOf_append, startAfter_append]
  rfl

end EndsLine

/-- Whether a step does not leave a line half written. -/
def Step.isWhole : Step → Bool
  | .write _ | .separated _ _ _ => false
  | _ => true

theorem startAfter_lines (guards : Nat) (texts : List String) :
    startAfter true (texts.flatMap (lineEvents guards)) = true := by
  induction texts with
  | nil => rfl
  | cons text texts ih => exact ih

theorem Step.endsLine {step : Step} (h : step.isWhole = true) : EndsLine [step] := by
  intro blocks held
  rw [eventsOf, eventsOf, List.append_nil]
  cases step with
  | write piece => cases h
  | separated separator asLines items => cases h
  | comment mark text =>
    rw [Step.events, ← List.flatMap_map (mark ++ " " ++ ·)]
    exact startAfter_lines _ _
  | block header body =>
    rw [Step.events, startAfter_append]
    rfl
  | line piece => rfl
  | blank => rfl
  | indent => rfl
  | dedent => rfl
  | fail => rfl

theorem endsLine_of_isWhole {steps : List Step} (h : steps.all Step.isWhole = true) :
    EndsLine steps := by
  induction steps with
  | nil => exact .nil
  | cons step steps ih =>
    obtain ⟨hstep, hsteps⟩ := Bool.and_eq_true_iff.mp h
    exact (Step.endsLine hstep).append (ih hsteps)

/-! ## Places -/

/-- A part of a script. -/
inductive Occurs (part : List Step) : (script : List Step) → Prop
  | here {before : List Step} (h : EndsLine before) (after : List Step) :
    Occurs part (before ++ (part ++ after))
  | inside {before : List Step} (h : EndsLine before) (header : String) {body : List Step}
    (hbody : Occurs part body) (after : List Step) :
    Occurs part (before ++ (.block header body :: after))

namespace Occurs

variable {part script before : List Step}

theorem self (part : List Step) : Occurs part part := by
  have h : Occurs part (part ++ []) := .here .nil []
  rwa [List.append_nil] at h

theorem append_left (hends : EndsLine before) (h : Occurs part script) :
    Occurs part (before ++ script) := by
  cases h with
  | here hends' after =>
    rw [← List.append_assoc]
    exact .here (hends.append hends') after
  | inside hends' header hbody after =>
    rw [← List.append_assoc]
    exact .inside (hends.append hends') header hbody after

theorem cons {step : Step} (hwhole : step.isWhole = true) (h : Occurs part script) :
    Occurs part (step :: script) :=
  h.append_left (Step.endsLine hwhole)

theorem append_right (h : Occurs part script) (more : List Step) :
    Occurs part (script ++ more) := by
  cases h with
  | here hends after =>
    rw [List.append_assoc, List.append_assoc]
    exact .here hends (after ++ more)
  | inside hends header hbody after =>
    rw [List.append_assoc, List.cons_append]
    exact .inside hends header hbody (after ++ more)

/-- Where a part stands, its beginning stands. -/
theorem of_append {more : List Step} (h : Occurs (part ++ more) script) : Occurs part script := by
  induction h with
  | here hends after =>
    rw [List.append_assoc]
    exact .here hends (more ++ after)
  | inside hends header _ after ih => exact .inside hends header ih after

theorem nested (h : Occurs part script) : Occurs part (nested script) :=
  (h.append_left (endsLine_of_isWhole rfl)).append_right [.dedent]

theorem block (h : Occurs part script) (header : String) : Occurs part [.block header script] :=
  .inside .nil header h []

theorem flatMap {α : Type} (parts : α → List Step) {items : List α} {a : α} (ha : a ∈ items)
    (hends : ∀ b ∈ items, EndsLine (parts b)) : Occurs (parts a) (items.flatMap parts) := by
  obtain ⟨first, last, rfl⟩ := List.append_of_mem ha
  rw [List.flatMap_append, List.flatMap_cons]
  exact .here (.flatMap fun b hb => hends b (List.mem_append_left _ hb)) _

theorem map {α : Type} {items : List α} {a : α} (ha : a ∈ items) {step : α → Step}
    (hwhole : ∀ b ∈ items, (step b).isWhole = true) : Occurs [step a] (items.map step) := by
  obtain ⟨first, last, rfl⟩ := List.append_of_mem ha
  rw [List.map_append, List.map_cons]
  refine .here (endsLine_of_isWhole ?_) (last.map step)
  rw [List.all_map, List.all_eq_true]
  exact fun b hb => hwhole b (List.mem_append_left _ hb)

theorem events (h : Occurs part script) (blocks held : Nat) :
    ∃ before blocks' held' after,
      eventsOf blocks held script = before ++ (eventsOf blocks' held' part ++ after) ∧
        startAfter true before = true := by
  induction h generalizing blocks held with
  | here hends after =>
    exact ⟨_, _, _, _, by rw [eventsOf_append, eventsOf_append], hends blocks held⟩
  | @inside before hends header body _ after ih =>
    -- The header of the block is a line of its own.
    obtain ⟨first, blocks', held', last, hbody, hstart⟩ :=
      ih (blocks + 1) (heldAfter held before)
    refine ⟨eventsOf blocks held before ++
      (lineEvents (blocks + heldAfter held before) (header ++ " \x7b") ++ first), blocks', held',
      last ++ (lineEvents (blocks + heldAfter (heldAfter held before) body) "\x7d" ++
        eventsOf blocks ((Step.block header body).heldAfter (heldAfter held before)) after), ?_, ?_⟩
    · rw [eventsOf_append, eventsOf, Step.events, hbody]
      simp only [List.append_assoc]
    · rw [startAfter_append, hends, startAfter_append]
      exact hstart

end Occurs

/-- What whole lines write from the start of a line. -/
theorem written_of_draws {part : List Step} {lines : List Line} (h : Draws part lines)
    (indentation : String) (blocks held : Nat) :
    written indentation true (eventsOf blocks held part) =
      Line.textOf indentation (blocks + held) lines := by
  have hsettled : Progress.Settled blocks
      ⟨{ sink := {}, indentation, level := blocks + held }, held⟩ := ⟨rfl, rfl⟩
  obtain ⟨pieces, hrun, htext⟩ := h _ hsettled.unlimited rfl
  have hfine : neverFails part = true := neverFails_of_ok part (congrArg Result.ok hrun)
  have hprints := (prints_runBody hsettled part hfine).shows.text
  rw [hrun, Progress.add, Writer.text_add, htext] at hprints
  exact ((String.append_right_inj _).mp hprints).symm

/-- The lines stand in the text one after the other, at some depth. -/
def HasPassage (indentation text : String) (lines : List Line) : Prop :=
  ∃ before level after, text = before ++ (Line.textOf indentation level lines ++ after)

/-- **The lines of a part are a passage of the text.** -/
theorem Occurs.passage {part script : List Step} (h : Occurs part script) {lines : List Line}
    (hdraws : Draws part lines) {indentation text : String}
    (hrender : render? indentation none script = some text) :
    HasPassage indentation text lines := by
  have hfine : neverFails script = true := by
    rw [render?, Option.ite_none_right_eq_some] at hrender
    exact neverFails_of_ok script hrender.1
  rw [render?_eq_written indentation hfine, Option.some.injEq] at hrender
  obtain ⟨before, blocks, held, after, hevents, hstart⟩ := h.events 0 0
  rw [hevents, written_append, written_append, hstart, written_of_draws hdraws] at hrender
  exact ⟨_, _, _, hrender.symm⟩

/-! ## Lines of parts -/

theorem isBlankText_append_right {a b : String} (h : isBlankText b = false) :
    isBlankText (a ++ b) = false := by
  rw [isBlankText_append, h, Bool.and_false]

/-- A text begins with the lines in front of a block and the first line of the block. -/
theorem exists_rest_of_block {before : List Step} {lines : List Line} (hdraws : Draws before lines)
    {header : String} {body after : List Step} {indentation text : String}
    (hrender : render? indentation none (before ++ .block header body :: after) = some text) :
    ∃ rest, text = Line.textOf indentation 0 (lines ++ [⟨0, header ++ " \x7b"⟩]) ++ rest := by
  have hfine : neverFails (before ++ .block header body :: after) = true := by
    rw [render?, Option.ite_none_right_eq_some] at hrender
    exact neverFails_of_ok _ hrender.1
  obtain ⟨more, hmore⟩ : ∃ more, eventsOf 0 0 (before ++ .block header body :: after) =
      eventsOf 0 0 (before ++ [.line (header ++ " \x7b")]) ++ more := by
    rw [eventsOf_append, eventsOf_append]
    simp only [eventsOf, Step.events, List.append_assoc, List.append_cancel_left_eq]
    exact ⟨_, rfl⟩
  have hopening := hdraws.append (draws_line (isBlankText_append_right rfl :
    isBlankText (header ++ " \x7b") = false))
  rw [render?_eq_written indentation hfine, Option.some.injEq, hmore, written_append,
    written_of_draws hopening] at hrender
  exact ⟨_, hrender.symm⟩

theorem Draws.flatMap {α : Type} {part : α → List Step} {lines : α → List Line} {items : List α}
    (h : ∀ a ∈ items, Draws (part a) (lines a)) :
    Draws (items.flatMap part) (items.flatMap lines) := by
  induction items with
  | nil => exact draws_nil
  | cons a rest ih =>
    rw [List.flatMap_cons, List.flatMap_cons]
    exact (h a List.mem_cons_self).append (ih fun b hb => h b (List.mem_cons_of_mem a hb))

theorem draws_lines {α : Type} {piece : α → String} (items : List α)
    (h : ∀ a, isBlankText (piece a) = false) :
    Draws (items.map fun a => .line (piece a)) (items.map fun a => ⟨0, piece a⟩) := by
  rw [List.map_eq_flatMap, List.map_eq_flatMap]
  exact .flatMap fun a _ => draws_line (h a)

end Bindery.Layout
