import Bindery.Proofs.Lines

/-!
# Lines made of pieces

A script may write a line in many pieces, some of them blank, and take and release guards in
between. What the line looks like then can be said without a writer: its blank pieces stand as they
are up to the first piece that can be seen, and the indentation stands in front of that one.

**Events.** A script comes to a list of events (`eventsOf`): pieces, each with the number of guards
that are alive as it is written, and ends of lines. Guards are those that the script holds
(`heldAfter`) and those of the blocks around it.

**Lines.** The events fall into lines (`linesOf`), and a line of pieces is laid out by the rule
above (`lineText`).

**Writing.** A writer does not see lines. It only knows whether the current line is still blank
(`startAfter`), and what it writes is told from that event by event (`written`). One step of a
script writes its events (`Step.prints`), so a whole script does (`prints_runBody`), and what is
written event by event is laid out line by line (`written_eq_layout`).

Main result: `pieces_laid_out`.
-/

namespace Bindery.Layout

open Text

/-! ## Events -/

/-- A piece of a line, with the number of guards that are alive as it is written. -/
structure Fragment where
  guards : Nat
  text : String
  deriving DecidableEq, Repr

/-- What happens on the page. -/
inductive Event where
  | piece (fragment : Fragment)
  | lineEnd
  deriving DecidableEq, Repr

/-- A piece with a line end after it. -/
def lineEvents (guards : Nat) (text : String) : List Event :=
  [.piece ⟨guards, text⟩, .lineEnd]

/-- An item of a list. -/
def itemEvents (guards : Nat) (asLine : Bool) (item : String) : List Event :=
  if asLine then lineEvents guards item else [.piece ⟨guards, item⟩]

/-- A list of items with a separator between them. -/
def separatedEvents (guards : Nat) (separator : String) (asLines : Bool) :
    List String → List Event
  | [] => []
  | item :: items => itemEvents guards asLines item ++ items.flatMap fun next =>
      .piece ⟨guards, separator⟩ :: itemEvents guards asLines next

mutual

/-- How many guards a script that held `held` of them holds after a step, those of blocks apart. -/
def Step.heldAfter (held : Nat) : Step → Nat
  | .indent => held + 1
  | .dedent => held - 1
  | .block _ body => Layout.heldAfter held body
  | _ => held

/-- How many guards it holds after several steps. -/
def heldAfter (held : Nat) : List Step → Nat
  | [] => held
  | step :: steps => heldAfter (step.heldAfter held) steps

end

mutual

/-- What a step does inside of `blocks` blocks, while `held` guards are held. -/
def Step.events (blocks held : Nat) : Step → List Event
  | .write piece => [.piece ⟨blocks + held, piece⟩]
  | .line piece => lineEvents (blocks + held) piece
  | .blank => [.lineEnd]
  | .comment mark text =>
    (Text.lines text).flatMap fun line => lineEvents (blocks + held) (mark ++ " " ++ line)
  | .separated separator asLines items =>
    separatedEvents (blocks + held) separator asLines items
  | .block header body =>
    lineEvents (blocks + held) (header ++ " \x7b") ++ eventsOf (blocks + 1) held body ++
      lineEvents (blocks + Layout.heldAfter held body) "\x7d"
  | .indent | .dedent | .fail => []

/-- What several steps do. -/
def eventsOf (blocks held : Nat) : List Step → List Event
  | [] => []
  | step :: steps => step.events blocks held ++ eventsOf blocks (step.heldAfter held) steps

end

mutual

/-- Whether a step does not fail by itself. -/
def Step.neverFails : Step → Bool
  | .fail => false
  | .block _ body => Layout.neverFails body
  | _ => true

/-- Whether no step fails by itself. -/
def neverFails : List Step → Bool
  | [] => true
  | step :: steps => step.neverFails && neverFails steps

end

/-- Whether nothing in the text ends a line. -/
def isFeedless (text : String) : Bool :=
  !text.toList.contains '\n'

mutual

/-- Whether no text that a step is given ends a line. The text of a comment may. -/
def Step.isFeedless : Step → Bool
  | .write piece | .line piece => Layout.isFeedless piece
  | .comment mark _ => Layout.isFeedless mark
  | .separated separator _ items =>
    Layout.isFeedless separator && items.all Layout.isFeedless
  | .block header body => Layout.isFeedless header && areFeedless body
  | .blank | .indent | .dedent | .fail => true

/-- Whether no text that these steps are given ends a line. -/
def areFeedless : List Step → Bool
  | [] => true
  | step :: steps => step.isFeedless && areFeedless steps

end

/-! ## Lines -/

/-- The pieces of each line; the last line may still go on. -/
def linesOf : List Event → List (List Fragment)
  | [] => [[]]
  | .lineEnd :: events => [] :: linesOf events
  | .piece fragment :: events =>
    match linesOf events with
    | [] => [[fragment]]
    | line :: lines => (fragment :: line) :: lines

/-- The pieces one after the other. -/
def joined (line : List Fragment) : String :=
  String.join (line.map Fragment.text)

def Fragment.isBlank (fragment : Fragment) : Bool :=
  isBlankText fragment.text

/-- The text of a line: what is blank at its start, then, if anything can be seen, the indentation
for the first piece that can, and the pieces from there on. -/
def lineText (indentation : String) (line : List Fragment) : String :=
  match line.dropWhile Fragment.isBlank with
  | [] => joined line
  | first :: rest =>
    joined (line.takeWhile Fragment.isBlank) ++
      String.join (List.replicate first.guards indentation) ++ joined (first :: rest)

/-- The text of a script, line by line. -/
def layoutOf (indentation : String) (script : List Step) : String :=
  "\n".intercalate ((linesOf (eventsOf 0 0 script)).map (lineText indentation))

/-! ## Writing event by event -/

/-- Whether the line is still blank after these events. -/
def startAfter : (start : Bool) → List Event → Bool
  | start, [] => start
  | start, .piece fragment :: events => startAfter (start && fragment.isBlank) events
  | _, .lineEnd :: events => startAfter true events

/-- The text of a piece with what it brings with it. -/
def Fragment.shown (indentation : String) (start : Bool) (fragment : Fragment) : String :=
  if start && !fragment.isBlank then
    String.join (List.replicate fragment.guards indentation) ++ fragment.text
  else fragment.text

/-- What these events write. -/
def written (indentation : String) : (start : Bool) → List Event → String
  | _, [] => ""
  | start, .piece fragment :: events =>
    fragment.shown indentation start ++ written indentation (start && fragment.isBlank) events
  | _, .lineEnd :: events => "\n" ++ written indentation true events

theorem startAfter_append (start : Bool) (events more : List Event) :
    startAfter start (events ++ more) = startAfter (startAfter start events) more := by
  induction events generalizing start with
  | nil => rfl
  | cons event events ih =>
    cases event with
    | piece fragment => exact ih _
    | lineEnd => exact ih _

theorem written_append (indentation : String) (start : Bool) (events more : List Event) :
    written indentation start (events ++ more) =
      written indentation start events ++ written indentation (startAfter start events) more := by
  induction events generalizing start with
  | nil => simp [written, startAfter]
  | cons event events ih =>
    cases event with
    | piece fragment => simp only [List.cons_append, written, startAfter, ih, String.append_assoc]
    | lineEnd => simp only [List.cons_append, written, startAfter, ih, String.append_assoc]

/-! ## Lines and events -/

theorem linesOf_ne_nil (events : List Event) : linesOf events ≠ [] := by
  cases events with
  | nil => simp [linesOf]
  | cons event events =>
    cases event with
    | lineEnd => simp [linesOf]
    | piece fragment =>
      rw [linesOf]
      split <;> simp

section Lines

variable {indentation : String} {fragment : Fragment} {line : List Fragment}

theorem lineText_cons_of_blank (h : fragment.isBlank = true) :
    lineText indentation (fragment :: line) = fragment.text ++ lineText indentation line := by
  simp only [lineText, List.dropWhile_cons_of_pos h, List.takeWhile_cons_of_pos h]
  split <;> simp [joined, String.append_assoc]

theorem lineText_cons_of_not_blank (h : fragment.isBlank = false) :
    lineText indentation (fragment :: line) =
      fragment.shown indentation true ++ joined line := by
  have hblank : ¬fragment.isBlank = true := by simp [h]
  simp [lineText, List.dropWhile_cons_of_neg hblank, List.takeWhile_cons_of_neg hblank, joined,
    Fragment.shown, h, String.append_assoc]

end Lines

/-- **Lines from events.** The first line goes on as it began, blank or not; the others start
blank. -/
theorem written_eq_intercalate (indentation : String) (start : Bool) {events : List Event}
    {line : List Fragment} {lines : List (List Fragment)} (h : linesOf events = line :: lines) :
    written indentation start events = "\n".intercalate
      ((if start then lineText indentation line else joined line) ::
        lines.map (lineText indentation)) := by
  induction events generalizing start line lines with
  | nil =>
    obtain ⟨rfl, rfl⟩ : line = [] ∧ lines = [] := by simpa [linesOf, eq_comm] using h
    cases start <;> simp [written, lineText, joined]
  | cons event events ih =>
    obtain ⟨next, rest, hnext⟩ := List.exists_cons_of_ne_nil (linesOf_ne_nil events)
    cases event with
    | lineEnd =>
      obtain ⟨rfl, rfl⟩ : line = [] ∧ lines = next :: rest := by
        simpa [linesOf, hnext, eq_comm] using h
      rw [written, ih true hnext, if_pos rfl, List.map_cons, String.intercalate_cons_cons]
      cases start <;> simp [lineText, joined]
    | piece fragment =>
      obtain ⟨rfl, rfl⟩ : line = fragment :: next ∧ lines = rest := by
        simpa [linesOf, hnext, eq_comm] using h
      -- What follows the piece is the rest of its line and the other lines.
      have hmove : ∀ (a b : String) (others : List String),
          a ++ "\n".intercalate (b :: others) = "\n".intercalate ((a ++ b) :: others) := by
        intro a b others
        cases others <;> simp [String.intercalate_cons_cons, String.append_assoc]
      rw [written, ih _ hnext, hmove]
      congr 2
      by_cases hblank : fragment.isBlank = true
      · cases start with
        | true => simp [hblank, lineText_cons_of_blank, Fragment.shown]
        | false => simp [joined, Fragment.shown]
      · rw [Bool.not_eq_true] at hblank
        cases start with
        | true => simp [hblank, lineText_cons_of_not_blank]
        | false => simp [joined, Fragment.shown]

/-- What is written from the start of a line is laid out line by line. -/
theorem written_eq_layout (indentation : String) (events : List Event) :
    written indentation true events =
      "\n".intercalate ((linesOf events).map (lineText indentation)) := by
  obtain ⟨line, lines, h⟩ := List.exists_cons_of_ne_nil (linesOf_ne_nil events)
  rw [written_eq_intercalate indentation true h, h, if_pos rfl, List.map_cons]

/-! ## Writers -/

/-- On an unlimited sink, these events lead from one writer to the other, levels apart. -/
structure Writer.Shows (writer after : Writer) (events : List Event) : Prop where
  unlimited : after.sink.room = none
  indentation : after.indentation = writer.indentation
  atLineStart : after.atLineStart = startAfter writer.atLineStart events
  text : after.sink.text =
    writer.sink.text ++ written writer.indentation writer.atLineStart events

theorem Writer.shows_nothing {writer : Writer} (h : writer.sink.room = none) (level : Nat) :
    writer.Shows { writer with level } [] :=
  ⟨h, rfl, rfl, by simp [written]⟩

theorem Writer.Shows.trans {writer middle after : Writer} {events more : List Event}
    (h : writer.Shows middle events) (h' : middle.Shows after more) :
    writer.Shows after (events ++ more) where
  unlimited := h'.unlimited
  indentation := h'.indentation.trans h.indentation
  atLineStart := by rw [h'.atLineStart, h.atLineStart, startAfter_append]
  text := by
    rw [h'.text, h.text, h.indentation, h.atLineStart, written_append, String.append_assoc]

theorem Writer.Shows.of_indent {writer after : Writer} {events : List Event}
    (h : writer.indent.Shows after events) : writer.Shows after events :=
  ⟨h.unlimited, h.indentation, h.atLineStart, h.text⟩

theorem Writer.Shows.dedent {writer after : Writer} {events : List Event}
    (h : writer.Shows after events) : writer.Shows after.dedent events :=
  ⟨h.unlimited, h.indentation, h.atLineStart, h.text⟩

/-- A write went well, and these are its events. -/
structure Outcome.Prints (writer : Writer) (outcome : Outcome) (events : List Event) : Prop where
  ok : outcome.ok = true
  level : outcome.writer.level = writer.level
  shows : writer.Shows outcome.writer events

theorem Outcome.Prints.andThen {writer : Writer} {outcome : Outcome} {next : Writer → Outcome}
    {events more : List Event} (h : Prints writer outcome events)
    (hnext : Prints outcome.writer (next outcome.writer) more) :
    Prints writer (outcome.andThen next) (events ++ more) := by
  have hgo : outcome.andThen next = next outcome.writer := by rw [Outcome.andThen, if_pos h.ok]
  rw [hgo]
  exact ⟨hnext.ok, hnext.level.trans h.level, h.shows.trans hnext.shows⟩

namespace Writer

open Outcome

variable {writer : Writer} (h : writer.sink.room = none)
include h

theorem prints_nothing : Prints writer ⟨writer, true⟩ [] where
  ok := rfl
  level := rfl
  shows := shows_nothing h _

theorem prints_write (piece : String) :
    Prints writer (writer.write piece) [.piece ⟨writer.level, piece⟩] := by
  by_cases hblank : isBlankText piece = true
  · -- A blank piece leaves the line as it is, and an empty one is not even written.
    have hwrite : writer.Adds (writer.write piece) piece := by
      by_cases hempty : piece.isEmpty = true
      · rw [write, if_pos hempty, String.isEmpty_iff.mp hempty]
        exact writer.adds_nothing
      · exact ⟨[piece], by simp [write, hempty, startLine, hblank, Outcome.andThen, put_eq h],
          by simp⟩
    obtain ⟨pieces, hrun, rfl⟩ := hwrite
    rw [hrun]
    refine ⟨rfl, rfl, h, rfl, ?_, ?_⟩
    · simp [add, startAfter, Fragment.isBlank, hblank]
    · simp [text_add, written, Fragment.shown, Fragment.isBlank, hblank]
  · rw [Bool.not_eq_true] at hblank
    by_cases hstart : writer.atLineStart = true
    · rw [write_eq_of_atLineStart h hstart hblank]
      refine ⟨rfl, rfl, h, rfl, ?_, ?_⟩
      · simp [inLine, startAfter, Fragment.isBlank, hblank]
      · have htext := @text_add writer (List.replicate writer.level writer.indentation ++ [piece])
        simpa [inLine, written, Fragment.shown, Fragment.isBlank, hblank, hstart] using htext
    · rw [Bool.not_eq_true] at hstart
      obtain ⟨pieces, hrun, rfl⟩ := adds_write h hstart piece
      rw [hrun]
      refine ⟨rfl, rfl, h, rfl, ?_, ?_⟩
      · simp [add, startAfter, hstart]
      · simp [text_add, written, Fragment.shown, hstart]

theorem prints_newLine : Prints writer writer.newLine [.lineEnd] := by
  rw [newLine_eq h]
  refine ⟨rfl, rfl, h, rfl, rfl, ?_⟩
  simpa [written] using @text_add writer ["\n"]

theorem prints_writeLine (piece : String) :
    Prints writer (writer.writeLine piece) (lineEvents writer.level piece) := by
  have hpiece := prints_write h piece
  exact hpiece.andThen (prints_newLine hpiece.shows.unlimited)

theorem prints_writeComment (mark : String) (lines : List String) :
    Prints writer (writer.writeComment mark lines)
      (lines.flatMap fun line => lineEvents writer.level (mark ++ " " ++ line)) := by
  induction lines generalizing writer with
  | nil => exact prints_nothing h
  | cons line lines ih =>
    have hline := prints_writeLine h (mark ++ " " ++ line)
    have hlines := ih hline.shows.unlimited
    rw [hline.level] at hlines
    exact hline.andThen hlines

theorem prints_writeItem (asLine : Bool) (item : String) :
    Prints writer (writer.writeItem asLine item) (itemEvents writer.level asLine item) := by
  cases asLine with
  | true => exact prints_writeLine h item
  | false => exact prints_write h item

theorem prints_writeRest (separator : String) (asLines : Bool) (items : List String) :
    Prints writer (writer.writeRest separator asLines items) (items.flatMap fun next =>
      .piece ⟨writer.level, separator⟩ :: itemEvents writer.level asLines next) := by
  induction items generalizing writer with
  | nil => exact prints_nothing h
  | cons item items ih =>
    have hseparator := prints_write h separator
    have hitem := prints_writeItem hseparator.shows.unlimited asLines item
    rw [hseparator.level] at hitem
    have hboth : Prints writer
        ((writer.write separator).andThen fun w => w.writeItem asLines item) _ :=
      hseparator.andThen hitem
    have hrest := ih hboth.shows.unlimited
    rw [hboth.level] at hrest
    exact hboth.andThen hrest

theorem prints_writeSeparated (separator : String) (asLines : Bool) (items : List String) :
    Prints writer (writer.writeSeparated separator asLines items)
      (separatedEvents writer.level separator asLines items) := by
  cases items with
  | nil => exact prints_nothing h
  | cons item items =>
    have hitem := prints_writeItem h asLines item
    have hrest := prints_writeRest hitem.shows.unlimited separator asLines items
    rw [hitem.level] at hrest
    rw [writeSeparated]
    exact hitem.andThen hrest

end Writer

/-! ## Scripts -/

/-- The sink has no limit, and the level is the number of guards that are alive: those held and
those of `blocks` blocks. -/
structure Progress.Settled (blocks : Nat) (progress : Progress) : Prop where
  unlimited : progress.writer.sink.room = none
  level : progress.writer.level = blocks + progress.held

theorem Progress.Settled.indent {blocks : Nat} {progress : Progress}
    (h : progress.Settled blocks) :
    Settled (blocks + 1) { progress with writer := progress.writer.indent } := by
  refine ⟨h.unlimited, ?_⟩
  simp only [Writer.indent, h.level]
  omega

theorem Progress.Settled.dedent {blocks : Nat} {progress : Progress}
    (h : progress.Settled (blocks + 1)) :
    Settled blocks { progress with writer := progress.writer.dedent } := by
  refine ⟨h.unlimited, ?_⟩
  simp only [Writer.dedent, h.level]
  omega

/-- Steps went well, these are their events, and so many guards are held afterwards. -/
structure Result.Prints (blocks : Nat) (progress : Progress) (result : Result)
    (events : List Event) (held : Nat) : Prop where
  ok : result.ok = true
  holds : result.progress.held = held
  level : result.progress.writer.level = blocks + held
  shows : progress.writer.Shows result.progress.writer events

namespace Result.Prints

variable {blocks : Nat} {progress : Progress} {events : List Event} {held : Nat}

theorem settled {result : Result} (h : Prints blocks progress result events held) :
    result.progress.Settled blocks :=
  ⟨h.shows.unlimited, h.holds ▸ h.level⟩

theorem lift (hsettled : progress.Settled blocks) {write : Writer → Outcome}
    (h : Outcome.Prints progress.writer (write progress.writer) events) :
    Prints blocks progress (progress.lift write) events progress.held where
  ok := h.ok
  holds := rfl
  level := h.level.trans hsettled.level
  shows := h.shows

theorem line (hsettled : progress.Settled blocks) (piece : String) :
    Prints blocks progress (progress.lift (·.writeLine piece))
      (lineEvents (blocks + progress.held) piece) progress.held := by
  rw [← hsettled.level]
  exact lift hsettled (Writer.prints_writeLine hsettled.unlimited piece)

/-- A block has a guard of its own while its body runs. -/
theorem block (hsettled : progress.Settled blocks) (header : String) {body : List Step}
    (hbody : ∀ {inside : Progress}, inside.Settled (blocks + 1) → Prints (blocks + 1) inside
      (runBody inside body) (eventsOf (blocks + 1) inside.held body)
      (Layout.heldAfter inside.held body)) :
    Prints blocks progress ((Step.block header body).run progress)
      ((Step.block header body).events blocks progress.held)
      ((Step.block header body).heldAfter progress.held) := by
  have hopen := line hsettled (header ++ " \x7b")
  have hran := hbody hopen.settled.indent
  have hclose := line hran.settled.dedent "\x7d"
  have hshows := (hopen.shows.trans hran.shows.of_indent.dedent).trans hclose.shows
  rw [hran.holds] at hshows
  rw [Step.run]
  dsimp only
  rw [if_pos hopen.ok, if_pos hran.ok]
  refine ⟨hclose.ok, hclose.holds.trans hran.holds, ?_, hshows⟩
  rw [hclose.level, hran.holds]
  rfl

end Result.Prints

mutual

/-- **One step.** -/
theorem Step.prints {blocks : Nat} {progress : Progress} (hsettled : progress.Settled blocks) :
    (step : Step) → step.neverFails = true → Result.Prints blocks progress (step.run progress)
      (step.events blocks progress.held) (step.heldAfter progress.held)
  | .write piece, _ => by
    rw [run_write, Step.events, ← hsettled.level]
    exact .lift hsettled (Writer.prints_write hsettled.unlimited piece)
  | .line piece, _ => .line hsettled piece
  | .blank, _ => .lift hsettled (Writer.prints_newLine hsettled.unlimited)
  | .indent, _ => by
    have hlevel : progress.writer.level + 1 = blocks + (progress.held + 1) := by
      rw [hsettled.level, Nat.add_assoc]
    exact ⟨rfl, rfl, hlevel, Writer.shows_nothing hsettled.unlimited _⟩
  | .dedent, _ => by
    rw [run_dedent, Progress.dedent, Step.heldAfter]
    split
    · rename_i hheld
      have hlevel := hsettled.level
      rw [hheld] at hlevel ⊢
      exact ⟨rfl, hheld, hlevel, Writer.shows_nothing hsettled.unlimited _⟩
    · rename_i held hheld
      have hlevel : progress.writer.level - 1 = blocks + (progress.held - 1) := by
        have hbefore := hsettled.level
        omega
      rw [hheld] at hlevel ⊢
      exact ⟨rfl, rfl, hlevel, Writer.shows_nothing hsettled.unlimited _⟩
  | .comment mark text, _ => by
    rw [run_comment, Step.events, ← hsettled.level]
    exact .lift hsettled (Writer.prints_writeComment hsettled.unlimited mark _)
  | .separated separator asLines items, _ => by
    rw [run_separated, Step.events, ← hsettled.level]
    exact .lift hsettled (Writer.prints_writeSeparated hsettled.unlimited separator asLines items)
  | .block header body, h =>
    .block hsettled header fun hinside => prints_runBody hinside body h

/-- **Several steps.** -/
theorem prints_runBody {blocks : Nat} {progress : Progress} (hsettled : progress.Settled blocks) :
    (script : List Step) → neverFails script = true → Result.Prints blocks progress
      (runBody progress script) (eventsOf blocks progress.held script)
      (heldAfter progress.held script)
  | [], _ => ⟨rfl, rfl, hsettled.level, Writer.shows_nothing hsettled.unlimited _⟩
  | step :: steps, h => by
    obtain ⟨hstep, hsteps⟩ := Bool.and_eq_true_iff.mp h
    have hran := Step.prints hsettled step hstep
    have hrest := prints_runBody hran.settled steps hsteps
    rw [hran.holds] at hrest
    rw [runBody_cons, if_pos hran.ok]
    exact ⟨hrest.ok, hrest.holds, hrest.level, hran.shows.trans hrest.shows⟩

end

/-- A script that does not fail by itself is written as its events. -/
theorem render?_eq_written (indentation : String) {script : List Step}
    (h : neverFails script = true) :
    render? indentation none script = some (written indentation true (eventsOf 0 0 script)) := by
  have hstart : Progress.Settled 0 { writer := { sink := { room := none }, indentation } } :=
    ⟨rfl, rfl⟩
  have hprints := prints_runBody hstart script h
  rw [render?, if_pos hprints.ok, hprints.shows.text]
  simp [Sink.text]

mutual

theorem Step.neverFails_of_ok {progress : Progress} :
    (step : Step) → (step.run progress).ok = true → step.neverFails = true
  | .fail, h => h
  | .block header body, h => by
    rw [Step.run] at h
    dsimp only at h
    split at h
    · split at h
      · rename_i hran
        exact neverFails_of_ok body hran
      · cases h
    · contradiction
  | .write _, _ | .line _, _ | .blank, _ | .indent, _ | .dedent, _ | .comment _ _, _
  | .separated _ _ _, _ => rfl

theorem neverFails_of_ok {progress : Progress} :
    (script : List Step) → (runBody progress script).ok = true → neverFails script = true
  | [], _ => rfl
  | step :: steps, h => by
    rw [runBody_cons] at h
    split at h
    · rename_i hran
      exact Bool.and_eq_true_iff.mpr ⟨Step.neverFails_of_ok step hran, neverFails_of_ok steps h⟩
    · contradiction

end

/-- A text starts with the line that its script starts with. -/
theorem prefix_of_render? {indentation piece text : String} {script : List Step}
    (h : render? indentation none (.line piece :: script) = some text) :
    piece.toList <+: text.toList := by
  have hok : neverFails (.line piece :: script) = true := by
    rw [render?, Option.ite_none_right_eq_some] at h
    exact neverFails_of_ok _ h.1
  rw [render?_eq_written indentation hok, Option.some.injEq] at h
  rw [← h, eventsOf, Step.events, lineEvents, List.cons_append, written, String.toList_append]
  have hshown : Fragment.shown indentation true ⟨0, piece⟩ = piece := by
    simp [Fragment.shown]
  rw [Nat.add_zero, hshown]
  exact List.prefix_append _ _

/-! ## Lines of the text -/

theorem isFeedless_iff {text : String} : isFeedless text = true ↔ '\n' ∉ text.toList := by
  simp [isFeedless]

theorem isFeedless_append (a b : String) :
    isFeedless (a ++ b) = (isFeedless a && isFeedless b) := by
  rw [Bool.eq_iff_iff, Bool.and_eq_true, isFeedless_iff, isFeedless_iff, isFeedless_iff]
  simp

/-- No piece ends a line. -/
def PiecesFeedless (events : List Event) : Prop :=
  ∀ fragment, Event.piece fragment ∈ events → isFeedless fragment.text = true

namespace PiecesFeedless

variable {events more : List Event} {guards : Nat}

theorem append (h : PiecesFeedless events) (h' : PiecesFeedless more) :
    PiecesFeedless (events ++ more) :=
  fun fragment hmem => (List.mem_append.mp hmem).elim (h fragment) (h' fragment)

theorem flatMap {α : Type} {items : List α} {part : α → List Event}
    (h : ∀ a ∈ items, PiecesFeedless (part a)) : PiecesFeedless (items.flatMap part) := by
  intro fragment hmem
  obtain ⟨a, ha, hpart⟩ := List.mem_flatMap.mp hmem
  exact h a ha fragment hpart

theorem piece {text : String} (h : isFeedless text = true) :
    PiecesFeedless [.piece ⟨guards, text⟩] := by
  intro fragment hmem
  obtain rfl : fragment = ⟨guards, text⟩ := by simpa using hmem
  exact h

theorem line {text : String} (h : isFeedless text = true) :
    PiecesFeedless (lineEvents guards text) := by
  have hend : PiecesFeedless [.lineEnd] := by simp [PiecesFeedless]
  exact (piece h).append hend

theorem item {asLine : Bool} {text : String} (h : isFeedless text = true) :
    PiecesFeedless (itemEvents guards asLine text) := by
  cases asLine with
  | true => exact line h
  | false => exact piece h

theorem separated {separator : String} {asLines : Bool} (h : isFeedless separator = true)
    {items : List String} (hitems : ∀ item ∈ items, isFeedless item = true) :
    PiecesFeedless (separatedEvents guards separator asLines items) := by
  cases items with
  | nil => simp [PiecesFeedless, separatedEvents]
  | cons first rest =>
    obtain ⟨hfirst, hrest⟩ := List.forall_mem_cons.mp hitems
    exact (item hfirst).append
      (flatMap fun next hnext => (piece h).append (item (hrest next hnext)))

end PiecesFeedless

mutual

theorem Step.piecesFeedless {blocks held : Nat} :
    (step : Step) → step.isFeedless = true → PiecesFeedless (step.events blocks held)
  | .write piece, h => .piece h
  | .line piece, h => .line h
  | .comment mark text, h => by
    refine .flatMap fun line hline => .line ?_
    have hfeed : '\n' ∉ line.toList := by
      intro hmem
      rcases mem_of_mem_linesFrom hline hmem with hnone | ⟨-, hne⟩
      · cases hnone
      · exact hne rfl
    rw [isFeedless_append, isFeedless_append, isFeedless_iff.mpr hfeed]
    rw [Step.isFeedless] at h
    rw [h]
    rfl
  | .separated separator asLines items, h => by
    rw [Step.isFeedless, Bool.and_eq_true, List.all_eq_true] at h
    exact .separated h.1 h.2
  | .block header body, h => by
    rw [Step.isFeedless, Bool.and_eq_true] at h
    refine ((PiecesFeedless.line ?_).append (piecesFeedless_eventsOf body h.2)).append (.line rfl)
    rw [isFeedless_append, h.1]
    rfl
  | .blank, _ | .indent, _ | .dedent, _ | .fail, _ => by simp [PiecesFeedless, Step.events]

theorem piecesFeedless_eventsOf {blocks held : Nat} :
    (script : List Step) → areFeedless script = true →
      PiecesFeedless (eventsOf blocks held script)
  | [], _ => by simp [PiecesFeedless, eventsOf]
  | step :: steps, h => by
    obtain ⟨hstep, hsteps⟩ := Bool.and_eq_true_iff.mp h
    exact (step.piecesFeedless hstep).append (piecesFeedless_eventsOf steps hsteps)

end

theorem mem_of_mem_linesOf {events : List Event} {line : List Fragment}
    (hline : line ∈ linesOf events) {fragment : Fragment} (h : fragment ∈ line) :
    Event.piece fragment ∈ events := by
  induction events generalizing line with
  | nil => simp_all [linesOf]
  | cons event events ih =>
    obtain ⟨next, rest, hnext⟩ := List.exists_cons_of_ne_nil (linesOf_ne_nil events)
    cases event with
    | lineEnd =>
      rcases List.mem_cons.mp hline with rfl | hline
      · cases h
      · exact List.mem_cons_of_mem _ (ih hline h)
    | piece first =>
      simp only [linesOf, hnext] at hline
      rw [hnext] at ih
      rcases List.mem_cons.mp hline with rfl | hline
      · rcases List.mem_cons.mp h with rfl | h
        · exact List.mem_cons_self
        · exact List.mem_cons_of_mem _ (ih List.mem_cons_self h)
      · exact List.mem_cons_of_mem _ (ih (List.mem_cons_of_mem _ hline) h)

theorem feed_notMem_joined {line : List Fragment}
    (h : ∀ fragment ∈ line, isFeedless fragment.text = true) : '\n' ∉ (joined line).toList := by
  intro hmem
  simp only [joined, String.toList_join, List.mem_flatMap, List.mem_map] at hmem
  obtain ⟨_, ⟨fragment, hfragment, rfl⟩, hfeed⟩ := hmem
  exact isFeedless_iff.mp (h fragment hfragment) hfeed

theorem feed_notMem_lineText {indentation : String} (hindentation : '\n' ∉ indentation.toList)
    {line : List Fragment} (h : ∀ fragment ∈ line, isFeedless fragment.text = true) :
    '\n' ∉ (lineText indentation line).toList := by
  induction line with
  | nil => simp [lineText, joined]
  | cons fragment line ih =>
    obtain ⟨hfragment, hline⟩ := List.forall_mem_cons.mp h
    have htext := isFeedless_iff.mp hfragment
    by_cases hblank : fragment.isBlank = true
    · rw [lineText_cons_of_blank hblank, String.toList_append, List.mem_append, not_or]
      exact ⟨htext, ih hline⟩
    · rw [Bool.not_eq_true] at hblank
      have hshown : '\n' ∉ (fragment.shown indentation true).toList := by
        simp [Fragment.shown, hblank, htext, hindentation]
      rw [lineText_cons_of_not_blank hblank, String.toList_append, List.mem_append, not_or]
      exact ⟨hshown, feed_notMem_joined hline⟩

theorem splitOn_layoutOf {indentation : String} (hindentation : '\n' ∉ indentation.toList)
    {script : List Step} (h : areFeedless script = true) :
    (layoutOf indentation script).toList.splitOn '\n' =
      (linesOf (eventsOf 0 0 script)).map fun line => (lineText indentation line).toList := by
  have hfeed : "\n".toList = ['\n'] := rfl
  rw [layoutOf, String.toList_intercalate, hfeed, List.map_map]
  apply List.splitOn_intercalate
  · intro cs hcs
    obtain ⟨line, hline, rfl⟩ := List.mem_map.mp hcs
    refine feed_notMem_lineText hindentation fun fragment hfragment => ?_
    exact piecesFeedless_eventsOf script h fragment (mem_of_mem_linesOf hline hfragment)
  · rw [ne_eq, List.map_eq_nil_iff]
    exact linesOf_ne_nil _

/-- **Layout.** A script that does not fail by itself is written on an unlimited sink, and its text
is laid out line by line. If no text that is written ends a line, and the indentation does not,
these are the lines of the text. -/
theorem pieces_laid_out (indentation : String) {script : List Step}
    (hfails : neverFails script = true) (hfeeds : areFeedless script = true) :
    render? indentation none script = some (layoutOf indentation script) ∧
    ('\n' ∉ indentation.toList → (layoutOf indentation script).toList.splitOn '\n' =
      (linesOf (eventsOf 0 0 script)).map fun line => (lineText indentation line).toList) := by
  constructor
  · rw [render?_eq_written indentation hfails, written_eq_layout, layoutOf]
  · intro hindentation
    exact splitOn_layoutOf hindentation hfeeds

/-- Blank pieces, a guard that outlives its block, and items on lines of their own. -/
def patchwork : List Step :=
  [.write " ", .indent, .write "", .separated ", " true ["a", "b"],
   .block "mod x" [.dedent, .write "\t", .indent, .indent, .line "y", .comment "//" "one\n\ntwo"],
   .line "z", .write "  "]

theorem pieces_laid_out_patchwork :
    neverFails patchwork = true ∧ areFeedless patchwork = true ∧
    render? "  " none patchwork = some ("   a\n  , b\n  mod x \x7b\n\t      y\n" ++
      "      // one\n      // \n      // two\n    \x7d\n    z\n  ") := by
  have hfails : neverFails patchwork = true := by decide
  have hfeeds : areFeedless patchwork = true := by decide +kernel
  refine ⟨hfails, hfeeds, ?_⟩
  rw [(pieces_laid_out "  " hfails hfeeds).1]
  decide +kernel

end Bindery.Layout
