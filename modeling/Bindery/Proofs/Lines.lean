import Bindery.Layout.Script
import Mathlib.Data.List.Basic

/-!
# Scripts of whole lines

A script may leave a line half written and a guard held. The scripts of source texts do neither:
they start and end at the start of a line, with the indentation they found. Such a script comes to
a list of lines, each with its depth inside the script (`Draws`).

**Drawing.** On a sink without a limit nothing can fail, so what a script of whole lines adds to the
text is known from its lines (`Draws.append`, `draws_line`, `Draws.nested`, `Draws.block`, and
`draws_call` for a line that is put together from pieces).

**Reading.** To read something off a text line by line, it is enough to read it off the lines of
each part of the script (`Reads`), since a text falls apart into just these lines again
(`Reads.lines`).

Main results: `Reads.lines`, `Reads.flatMap_lines` and the rules for `Reads` before them.
-/

namespace Bindery.Layout

open Text

/-! ## Sinks without a limit -/

theorem isBlankText_append (a b : String) :
    isBlankText (a ++ b) = (isBlankText a && isBlankText b) := by
  simp [isBlankText]

theorem isEmpty_of_not_blank {piece : String} (h : isBlankText piece = false) :
    piece.isEmpty = false := by
  by_contra hempty
  rw [Bool.not_eq_false, String.isEmpty_iff] at hempty
  simp [hempty, isBlankText] at h

/-- The writer after pieces went to its sink. -/
def Writer.add (writer : Writer) (pieces : List String) : Writer :=
  { writer with sink.pieces := pieces.reverse ++ writer.sink.pieces }

namespace Writer

variable {writer : Writer}

@[simp] theorem add_add (pieces more : List String) :
    (writer.add pieces).add more = writer.add (pieces ++ more) := by
  simp [add]

theorem text_add (pieces : List String) :
    (writer.add pieces).sink.text = writer.sink.text ++ String.join pieces := by
  simp [add, Sink.text]

theorem put_eq (h : writer.sink.room = none) (piece : String) :
    writer.put piece = ⟨writer.add [piece], true⟩ := by
  simp [put, TextSink.push, Sink.push?, h, add]

theorem putIndentation_eq (h : writer.sink.room = none) (count : Nat) :
    writer.putIndentation count =
      ⟨writer.add (List.replicate count writer.indentation), true⟩ := by
  induction count generalizing writer with
  | zero => rfl
  | succ count ih =>
    have hroom : (writer.add [writer.indentation]).sink.room = none := h
    rw [putIndentation, put_eq h, Outcome.andThen, if_pos rfl, ih hroom, add_add]
    rfl

/-- The writer with a line begun. -/
def inLine (writer : Writer) : Writer :=
  { writer with atLineStart := false }

/-- The first visible piece of a line brings the indentation with it. -/
theorem write_eq_of_atLineStart (h : writer.sink.room = none) (hstart : writer.atLineStart = true)
    {piece : String} (hpiece : isBlankText piece = false) :
    writer.write piece =
      ⟨(writer.add (List.replicate writer.level writer.indentation ++ [piece])).inLine, true⟩ := by
  simp [write, isEmpty_of_not_blank hpiece, startLine, hstart, hpiece, putIndentation_eq h,
    Outcome.andThen, put, TextSink.push, Sink.push?, h, add, inLine]

theorem newLine_eq (h : writer.sink.room = none) :
    writer.newLine = ⟨{ writer.add ["\n"] with atLineStart := true }, true⟩ := by
  simp [newLine, put_eq h, Outcome.andThen]

theorem newLine_inLine (h : writer.sink.room = none) (hstart : writer.atLineStart = true) :
    writer.inLine.newLine = ⟨writer.add ["\n"], true⟩ := by
  rw [newLine_eq (by exact h)]
  obtain ⟨sink, indentation, level, start⟩ := writer
  obtain rfl : start = true := hstart
  rfl

/-- All went well, and the sink holds this much more text. -/
def Adds (writer : Writer) (outcome : Outcome) (text : String) : Prop :=
  ∃ pieces, outcome = ⟨writer.add pieces, true⟩ ∧ String.join pieces = text

theorem adds_nothing (writer : Writer) : writer.Adds ⟨writer, true⟩ "" :=
  ⟨[], rfl, rfl⟩

theorem Adds.andThen {outcome : Outcome} {next : Writer → Outcome} {text more : String}
    (h : writer.Adds outcome text)
    (hnext : ∀ pieces, (writer.add pieces).Adds (next (writer.add pieces)) more) :
    writer.Adds (outcome.andThen next) (text ++ more) := by
  obtain ⟨pieces, rfl, rfl⟩ := h
  obtain ⟨pieces', hrun, rfl⟩ := hnext pieces
  refine ⟨pieces ++ pieces', ?_, String.join_append⟩
  rw [Outcome.andThen, if_pos rfl, hrun, add_add]

/-- Later pieces of a line follow as they are. -/
theorem adds_write (h : writer.sink.room = none) (hstart : writer.atLineStart = false)
    (piece : String) : writer.Adds (writer.write piece) piece := by
  by_cases hempty : piece.isEmpty = true
  · rw [write, if_pos hempty, String.isEmpty_iff.mp hempty]
    exact writer.adds_nothing
  · exact ⟨[piece], by simp [write, hempty, startLine, hstart, Outcome.andThen, put_eq h], by simp⟩

theorem adds_writeRest (h : writer.sink.room = none) (hstart : writer.atLineStart = false)
    (separator : String) (items : List String) :
    writer.Adds (writer.writeRest separator false items)
      (String.join (items.map (separator ++ ·))) := by
  induction items generalizing writer with
  | nil => exact writer.adds_nothing
  | cons item items ih =>
    rw [writeRest, List.map_cons, String.join_cons]
    refine ((adds_write h hstart separator).andThen fun pieces => ?_).andThen fun pieces => ?_
    · exact adds_write (by exact h) (by exact hstart) item
    · exact ih h hstart

theorem adds_writeSeparated (h : writer.sink.room = none) (hstart : writer.atLineStart = false)
    (separator : String) (items : List String) :
    writer.Adds (writer.writeSeparated separator false items) (separator.intercalate items) := by
  cases items with
  | nil => exact writer.adds_nothing
  | cons item items =>
    have hjoin : separator.intercalate (item :: items) =
        item ++ String.join (items.map (separator ++ ·)) := by
      induction items generalizing item with
      | nil => simp
      | cons next items ih => simp [String.intercalate_cons_cons, ih next, String.append_assoc]
    rw [writeSeparated, hjoin]
    exact (adds_write h hstart item).andThen fun pieces =>
      adds_writeRest (by exact h) (by exact hstart) separator items

end Writer

/-! ## Lines -/

/-- A line of a script: how far in it stands, and what it says. -/
structure Line where
  depth : Nat
  content : String

namespace Line

/-- The line one step further in. -/
def deeper (line : Line) : Line :=
  { line with depth := line.depth + 1 }

/-- The line as it reads when the script starts at `level`: an empty line has no indentation. -/
def shown (indentation : String) (level : Nat) (line : Line) : String :=
  if line.content.isEmpty then ""
  else String.join (List.replicate (level + line.depth) indentation) ++ line.content

/-- The text of lines that follow one another. -/
def textOf (indentation : String) (level : Nat) (lines : List Line) : String :=
  String.join (lines.map fun line => line.shown indentation level ++ "\n")

theorem textOf_append (indentation : String) (level : Nat) (lines more : List Line) :
    textOf indentation level (lines ++ more) =
      textOf indentation level lines ++ textOf indentation level more := by
  simp [textOf]

theorem textOf_deeper (indentation : String) (level : Nat) (lines : List Line) :
    textOf indentation level (lines.map deeper) = textOf indentation (level + 1) lines := by
  have hshown : ∀ line : Line, line.deeper.shown indentation level =
      line.shown indentation (level + 1) := by
    intro line
    have hdepth : level + (line.depth + 1) = level + 1 + line.depth := by omega
    simp only [shown, deeper, hdepth]
  simp only [textOf, List.map_map, Function.comp_def, hshown]

end Line

/-- A visible piece with a line end after it makes a line. -/
theorem Writer.adds_writeLine {writer : Writer} (h : writer.sink.room = none)
    (hstart : writer.atLineStart = true) {piece : String} (hpiece : isBlankText piece = false) :
    writer.Adds (writer.writeLine piece)
      (Line.textOf writer.indentation writer.level [⟨0, piece⟩]) := by
  refine ⟨List.replicate writer.level writer.indentation ++ [piece, "\n"], ?_, ?_⟩
  · rw [writeLine, write_eq_of_atLineStart h hstart hpiece, Outcome.andThen, if_pos rfl,
      newLine_inLine (by exact h) (by exact hstart)]
    simp
  · have hne := String.isEmpty_eq_false_iff.mp (isEmpty_of_not_blank hpiece)
    simp [Line.textOf, Line.shown, hne, String.append_assoc]

theorem Writer.adds_writeComment {mark : String} (hmark : isBlankText mark = false)
    {writer : Writer} (h : writer.sink.room = none) (hstart : writer.atLineStart = true)
    (lines : List String) :
    writer.Adds (writer.writeComment mark lines) (Line.textOf writer.indentation writer.level
      (lines.map fun line => ⟨0, mark ++ " " ++ line⟩)) := by
  induction lines generalizing writer with
  | nil => exact writer.adds_nothing
  | cons line lines ih =>
    have hvisible : isBlankText (mark ++ " " ++ line) = false := by
      simp [isBlankText_append, hmark]
    rw [writeComment, List.map_cons, ← List.singleton_append, Line.textOf_append]
    exact (adds_writeLine h hstart hvisible).andThen fun pieces => ih h hstart

/-! ## Drawing -/

namespace Progress

/-- The progress after pieces went to the sink. -/
def add (progress : Progress) (pieces : List String) : Progress :=
  { progress with writer := progress.writer.add pieces }

/-- All went well, and the sink holds this much more text. -/
def Adds (progress : Progress) (result : Result) (text : String) : Prop :=
  ∃ pieces, result = ⟨progress.add pieces, true⟩ ∧ String.join pieces = text

theorem adds_lift {progress : Progress} {write : Writer → Outcome} {text : String}
    (h : progress.writer.Adds (write progress.writer) text) :
    progress.Adds (progress.lift write) text := by
  obtain ⟨pieces, hrun, htext⟩ := h
  exact ⟨pieces, by rw [lift, hrun]; rfl, htext⟩

end Progress

/-- The script writes these lines, from the start of one line to the start of another, and leaves
the indentation as it was. -/
def Draws (script : List Step) (lines : List Line) : Prop :=
  ∀ progress : Progress, progress.writer.sink.room = none → progress.writer.atLineStart = true →
    progress.Adds (runBody progress script)
      (Line.textOf progress.writer.indentation progress.writer.level lines)

section Steps

variable (progress : Progress)

theorem run_write (piece : String) :
    (Step.write piece).run progress = progress.lift (·.write piece) := rfl

theorem run_line (piece : String) :
    (Step.line piece).run progress = progress.lift (·.writeLine piece) := rfl

theorem run_blank : Step.blank.run progress = progress.lift (·.newLine) := rfl

theorem run_indent : Step.indent.run progress = ⟨progress.indent, true⟩ := rfl

theorem run_dedent : Step.dedent.run progress = ⟨progress.dedent, true⟩ := rfl

theorem run_comment (mark text : String) : (Step.comment mark text).run progress =
    progress.lift (·.writeComment mark (Text.lines text)) := rfl

theorem run_separated (separator : String) (asLines : Bool) (items : List String) :
    (Step.separated separator asLines items).run progress =
      progress.lift (·.writeSeparated separator asLines items) := rfl

theorem runBody_nil : runBody progress [] = ⟨progress, true⟩ := rfl

theorem runBody_cons (step : Step) (steps : List Step) :
    runBody progress (step :: steps) =
      if (step.run progress).ok then runBody (step.run progress).progress steps
      else step.run progress := rfl

end Steps

theorem runBody_append (progress : Progress) (script more : List Step) :
    runBody progress (script ++ more) =
      if (runBody progress script).ok then runBody (runBody progress script).progress more
      else runBody progress script := by
  induction script generalizing progress with
  | nil => rfl
  | cons step steps ih =>
    rw [List.cons_append, runBody_cons, runBody_cons]
    by_cases hok : (step.run progress).ok = true
    · rw [if_pos hok, if_pos hok]
      exact ih _
    · rw [if_neg hok, if_neg hok, if_neg hok]

theorem runBody_singleton (progress : Progress) (step : Step) :
    runBody progress [step] = step.run progress := by
  rw [runBody_cons, runBody_nil]
  split
  · rename_i hok
    rw [← hok]
  · rfl

section Draws

variable {script more : List Step} {lines lines' : List Line}

theorem draws_nil : Draws [] [] :=
  fun _ _ _ => ⟨[], rfl, rfl⟩

theorem Draws.append (h : Draws script lines) (h' : Draws more lines') :
    Draws (script ++ more) (lines ++ lines') := by
  intro progress hroom hstart
  obtain ⟨pieces, hrun, htext⟩ := h progress hroom hstart
  obtain ⟨pieces', hrun', htext'⟩ := h' (progress.add pieces) hroom hstart
  refine ⟨pieces ++ pieces', ?_, ?_⟩
  · rw [runBody_append, hrun, if_pos rfl, hrun']
    simp [Progress.add]
  · rw [String.join_append, htext, htext', Line.textOf_append]
    rfl

theorem draws_line {piece : String} (h : isBlankText piece = false) :
    Draws [.line piece] [⟨0, piece⟩] := by
  intro progress hroom hstart
  rw [runBody_singleton, run_line]
  exact Progress.adds_lift (Writer.adds_writeLine hroom hstart h)

theorem draws_blank : Draws [.blank] [⟨0, ""⟩] := by
  intro progress hroom hstart
  rw [runBody_singleton, run_blank]
  refine Progress.adds_lift ⟨["\n"], ?_, by simp [Line.textOf, Line.shown]⟩
  rw [Writer.newLine_eq hroom]
  obtain ⟨⟨sink, indentation, level, start⟩, held⟩ := progress
  obtain rfl : start = true := hstart
  rfl

theorem draws_comment {mark : String} (h : isBlankText mark = false) (text : String) :
    Draws [.comment mark text] ((Text.lines text).map fun line => ⟨0, mark ++ " " ++ line⟩) := by
  intro progress hroom hstart
  rw [runBody_singleton, run_comment]
  exact Progress.adds_lift (Writer.adds_writeComment h hroom hstart _)

theorem Draws.nested (h : Draws script lines) :
    Draws (nested script) (lines.map Line.deeper) := by
  intro progress hroom hstart
  obtain ⟨pieces, hrun, htext⟩ := h progress.indent hroom hstart
  refine ⟨pieces, ?_, ?_⟩
  · rw [Layout.nested, runBody_append, runBody_append, runBody_singleton, run_indent, if_pos rfl,
      hrun, if_pos rfl, runBody_singleton, run_dedent]
    rfl
  · rw [htext, Line.textOf_deeper]
    rfl

theorem Draws.block (h : Draws script lines) (header : String) :
    Draws [.block header script]
      ([⟨0, header ++ " \x7b"⟩] ++ lines.map Line.deeper ++ [⟨0, "\x7d"⟩]) := by
  intro progress hroom hstart
  have hheader : isBlankText (header ++ " \x7b") = false := by
    rw [isBlankText_append, show isBlankText " \x7b" = false from rfl, Bool.and_false]
  obtain ⟨opening, hopen, htext⟩ := Writer.adds_writeLine hroom hstart hheader
  -- The body runs on a writer one step further in, which the closing brace does not see.
  obtain ⟨inner, hinner, htext'⟩ :=
    h ⟨(progress.writer.add opening).indent, progress.held⟩ hroom hstart
  obtain ⟨closing, hclose, htext''⟩ :=
    @Writer.adds_writeLine ((progress.writer.add opening).add inner) hroom hstart "\x7d" rfl
  refine ⟨opening ++ inner ++ closing, ?_, ?_⟩
  · rw [runBody_singleton, Step.run]
    have hback : (⟨(progress.writer.add opening).indent, progress.held⟩ : Progress).add inner =
        ⟨((progress.writer.add opening).add inner).indent, progress.held⟩ := rfl
    have hdedent : ((progress.writer.add opening).add inner).indent.dedent =
        (progress.writer.add opening).add inner := rfl
    simp only [Progress.lift, hopen, if_true, hinner, hback, hdedent, hclose]
    simp [Progress.add]
  · rw [String.join_append, String.join_append, htext, htext', htext'', Line.textOf_append,
      Line.textOf_append, Line.textOf_deeper]
    rfl

/-- A line that is put together from a beginning, a list of arguments and an end. -/
theorem draws_call {before : String} (h : isBlankText before = false) (separator : String)
    (items : List String) (after : String) :
    Draws [.write before, .separated separator false items, .line after]
      [⟨0, before ++ separator.intercalate items ++ after⟩] := by
  intro progress hroom hstart
  -- After its first piece the line goes on without indentation.
  obtain ⟨first, hfirst⟩ : ∃ first,
      first = List.replicate progress.writer.level progress.writer.indentation ++ [before] :=
    ⟨_, rfl⟩
  have hwrite := Writer.write_eq_of_atLineStart hroom hstart h
  rw [← hfirst] at hwrite
  obtain ⟨arguments, harguments, htext⟩ :=
    @Writer.adds_writeSeparated (progress.writer.add first).inLine hroom rfl separator items
  obtain ⟨last, hlast, htext'⟩ := @Writer.adds_write
    ((progress.writer.add first).inLine.add arguments) hroom rfl after
  have hend := @Writer.newLine_inLine
    (((progress.writer.add first).add arguments).add last) hroom hstart
  have hline : (((progress.writer.add first).inLine.add arguments).add last) =
    (((progress.writer.add first).add arguments).add last).inLine := rfl
  refine ⟨first ++ arguments ++ last ++ ["\n"], ?_, ?_⟩
  · simp only [runBody_cons, runBody_nil, run_write, run_separated, run_line, Progress.lift, hwrite,
      harguments, if_true, Writer.writeLine, hlast, Outcome.andThen, hline, hend]
    simp [Progress.add]
  · have hne := String.isEmpty_eq_false_iff.mp (isEmpty_of_not_blank h)
    simp [hfirst, htext, htext', Line.textOf, Line.shown, hne, String.append_assoc]

end Draws

/-! ## Reading -/

/-- Nothing in the line ends it. -/
def isClean (content : String) : Bool :=
  content.toList.all fun c => c != '\n' && c != '\r'

@[simp] theorem isClean_append (a b : String) : isClean (a ++ b) = (isClean a && isClean b) := by
  simp [isClean]

theorem isClean_join {items : List String} (h : ∀ item ∈ items, isClean item = true) :
    isClean (String.join items) = true := by
  simp only [isClean, String.toList_join, List.all_flatMap, List.all_eq_true] at h ⊢
  exact h

theorem isClean_intercalate {separator : String} (hseparator : isClean separator = true)
    {items : List String} (h : ∀ item ∈ items, isClean item = true) :
    isClean (separator.intercalate items) = true := by
  induction items with
  | nil => rfl
  | cons item items ih =>
    obtain ⟨hitem, hitems⟩ := List.forall_mem_cons.mp h
    cases items with
    | nil => simpa using hitem
    | cons next rest =>
      rw [String.intercalate_cons_cons, isClean_append, isClean_append, hitem, hseparator,
        ih hitems]
      rfl

/-- The script writes whole lines, and this is what is read off them, line after line. -/
def Reads {β : Type} (read : Line → List β) (script : List Step) (readings : List β) : Prop :=
  ∃ lines, Draws script lines ∧ (∀ line ∈ lines, isClean line.content = true) ∧
    lines.flatMap read = readings

namespace Reads

variable {β : Type} {read : Line → List β} {script more : List Step} {readings readings' : List β}

theorem nil : Reads read [] [] :=
  ⟨[], draws_nil, by simp, rfl⟩

theorem of_eq (h : Reads read script readings) (heq : readings = readings') :
    Reads read script readings' :=
  heq ▸ h

theorem append (h : Reads read script readings) (h' : Reads read more readings') :
    Reads read (script ++ more) (readings ++ readings') := by
  obtain ⟨lines, hdraws, hclean, rfl⟩ := h
  obtain ⟨lines', hdraws', hclean', rfl⟩ := h'
  exact ⟨lines ++ lines', hdraws.append hdraws',
    fun line hline => (List.mem_append.mp hline).elim (hclean line) (hclean' line),
    List.flatMap_append⟩

theorem flatMap {α : Type} {part : α → List Step} {reading : α → List β} {items : List α}
    (h : ∀ a ∈ items, Reads read (part a) (reading a)) :
    Reads read (items.flatMap part) (items.flatMap reading) := by
  induction items with
  | nil => exact nil
  | cons a rest ih =>
    rw [List.flatMap_cons, List.flatMap_cons]
    exact (h a List.mem_cons_self).append (ih fun b hb => h b (List.mem_cons_of_mem a hb))

theorem map {α : Type} {part : α → Step} {reading : α → List β} {items : List α}
    (h : ∀ a ∈ items, Reads read [part a] (reading a)) :
    Reads read (items.map part) (items.flatMap reading) := by
  rw [List.map_eq_flatMap]
  exact flatMap h

theorem line {piece : String} (hpiece : isBlankText piece = false) (hclean : isClean piece = true) :
    Reads read [.line piece] (read ⟨0, piece⟩) :=
  ⟨_, draws_line hpiece, by simpa using hclean, by simp⟩

theorem blank : Reads read [.blank] (read ⟨0, ""⟩) :=
  ⟨_, draws_blank, by simp [isClean], by simp⟩

theorem comment {mark text : String} (hmark : isBlankText mark = false)
    (hclean : ∀ line ∈ Text.lines text, isClean (mark ++ " " ++ line) = true) :
    Reads read [.comment mark text]
      ((Text.lines text).flatMap fun line => read ⟨0, mark ++ " " ++ line⟩) :=
  ⟨_, draws_comment hmark text, by simpa only [List.forall_mem_map] using hclean,
    by rw [List.flatMap_map]⟩

theorem nested (h : Reads (fun line => read line.deeper) script readings) :
    Reads read (nested script) readings := by
  obtain ⟨lines, hdraws, hclean, rfl⟩ := h
  refine ⟨lines.map Line.deeper, hdraws.nested, ?_, ?_⟩
  · intro line hline
    obtain ⟨source, hsource, rfl⟩ := List.mem_map.mp hline
    exact hclean source hsource
  · rw [List.flatMap_map]

theorem block {header : String} (hheader : isClean header = true)
    (h : Reads (fun line => read line.deeper) script readings) :
    Reads read [.block header script]
      (read ⟨0, header ++ " \x7b"⟩ ++ readings ++ read ⟨0, "\x7d"⟩) := by
  obtain ⟨lines, hdraws, hclean, rfl⟩ := h
  refine ⟨_, hdraws.block header, ?_, ?_⟩
  · intro line hline
    rw [List.append_assoc, List.mem_append, List.mem_append, List.mem_singleton,
      List.mem_singleton] at hline
    rcases hline with rfl | hline | rfl
    · rw [isClean_append, hheader]
      rfl
    · obtain ⟨source, hsource, rfl⟩ := List.mem_map.mp hline
      exact hclean source hsource
    · rfl
  · simp [List.flatMap_append, List.flatMap_map]

theorem call {before after separator : String} {items : List String}
    (hbefore : isBlankText before = false)
    (hclean : isClean (before ++ separator.intercalate items ++ after) = true) :
    Reads read [.write before, .separated separator false items, .line after]
      (read ⟨0, before ++ separator.intercalate items ++ after⟩) :=
  ⟨_, draws_call hbefore separator items after, by simpa using hclean, by simp⟩

end Reads

/-! ## Texts -/

/-- A line without the carriage return that belongs to its ending. -/
def bare (line : List Char) : List Char :=
  if line.getLast? = some '\r' then line.dropLast else line

theorem bare_of_notMem {line : List Char} (h : '\r' ∉ line) : bare line = line :=
  if_neg fun hlast => h (List.mem_of_getLast? hlast)

theorem linesFrom_append {cs : List Char} (h : '\n' ∉ cs) (line rest : List Char) :
    linesFrom line (cs ++ '\n' :: rest) =
      String.ofList (bare (line.reverse ++ cs)) :: linesFrom [] rest := by
  induction cs generalizing line with
  | nil =>
    rw [List.nil_append, List.append_nil, bare, List.getLast?_reverse]
    cases line with
    | nil => rfl
    | cons c before =>
      by_cases hc : c = '\r'
      · simp [linesFrom, hc]
      · simp [linesFrom, hc]
  | cons c cs ih =>
    rw [List.mem_cons, not_or] at h
    rw [List.cons_append, linesFrom, ih h.2]
    · simp
    · exact Ne.symm h.1

theorem mem_of_mem_linesFrom {line cs : List Char} {found : String}
    (h : found ∈ linesFrom line cs) {c : Char} (hc : c ∈ found.toList) :
    c ∈ line ∨ c ∈ cs ∧ c ≠ '\n' := by
  fun_induction linesFrom line cs with
  | case1 line hempty => cases h
  | case2 line hne =>
    rw [List.mem_singleton.mp h] at hc
    exact .inl (by simpa using hc)
  | case3 line rest kept ih =>
    rcases List.mem_cons.mp h with rfl | h
    · refine .inl ?_
      have hkept : c ∈ kept := by simpa using hc
      revert hkept
      unfold kept
      split
      · exact List.mem_cons_of_mem _
      · exact id
    · rcases ih h with hline | ⟨hrest, hne⟩
      · cases hline
      · exact .inr ⟨List.mem_cons_of_mem _ hrest, hne⟩
  | case4 line c' rest hne ih =>
    rcases ih h with hline | ⟨hrest, hfeed⟩
    · rcases List.mem_cons.mp hline with rfl | hline
      · exact .inr ⟨List.mem_cons_self, hne⟩
      · exact .inl hline
    · exact .inr ⟨List.mem_cons_of_mem _ hrest, hfeed⟩

/-- The lines of a text without carriage returns are clean. -/
theorem isClean_of_mem_lines {text : String} (h : '\r' ∉ text.toList) {line : String}
    (hline : line ∈ Text.lines text) : isClean line = true := by
  rw [isClean, List.all_eq_true]
  intro c hc
  rcases mem_of_mem_linesFrom hline hc with hnone | ⟨hmem, hfeed⟩
  · cases hnone
  · have hreturn : c ≠ '\r' := fun heq => h (heq ▸ hmem)
    simp [hfeed, hreturn]

theorem lines_append {content : String} (h : isClean content = true) (rest : String) :
    Text.lines (content ++ "\n" ++ rest) = content :: Text.lines rest := by
  have hcs : ∀ c ∈ content.toList, c ≠ '\n' ∧ c ≠ '\r' := by simpa [isClean] using h
  have hlines := linesFrom_append (fun hfeed => (hcs '\n' hfeed).1 rfl) [] rest.toList
  rw [List.reverse_nil, List.nil_append, bare_of_notMem fun hreturn => (hcs '\r' hreturn).2 rfl]
    at hlines
  simpa [Text.lines] using hlines

theorem isClean_shown {indentation : String} (hindentation : isClean indentation = true)
    {line : Line} (h : isClean line.content = true) (level : Nat) :
    isClean (line.shown indentation level) = true := by
  have hjoin : ∀ count, isClean (String.join (List.replicate count indentation)) = true := by
    intro count
    induction count with
    | zero => rfl
    | succ count ih =>
      rw [List.replicate_succ, String.join_cons, isClean_append, hindentation, ih]
      rfl
  unfold Line.shown
  split
  · rfl
  · rw [isClean_append, hjoin, h]
    rfl

/-- A text of clean lines falls apart into them. -/
theorem lines_textOf {indentation : String} (hindentation : isClean indentation = true)
    (level : Nat) {lines : List Line} (h : ∀ line ∈ lines, isClean line.content = true) :
    Text.lines (Line.textOf indentation level lines) =
      lines.map (Line.shown indentation level) := by
  induction lines with
  | nil => rfl
  | cons line lines ih =>
    obtain ⟨hline, hlines⟩ := List.forall_mem_cons.mp h
    rw [← List.singleton_append, Line.textOf_append, List.map_append, ← ih hlines]
    have hone : Line.textOf indentation level [line] = line.shown indentation level ++ "\n" := by
      simp [Line.textOf]
    rw [hone, lines_append (isClean_shown hindentation hline level)]
    rfl

/-- **Reading a text.** A script of whole lines always gives a text; its lines are those of the
script with indentation, and the readings are read off them. -/
theorem Reads.lines {β : Type} {read : Line → List β} {script : List Step} {readings : List β}
    (h : Reads read script readings) {indentation : String}
    (hindentation : isClean indentation = true) :
    ∃ (text : String) (lines : List Line), render? indentation none script = some text ∧
      Text.lines text = lines.map (Line.shown indentation 0) ∧ lines.flatMap read = readings := by
  obtain ⟨lines, hdraws, hclean, hread⟩ := h
  obtain ⟨pieces, hrun, htext⟩ :=
    hdraws { writer := { sink := { room := none }, indentation } } rfl rfl
  refine ⟨Line.textOf indentation 0 lines, lines, ?_, lines_textOf hindentation 0 hclean, hread⟩
  simp only [render?, hrun, if_true]
  rw [Progress.add, Writer.text_add, htext]
  simp [Sink.text]

/-- What does not depend on indentation can be read off the text itself. -/
theorem Reads.flatMap_lines {β : Type} {read : List Char → List β}
    (hread : ∀ cs, read (cs.dropWhile isBlank) = read cs) {script : List Step} {readings : List β}
    (h : Reads (fun line => read line.content.toList) script readings) {indentation : String}
    (hclean : isClean indentation = true) (hblank : isBlankText indentation = true) :
    ∃ text, render? indentation none script = some text ∧
      ((Text.lines text).flatMap fun line => read line.toList) = readings := by
  obtain ⟨text, lines, hrender, hlines, hreadings⟩ := h.lines hclean
  refine ⟨text, hrender, ?_⟩
  have hshown : ∀ line : Line,
      read (line.shown indentation 0).toList = read line.content.toList := by
    intro line
    unfold Line.shown
    split
    · rename_i hempty
      rw [String.isEmpty_iff.mp hempty]
    · have hspace : ∀ c ∈ (String.join (List.replicate (0 + line.depth) indentation)).toList,
          isBlank c = true := by
        intro c hc
        simp only [String.toList_join, List.mem_flatMap, List.mem_replicate] at hc
        obtain ⟨_, ⟨_, rfl⟩, hc⟩ := hc
        exact List.all_eq_true.mp hblank c hc
      rw [← hread, String.toList_append, List.dropWhile_append_of_pos hspace, hread]
  rw [hlines, List.flatMap_map, ← hreadings]
  exact List.flatMap_congr fun line _ => hshown line

end Bindery.Layout
