import Bindery.Proofs.Pieces
import Bindery.Proofs.Pushes

/-!
# Sinks that run full

A sink with a limit refuses a whole piece, and this may happen anywhere: between two steps of
indentation, between a text and the end of its line, in the body of a block inside of a block. The
run is then told from the same run on a sink without a limit. Either both come to the same writer,
or the limited run ended in front of a piece that did not fit, while the other one went on with that
piece (`Result.Keeps`).

**Writes.** On a list of acts the two runs go side by side up to the first refusal
(`Writer.keeps_follow`), and every write is such a list.

**Steps.** What holds of each of two parts holds of one after the other (`Faithful.andThen`), and of
a part one step further in (`Faithful.around`). So it holds of one step (`Step.faithful`) and of
every script (`faithful_runBody`).

Main result: `limited_run_delivers`.
-/

namespace Bindery.Layout

/-! ## The same run without a limit -/

/-- The same sink without a limit. -/
def Sink.unlimited (sink : Sink) : Sink :=
  { sink with room := none }

def Writer.unlimited (writer : Writer) : Writer :=
  { writer with sink := writer.sink.unlimited }

def Outcome.unlimited (outcome : Outcome) : Outcome :=
  { outcome with writer := outcome.writer.unlimited }

def Progress.unlimited (progress : Progress) : Progress :=
  { progress with writer := progress.writer.unlimited }

def Result.unlimited (result : Result) : Result :=
  { result with progress := result.progress.unlimited }

/-- The text that the sink holds. -/
def Progress.text (progress : Progress) : String :=
  progress.writer.sink.text

/-- A run ended with this sink in front of a piece that did not fit; without a limit it went on with
that piece, and perhaps with others. -/
def Sink.CutFrom (full sink : Sink) : Prop :=
  ∃ room refused later, sink.room = some room ∧ room < refused.utf8ByteSize ∧
    full.pieces = later ++ refused :: sink.pieces

theorem Sink.CutFrom.mono {full more sink : Sink} (h : full.CutFrom sink)
    (hmore : full.pieces <:+ more.pieces) : more.CutFrom sink := by
  obtain ⟨room, refused, later, hroom, hlt, hpieces⟩ := h
  obtain ⟨last, hlast⟩ := hmore
  exact ⟨room, refused, last ++ later, hroom, hlt, by rw [← hlast, hpieces, List.append_assoc]⟩

/-- Pieces only ever go on top. -/
theorem Sink.text_of_suffix {sink after : Sink} (h : sink.pieces <:+ after.pieces) :
    ∃ added, after.text = sink.text ++ added := by
  obtain ⟨pieces, hpieces⟩ := h
  exact ⟨String.join pieces.reverse, by simp [text, ← hpieces]⟩

theorem Sink.CutFrom.text {full sink : Sink} (h : full.CutFrom sink) :
    ∃ room refused rest, sink.room = some room ∧ room < refused.utf8ByteSize ∧
      full.text = sink.text ++ (refused ++ rest) := by
  obtain ⟨room, refused, later, hroom, hlt, hpieces⟩ := h
  refine ⟨room, refused, String.join later.reverse, hroom, hlt, ?_⟩
  simp [Sink.text, hpieces]

/-! ## Writes -/

namespace Writer

/-- A piece is taken alike with and without a limit, or it did not fit. -/
theorem put_cases (writer : Writer) (piece : String) :
    ((writer.put piece).ok = true ∧ writer.unlimited.put piece = (writer.put piece).unlimited ∧
        (writer.put piece).writer.sink.pieces = piece :: writer.sink.pieces) ∨
      (writer.put piece = ⟨writer, false⟩ ∧
        (writer.unlimited.put piece).writer.sink.CutFrom writer.sink) := by
  have hfull : (writer.unlimited.put piece).writer.sink.pieces = piece :: writer.sink.pieces := rfl
  cases hroom : writer.sink.room with
  | none => exact .inl (by simp [put, TextSink.push, Sink.push?, unlimited, Sink.unlimited,
      Outcome.unlimited, hroom])
  | some room =>
    by_cases hfits : piece.utf8ByteSize ≤ room
    · exact .inl (by simp [put, TextSink.push, Sink.push?, unlimited, Sink.unlimited,
        Outcome.unlimited, hroom, hfits])
    · refine .inr ⟨by simp [put, TextSink.push, Sink.push?, hroom, hfits], ?_⟩
      exact ⟨room, piece, [], hroom, Nat.lt_of_not_le hfits, hfull⟩

theorem suffix_follow (writer : Writer) (acts : List Act) :
    writer.sink.pieces <:+ (writer.follow acts).writer.sink.pieces := by
  induction acts generalizing writer with
  | nil => exact List.suffix_rfl
  | cons act acts ih =>
    cases act with
    | mark blank => exact ih { writer with atLineStart := blank }
    | put piece =>
      rw [follow]
      rcases writer.put_cases piece with ⟨hok, -, hpieces⟩ | ⟨hput, -⟩
      · rw [Outcome.andThen_of_ok hok]
        exact (hpieces ▸ List.suffix_cons _ _).trans (ih _)
      · simp only [hput, Outcome.andThen_of_failed, List.suffix_rfl]

/-- The two runs go side by side up to the first piece that does not fit. -/
theorem keeps_follow (writer : Writer) (acts : List Act) :
    ((writer.follow acts).ok = true ∧
        writer.unlimited.follow acts = (writer.follow acts).unlimited) ∨
      ((writer.follow acts).ok = false ∧
        (writer.unlimited.follow acts).writer.sink.CutFrom (writer.follow acts).writer.sink) := by
  induction acts generalizing writer with
  | nil => exact .inl ⟨rfl, rfl⟩
  | cons act acts ih =>
    cases act with
    | mark blank => exact ih _
    | put piece =>
      rw [follow, follow]
      rcases writer.put_cases piece with ⟨hok, hfull, -⟩ | ⟨hput, hcut⟩
      · have hfullok : (writer.unlimited.put piece).ok = true := hfull ▸ hok
        rw [Outcome.andThen_of_ok hok, Outcome.andThen_of_ok hfullok, hfull]
        exact ih _
      · have hfullok : (writer.unlimited.put piece).ok = true := rfl
        rw [hput, Outcome.andThen_of_failed rfl, Outcome.andThen_of_ok hfullok]
        exact .inr ⟨rfl, hcut.mono (suffix_follow _ acts)⟩

end Writer

/-! ## Steps -/

/-- How a run on a limited sink ended, next to the same run without a limit; `fine` says whether
none of its steps fails by itself. -/
inductive Result.Keeps (fine : Bool) (limited full : Result) : Prop
  | whole (hok : limited.ok = fine) (hfull : full = limited.unlimited)
  | cut (hok : limited.ok = false)
      (hcut : full.progress.writer.sink.CutFrom limited.progress.writer.sink)

/-- A way of running that only adds to the sink, and keeps to what it does without a limit. -/
structure Faithful (fine : Bool) (run : Progress → Result) : Prop where
  grows : ∀ progress, progress.writer.sink.pieces <:+ (run progress).progress.writer.sink.pieces
  keeps : ∀ progress, Result.Keeps fine (run progress) (run progress.unlimited)

namespace Faithful

variable {fine fine' : Bool} {run next : Progress → Result}

theorem nothing : Faithful true fun progress => ⟨progress, true⟩ where
  grows _ := List.suffix_rfl
  keeps _ := .whole rfl rfl

theorem lift {write : Writer → Outcome} (h : Plain write) :
    Faithful true fun progress => progress.lift write := by
  refine ⟨fun progress => ?_, fun progress => ?_⟩
  · obtain ⟨acts, hacts⟩ := h progress.writer
    simp only [Progress.lift]
    rw [hacts progress.writer.sink]
    exact progress.writer.suffix_follow acts
  · obtain ⟨acts, hacts⟩ := h progress.writer
    have hlimited : write progress.writer = progress.writer.follow acts := hacts _
    have hfull : write progress.writer.unlimited = progress.writer.unlimited.follow acts := hacts _
    rcases progress.writer.keeps_follow acts with ⟨hok, hsame⟩ | ⟨hok, hcut⟩
    · rw [← hlimited] at hok hsame
      refine .whole hok ?_
      simp only [Progress.lift, Progress.unlimited, Result.unlimited]
      rw [hfull, hsame]
      rfl
    · rw [← hlimited] at hok hcut
      rw [← hfull] at hcut
      exact .cut hok hcut

/-- Parts one after the other. Once the limited run was cut off, the other one only adds. -/
theorem andThen (h : Faithful fine run) (hnext : Faithful fine' next) :
    Faithful (fine && fine') fun progress => (run progress).andThen next := by
  have hgrows : ∀ progress, (run progress).progress.writer.sink.pieces <:+
      ((run progress).andThen next).progress.writer.sink.pieces := by
    intro progress
    cases hok : (run progress).ok with
    | true =>
      rw [Result.andThen_of_ok hok]
      exact hnext.grows _
    | false => simp only [Result.andThen_of_failed hok, List.suffix_rfl]
  refine ⟨fun progress => (h.grows progress).trans (hgrows progress), fun progress => ?_⟩
  rcases h.keeps progress with ⟨hok, hfull⟩ | ⟨hok, hcut⟩
  · have hfullok : (run progress).unlimited.ok = fine := hok
    rw [hfull]
    cases fine with
    | true =>
      rw [Result.andThen_of_ok hok, Result.andThen_of_ok hfullok]
      exact hnext.keeps _
    | false =>
      rw [Result.andThen_of_failed hok, Result.andThen_of_failed hfullok]
      exact .whole hok rfl
  · rw [Result.andThen_of_failed hok]
    exact .cut hok (hcut.mono (hgrows _))

/-- A part one step further in; the step is taken back also after an error. -/
theorem around (h : Faithful fine run) :
    Faithful fine fun progress =>
      let ran := run { progress with writer := progress.writer.indent }
      ⟨{ ran.progress with writer := ran.progress.writer.dedent }, ran.ok⟩ := by
  refine ⟨fun progress => h.grows { progress with writer := progress.writer.indent },
    fun progress => ?_⟩
  rcases h.keeps { progress with writer := progress.writer.indent } with ⟨hok, hfull⟩ | ⟨hok, hcut⟩
  · refine .whole hok ?_
    have hinside : run { progress.unlimited with writer := progress.unlimited.writer.indent } =
      (run { progress with writer := progress.writer.indent }).unlimited := hfull
    rw [hinside]
    rfl
  · exact .cut hok hcut

end Faithful

mutual

/-- **One step.** -/
theorem Step.faithful : (step : Step) → Faithful step.neverFails step.run
  | .write piece => .lift (.write piece)
  | .line piece => .lift (.writeLine piece)
  | .blank => .lift .newLine
  | .indent => ⟨fun _ => List.suffix_rfl, fun _ => .whole rfl rfl⟩
  | .dedent => by
    refine ⟨fun progress => ?_, fun progress => .whole rfl ?_⟩
    · rw [run_dedent, Progress.dedent]
      split <;> exact List.suffix_rfl
    · rw [run_dedent, run_dedent, Progress.dedent, Progress.dedent]
      simp only [Progress.unlimited]
      split <;> rfl
  | .comment mark text => .lift (.writeComment mark _)
  | .separated separator asLines items => .lift (.writeSeparated separator asLines items)
  | .block header body => by
    have hparts := (Faithful.lift (.writeLine (header ++ " \x7b"))).andThen
      ((faithful_runBody body).around.andThen (.lift (.writeLine "\x7d")))
    simp only [Bool.true_and, Bool.and_true] at hparts
    have hrun : (Step.block header body).run = _ :=
      funext fun progress : Progress => run_block progress header body
    rw [hrun]
    exact hparts
  | .fail => ⟨fun _ => List.suffix_rfl, fun _ => .whole rfl rfl⟩

/-- **Several steps.** -/
theorem faithful_runBody : (script : List Step) →
    Faithful (neverFails script) fun progress => runBody progress script
  | [] => .nothing
  | step :: steps => step.faithful.andThen (faithful_runBody steps)

end

/-! ## What reaches the sink -/

namespace Result.Keeps

variable {fine : Bool} {limited full : Result}

theorem eq_of_ok (h : Keeps fine limited full) (hok : limited.ok = true) :
    full = limited.unlimited := by
  rcases h with ⟨-, hfull⟩ | ⟨hfailed, -⟩
  · exact hfull
  · rw [hok] at hfailed
    cases hfailed

/-- The limited run holds all of the text and fails only by itself, or the rest of the text starts
with a piece that did not fit. -/
theorem text (h : Keeps fine limited full) :
    (limited.ok = fine ∧ full.progress.text = limited.progress.text) ∨
      (limited.ok = false ∧ ∃ room piece rest, limited.progress.writer.sink.room = some room ∧
        room < piece.utf8ByteSize ∧
        full.progress.text = limited.progress.text ++ (piece ++ rest)) := by
  rcases h with ⟨hok, hfull⟩ | ⟨hok, hcut⟩
  · exact .inl ⟨hok, hfull ▸ rfl⟩
  · exact .inr ⟨hok, hcut.text⟩

end Result.Keeps

/-- The steps of a list whose items are steps themselves. -/
def listSteps (separator : String) : (items : List (List Step)) → List Step
  | [] => []
  | item :: items => item ++ items.flatMap fun next => .write separator :: next

/-- An item is a piece, or a line of its own. -/
def itemSteps (asLine : Bool) (item : String) : List Step :=
  [if asLine then .line item else .write item]

theorem Progress.lift_andThen (progress : Progress) (write next : Writer → Outcome) :
    progress.lift (fun w => (write w).andThen next) =
      (progress.lift write).andThen fun after => after.lift next := by
  have hok : (progress.lift write).ok = (write progress.writer).ok := rfl
  rw [Result.andThen, hok, Progress.lift, Outcome.andThen]
  split <;> rfl

theorem runBody_itemSteps (progress : Progress) (asLine : Bool) (item : String) :
    runBody progress (itemSteps asLine item) = progress.lift (·.writeItem asLine item) := by
  rw [itemSteps, runBody_singleton]
  cases asLine <;> rfl

theorem lift_writeRest (progress : Progress) (separator : String) (asLines : Bool)
    (items : List String) :
    progress.lift (·.writeRest separator asLines items) = runBody progress
      ((items.map (itemSteps asLines)).flatMap fun next => .write separator :: next) := by
  induction items generalizing progress with
  | nil => rfl
  | cons item items ih =>
    have hitem : runBody progress (.write separator :: itemSteps asLines item) =
        progress.lift fun w => (w.write separator).andThen fun w => w.writeItem asLines item := by
      rw [runBody_cons, Progress.lift_andThen, Result.andThen, run_write]
      simp only [runBody_itemSteps]
    rw [List.map_cons, List.flatMap_cons, runBody_append, hitem]
    simp only [← ih]
    exact progress.lift_andThen _ _

/-- A list is run as its items are, with the separator between them. -/
theorem run_separated_eq_runBody (progress : Progress) (separator : String) (asLines : Bool)
    (items : List String) :
    (Step.separated separator asLines items).run progress =
      runBody progress (listSteps separator (items.map (itemSteps asLines))) := by
  cases items with
  | nil => rfl
  | cons item items =>
    rw [run_separated, List.map_cons, listSteps, runBody_append, runBody_itemSteps]
    simp only [← lift_writeRest]
    exact progress.lift_andThen (·.writeItem asLines item) (·.writeRest separator asLines items)

/-- What came of an operation that began at `start`: `own` is its text, that which it writes on a
sink without a limit, and `part` is what reached the sink. An operation is a step, or several of
them that stop at the first failing one, as a list does whatever its items are (`listSteps`). -/
structure Delivers (start : Progress) (operation : List Step) (own part : String) : Prop where
  text_unlimited : (runBody start.unlimited operation).progress.text = start.text ++ own
  text : (runBody start operation).progress.text = start.text ++ part
  /-- Without a limit, each piece is written once and in its place. -/
  own_eq : ∀ blocks, start.writer.level = blocks + start.held → neverFails operation = true →
    own = written start.writer.indentation start.writer.atLineStart
      (eventsOf blocks start.held operation)
  starts : part.toList <+: own.toList
  ok_iff : (runBody start operation).ok = true ↔ part = own ∧ neverFails operation = true
  /-- The next piece did not fit. -/
  refused : (runBody start operation).ok = false → neverFails operation = true →
    ∃ room piece rest, (runBody start operation).progress.writer.sink.room = some room ∧
      room < piece.utf8ByteSize ∧ own = part ++ (piece ++ rest)

theorem exists_delivers (start : Progress) (operation : List Step) :
    ∃ own part, Delivers start operation own part := by
  have hfaithful := faithful_runBody operation
  obtain ⟨own, hown⟩ := Sink.text_of_suffix (hfaithful.grows start.unlimited)
  obtain ⟨part, hpart⟩ := Sink.text_of_suffix (hfaithful.grows start)
  replace hown : (runBody start.unlimited operation).progress.text = start.text ++ own := hown
  replace hpart : (runBody start operation).progress.text = start.text ++ part := hpart
  have hwritten : ∀ blocks, start.writer.level = blocks + start.held →
      neverFails operation = true → own = written start.writer.indentation
        start.writer.atLineStart (eventsOf blocks start.held operation) := by
    intro blocks hlevel hfine
    have hsettled : start.unlimited.Settled blocks := ⟨rfl, hlevel⟩
    exact (String.append_right_inj _).mp
      (hown.symm.trans (prints_runBody hsettled operation hfine).shows.text)
  refine ⟨own, part, ?_⟩
  rcases (hfaithful.keeps start).text with
    ⟨hok, htext⟩ | ⟨hok, room, piece, rest, hroom, hlt, htext⟩
  · obtain rfl : own = part := by
      rw [hown, hpart] at htext
      exact (String.append_right_inj _).mp htext
    refine ⟨hown, hpart, hwritten, List.prefix_rfl, by simp [hok], fun hfailed hfine => ?_⟩
    rw [hok, hfine] at hfailed
    cases hfailed
  · have hrest : own = part ++ (piece ++ rest) := by
      rw [hown, hpart, String.append_assoc] at htext
      exact (String.append_right_inj _).mp htext
    have hstarts : part.toList <+: own.toList := by
      rw [hrest, String.toList_append]
      exact List.prefix_append _ _
    -- A piece that does not fit is not empty.
    have hne : part ≠ own := by
      intro heq
      have hsize := congrArg String.utf8ByteSize (heq.trans hrest)
      simp only [String.utf8ByteSize_append] at hsize
      omega
    exact ⟨hown, hpart, hwritten, hstarts, by simp [hok, hne],
      fun _ _ => ⟨room, piece, rest, hroom, hlt, hrest⟩⟩

/-- The answers of operations on a limited sink, next to those on a sink without a limit: the same
ones up to the first error, and there a part of the operation's text. -/
inductive Answers : (limited full : List (Bool × String)) → Prop
  | done : Answers [] []
  | whole (text : String) {limited full : List (Bool × String)} (h : Answers limited full) :
    Answers ((true, text) :: limited) ((true, text) :: full)
  | failed {part own : String} {fine : Bool} (limited full : List (Bool × String))
    (hstarts : part.toList <+: own.toList) (hrest : fine = true → part ≠ own) :
    Answers ((false, part) :: limited) ((fine, own) :: full)

theorem answers_runEach (progress : Progress) (steps : List Step) :
    Answers (runEach progress steps) (runEach progress.unlimited steps) := by
  induction steps generalizing progress with
  | nil => exact .done
  | cons step steps ih =>
    have hdrained : progress.unlimited.drained = progress.drained.unlimited := rfl
    rw [runEach, runEach, hdrained]
    cases hok : (step.run progress.drained).ok with
    | true =>
      rw [(step.faithful.keeps progress.drained).eq_of_ok hok]
      simp only [Result.unlimited, hok]
      exact .whole _ (ih _)
    | false =>
      obtain ⟨own, part, h⟩ := exists_delivers progress.drained [step]
      have hempty : progress.drained.text = "" := rfl
      have hown := h.text_unlimited
      have hpart := h.text
      rw [runBody_singleton, hempty, String.empty_append, Progress.text] at hown hpart
      rw [hown, hpart]
      refine .failed _ _ h.starts fun hfull heq => ?_
      have hfine : neverFails [step] = true := by
        rw [neverFails, Step.neverFails_of_ok step hfull]
        rfl
      have hran : (runBody progress.drained [step]).ok = true := h.ok_iff.mpr ⟨heq, hfine⟩
      rw [runBody_singleton, hok] at hran
      cases hran

/-- **A limited sink holds a part of the text, and an error tells so.** From any state, and so also
in the body of a block: where steps stop at their first error, the sink holds the start of what they
write without a limit; an operation behind others that all succeeded finds their text complete and
delivers its own, or a part of it and an error; and operations that are called one by one answer
as without a limit up to the first error. A list does no more than its items with the separator
between them. -/
theorem limited_run_delivers (progress : Progress) (steps : List Step) :
    (runBody progress steps).progress.text.toList <+:
        (runBody progress.unlimited steps).progress.text.toList ∧
      (∀ before operation after, steps = before ++ operation ++ after →
        (runBody progress before).ok = true →
          runBody progress.unlimited before = (runBody progress before).unlimited ∧
            ∃ own part, Delivers (runBody progress before).progress operation own part) ∧
      Answers (runEach progress steps) (runEach progress.unlimited steps) ∧
      ∀ separator asLines items, (Step.separated separator asLines items).run progress =
        runBody progress (listSteps separator (items.map (itemSteps asLines))) := by
  refine ⟨?_, fun before operation after _ hok => ⟨?_, exists_delivers _ operation⟩,
    answers_runEach progress steps, run_separated_eq_runBody progress⟩
  · obtain ⟨own, part, h⟩ := exists_delivers progress steps
    rw [h.text_unlimited, h.text, String.toList_append, String.toList_append]
    exact (List.prefix_append_right_inj _).mpr h.starts
  · exact ((faithful_runBody before).keeps progress).eq_of_ok hok

/-- A block whose list is too long for the sink. -/
def crampedBlock : Step :=
  .block "fn f()" [.separated ", " false ["x", "y"], .blank]

def cramped : Progress :=
  { writer := { sink := { room := some 20 }, indentation := "  " } }

/-- The separator is the first piece that does not fit. -/
theorem limited_run_delivers_cramped :
    (runBody cramped [.line "use a;"]).ok = true ∧
      (runBody cramped [.line "use a;", crampedBlock, .line "end"]).progress.text =
        "use a;\nfn f() \x7b\n  x" ∧
      ∃ own part,
        Delivers (runBody cramped [.line "use a;"]).progress [crampedBlock] own part := by
  have hok : (runBody cramped [.line "use a;"]).ok = true := by decide +kernel
  refine ⟨hok, by decide +kernel, ?_⟩
  exact ((limited_run_delivers cramped [.line "use a;", crampedBlock, .line "end"]).2.1
    [.line "use a;"] [crampedBlock] [.line "end"] rfl hok).2

end Bindery.Layout
