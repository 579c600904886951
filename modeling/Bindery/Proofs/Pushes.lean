import Bindery.Layout.Script
import Mathlib.Data.List.Basic

/-!
# What a write is made of

Whatever a writer is asked to write, it does two things only: it hands pieces to its sink, and it
notes whether the current line is still blank. Which pieces these are, and in which order, is told
from the writer and not from its sink (`Plain`), and the first piece that the sink refuses ends the
write (`Writer.follow`). So what is to be known of every write, on every sink, is shown once, for a
list of acts.

A block is such writes with a body between them, each part reached only if those before it went well
(`run_block`).

Main results: `Writer.level_follow`, and `Plain` for each way of writing.
-/

namespace Bindery.Layout

open Text

variable {σ : Type}

/-! ## Acts -/

/-- One act of a writer. -/
inductive Act where
  /-- A piece goes to the sink. -/
  | put (piece : String)
  /-- From here on the line counts as blank, or no longer does. -/
  | mark (blank : Bool)
  deriving DecidableEq, Repr

/-- Whether the line counts as blank after these acts. -/
def markAfter : (start : Bool) → List Act → Bool
  | start, [] => start
  | start, .put _ :: acts => markAfter start acts
  | _, .mark blank :: acts => markAfter blank acts

theorem Outcome.andThen_of_ok {outcome : Outcome σ} (h : outcome.ok = true)
    (next : Writer σ → Outcome σ) : outcome.andThen next = next outcome.writer := by
  rw [andThen, if_pos h]

theorem Outcome.andThen_of_failed {outcome : Outcome σ} (h : outcome.ok = false)
    (next : Writer σ → Outcome σ) : outcome.andThen next = outcome := by
  rw [andThen, if_neg (by simp [h])]

variable [TextSink σ]

/-- Carries acts out, up to the first piece that the sink refuses. -/
def Writer.follow (writer : Writer σ) : List Act → Outcome σ
  | [] => ⟨writer, true⟩
  | .put piece :: acts => (writer.put piece).andThen fun w => w.follow acts
  | .mark blank :: acts => { writer with atLineStart := blank }.follow acts

namespace Writer

theorem follow_append (writer : Writer σ) (acts more : List Act) :
    writer.follow (acts ++ more) = (writer.follow acts).andThen fun w => w.follow more := by
  induction acts generalizing writer with
  | nil => rfl
  | cons act acts ih =>
    cases act with
    | mark blank => exact ih _
    | put piece =>
      rw [List.cons_append, follow, follow]
      cases hput : (writer.put piece).ok with
      | true => rw [Outcome.andThen_of_ok hput, Outcome.andThen_of_ok hput, ih]
      | false =>
        rw [Outcome.andThen_of_failed hput, Outcome.andThen_of_failed hput,
          Outcome.andThen_of_failed hput]

/-- **No write changes the level,** whether it fails or not. -/
theorem level_follow (writer : Writer σ) (acts : List Act) :
    (writer.follow acts).writer.level = writer.level := by
  induction acts generalizing writer with
  | nil => rfl
  | cons act acts ih =>
    cases act with
    | mark blank => exact ih _
    | put piece =>
      rw [follow]
      cases hput : (writer.put piece).ok with
      | true =>
        rw [Outcome.andThen_of_ok hput, ih]
        rfl
      | false =>
        rw [Outcome.andThen_of_failed hput]
        rfl

/-- Acts that all went well leave their last mark, and change nothing else but the sink. -/
theorem writer_of_follow {writer : Writer σ} {acts : List Act}
    (h : (writer.follow acts).ok = true) :
    (writer.follow acts).writer = { writer with
      sink := (writer.follow acts).writer.sink
      atLineStart := markAfter writer.atLineStart acts } := by
  induction acts generalizing writer with
  | nil => rfl
  | cons act acts ih =>
    cases act with
    | mark blank => exact ih h
    | put piece =>
      rw [follow] at h ⊢
      cases hput : (writer.put piece).ok with
      | true =>
        rw [Outcome.andThen_of_ok hput] at h ⊢
        exact ih h
      | false =>
        rw [Outcome.andThen_of_failed hput, hput] at h
        cases h

end Writer

/-! ## Plain writes -/

/-- A write that comes to a list of acts, the same on every sink. -/
def Plain (write : Writer σ → Outcome σ) : Prop :=
  ∀ writer : Writer σ, ∃ acts, ∀ sink : σ,
    write { writer with sink } = Writer.follow { writer with sink } acts

namespace Plain

variable {first next : Writer σ → Outcome σ}

theorem nothing : Plain fun w : Writer σ => ⟨w, true⟩ :=
  fun _ => ⟨[], fun _ => rfl⟩

theorem mark (blank : Bool) :
    Plain fun w : Writer σ => ⟨{ w with atLineStart := blank }, true⟩ :=
  fun _ => ⟨[.mark blank], fun _ => rfl⟩

theorem put (piece : String) : Plain fun w : Writer σ => w.put piece := by
  refine fun writer => ⟨[.put piece], fun sink => ?_⟩
  rw [Writer.follow]
  cases hput : (Writer.put { writer with sink } piece).ok with
  | true => rw [Outcome.andThen_of_ok hput, Writer.follow, ← hput]
  | false => rw [Outcome.andThen_of_failed hput]

/-- The second write finds the writer as it was, but for its sink and the mark of the first. -/
theorem andThen (h : Plain first) (hnext : Plain next) :
    Plain fun w => (first w).andThen next := by
  intro writer
  obtain ⟨acts, hacts⟩ := h writer
  obtain ⟨more, hmore⟩ := hnext { writer with atLineStart := markAfter writer.atLineStart acts }
  refine ⟨acts ++ more, fun sink => ?_⟩
  dsimp only
  rw [hacts, Writer.follow_append]
  cases hok : (Writer.follow { writer with sink } acts).ok with
  | true =>
    rw [Outcome.andThen_of_ok hok, Outcome.andThen_of_ok hok, Writer.writer_of_follow hok]
    exact hmore _
  | false => rw [Outcome.andThen_of_failed hok, Outcome.andThen_of_failed hok]

/-- A write may look at all of the writer but its sink. -/
theorem choose (h : ∀ writer : Writer σ, ∃ other, Plain other ∧
    ∀ sink : σ, first { writer with sink } = other { writer with sink }) : Plain first := by
  intro writer
  obtain ⟨other, hother, hsame⟩ := h writer
  obtain ⟨acts, hacts⟩ := hother writer
  exact ⟨acts, fun sink => (hsame sink).trans (hacts sink)⟩

theorem putIndentation (count : Nat) : Plain fun w : Writer σ => w.putIndentation count := by
  induction count with
  | zero => exact nothing
  | succ count ih =>
    exact choose fun writer => ⟨_, (put writer.indentation).andThen ih, fun _ => rfl⟩

theorem startLine (piece : String) : Plain fun w : Writer σ => w.startLine piece := by
  refine choose fun writer => ?_
  by_cases hstart : (writer.atLineStart && !isBlankText piece) = true
  · exact ⟨_, (putIndentation writer.level).andThen (mark false),
      fun sink => by rw [Writer.startLine, if_pos hstart]⟩
  · exact ⟨_, nothing, fun sink => by rw [Writer.startLine, if_neg hstart]⟩

theorem write (piece : String) : Plain fun w : Writer σ => w.write piece := by
  by_cases hempty : piece.isEmpty = true
  · simpa only [Writer.write, if_pos hempty] using nothing
  · simpa only [Writer.write, if_neg hempty] using (startLine piece).andThen (put piece)

theorem newLine : Plain fun w : Writer σ => w.newLine :=
  (put "\n").andThen (mark true)

theorem writeLine (piece : String) : Plain fun w : Writer σ => w.writeLine piece :=
  (write piece).andThen newLine

theorem writeComment (mark : String) (lines : List String) :
    Plain fun w : Writer σ => w.writeComment mark lines := by
  induction lines with
  | nil => exact nothing
  | cons line lines ih => exact (writeLine (mark ++ " " ++ line)).andThen ih

theorem writeItem (asLine : Bool) (item : String) :
    Plain fun w : Writer σ => w.writeItem asLine item := by
  cases asLine with
  | true => exact writeLine item
  | false => exact write item

theorem writeRest (separator : String) (asLines : Bool) (items : List String) :
    Plain fun w : Writer σ => w.writeRest separator asLines items := by
  induction items with
  | nil => exact nothing
  | cons item items ih => exact ((write separator).andThen (writeItem asLines item)).andThen ih

theorem writeSeparated (separator : String) (asLines : Bool) (items : List String) :
    Plain fun w : Writer σ => w.writeSeparated separator asLines items := by
  cases items with
  | nil => exact nothing
  | cons item items => exact (writeItem asLines item).andThen (writeRest separator asLines items)

theorem level (h : Plain first) (writer : Writer σ) :
    (first writer).writer.level = writer.level := by
  obtain ⟨acts, hacts⟩ := h writer
  rw [hacts writer.sink]
  exact writer.level_follow acts

end Plain

/-! ## Blocks -/

/-- Goes on if all went well so far. -/
def Result.andThen (result : Result σ) (next : Progress σ → Result σ) : Result σ :=
  if result.ok then next result.progress else result

omit [TextSink σ] in
theorem Result.andThen_of_ok {result : Result σ} (h : result.ok = true)
    (next : Progress σ → Result σ) : result.andThen next = next result.progress := by
  rw [andThen, if_pos h]

omit [TextSink σ] in
theorem Result.andThen_of_failed {result : Result σ} (h : result.ok = false)
    (next : Progress σ → Result σ) : result.andThen next = result := by
  rw [andThen, if_neg (by simp [h])]

/-- A block in parts: its header, its body one step in, and its closing brace. -/
theorem run_block (progress : Progress σ) (header : String) (body : List Step) :
    (Step.block header body).run progress =
      (progress.lift (·.writeLine (header ++ " \x7b"))).andThen fun opened =>
        let ran := runBody { opened with writer := opened.writer.indent } body
        Result.andThen ⟨{ ran.progress with writer := ran.progress.writer.dedent }, ran.ok⟩
          fun outside => outside.lift (·.writeLine "\x7d") := by
  rw [Step.run]
  simp only [Result.andThen]
  split
  · split
    · rfl
    · rename_i hran
      simp [hran]
  · rfl

end Bindery.Layout
