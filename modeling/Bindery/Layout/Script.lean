import Bindery.Layout.Writer

/-!
# Layout scripts

The shape of a source text is described by a script of writing steps. Indentation is held by
guards: a step may take one and a later step may release it, and a block holds one of its own
around its body. A body stops at its first failing step; the block then still releases its guard.
-/

namespace Bindery.Layout

/-- One step of laying out text. -/
inductive Step where
  | write (piece : String)
  | line (piece : String)
  | blank
  /-- Takes a guard. -/
  | indent
  /-- Releases the guard taken last, if one is still held. -/
  | dedent
  | comment (mark text : String)
  | separated (separator : String) (asLines : Bool) (items : List String)
  /-- The header and an opening brace, the body one step in, and the closing brace. -/
  | block (header : String) (body : List Step)
  | fail

/-- A writer and how many guards the script holds, those of open blocks apart. -/
structure Progress (σ : Type := Sink) where
  writer : Writer σ
  held : Nat := 0
  deriving DecidableEq, Repr

/-- How a step ended. -/
structure Result (σ : Type := Sink) where
  progress : Progress σ
  ok : Bool
  deriving DecidableEq, Repr

variable {σ : Type}

namespace Progress

/-- Runs a write and keeps the guards. -/
def lift (progress : Progress σ) (write : Writer σ → Outcome σ) : Result σ :=
  let outcome := write progress.writer
  ⟨{ progress with writer := outcome.writer }, outcome.ok⟩

def indent (progress : Progress σ) : Progress σ :=
  ⟨progress.writer.indent, progress.held + 1⟩

/-- Releases a guard, if one is held. -/
def dedent (progress : Progress σ) : Progress σ :=
  match progress.held with
  | 0 => progress
  | held + 1 => ⟨progress.writer.dedent, held⟩

end Progress

section Running

variable [TextSink σ]

mutual

def Step.run (progress : Progress σ) : Step → Result σ
  | .write piece => progress.lift (·.write piece)
  | .line piece => progress.lift (·.writeLine piece)
  | .blank => progress.lift (·.newLine)
  | .indent => ⟨progress.indent, true⟩
  | .dedent => ⟨progress.dedent, true⟩
  | .comment mark text => progress.lift (·.writeComment mark (Text.lines text))
  | .separated separator asLines items => progress.lift (·.writeSeparated separator asLines items)
  | .block header body =>
    let opened := progress.lift (·.writeLine (header ++ " \x7b"))
    if opened.ok then
      let inside := { opened.progress with writer := opened.progress.writer.indent }
      let ran := runBody inside body
      let outside := { ran.progress with writer := ran.progress.writer.dedent }
      if ran.ok then outside.lift (·.writeLine "\x7d") else ⟨outside, false⟩
    else opened
  | .fail => ⟨progress, false⟩

/-- Runs steps up to the first that fails. -/
def runBody (progress : Progress σ) : List Step → Result σ
  | [] => ⟨progress, true⟩
  | step :: steps =>
    let ran := step.run progress
    if ran.ok then runBody ran.progress steps else ran

end

end Running

/-- The same progress with the text so far taken away. -/
def Progress.drained (progress : Progress) : Progress :=
  { progress with writer.sink := progress.writer.sink.drained }

/-- Runs all steps, whether they fail or not; for each, whether it succeeded and what it added to
the text. -/
def runEach (progress : Progress) : List Step → List (Bool × String)
  | [] => []
  | step :: steps =>
    let ran := step.run progress.drained
    (ran.ok, ran.progress.writer.sink.text) :: runEach ran.progress steps

/-- The steps one step of indentation further in. -/
def nested (steps : List Step) : List Step :=
  [.indent] ++ steps ++ [.dedent]

/-- The text of a script, if a sink with this much room takes all of it. -/
def render? (indentation : String) (room : Option Nat) (script : List Step) : Option String :=
  let ran : Result := runBody { writer := { sink := { room }, indentation } } script
  if ran.ok then some ran.progress.writer.sink.text else none

end Bindery.Layout
