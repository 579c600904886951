import Bindery.Text.Lines

/-!
# Indenting writer

Source text is written piece by piece to a sink. The writer keeps the current indentation and puts
it in front of the first piece of a line that is not blank, so blank lines carry no trailing
white space. The writer makes no difference between sinks; the one that is used here may be full,
and then refuses a whole piece and stays as it was.
-/

namespace Bindery.Layout

/-- A place for text: the pieces it took, latest first, and how many more bytes of UTF-8 it has
room for, if that is limited. -/
structure Sink where
  pieces : List String := []
  room : Option Nat := none
  deriving DecidableEq, Repr

namespace Sink

def text (sink : Sink) : String :=
  String.join sink.pieces.reverse

/-- The sink after a piece, if the piece fits. -/
def push? (sink : Sink) (piece : String) : Option Sink :=
  match sink.room with
  | none => some { sink with pieces := piece :: sink.pieces }
  | some room =>
    if piece.utf8ByteSize ≤ room then
      some ⟨piece :: sink.pieces, some (room - piece.utf8ByteSize)⟩
    else none

/-- The sink with its text taken away; its room does not grow. -/
def drained (sink : Sink) : Sink :=
  { sink with pieces := [] }

end Sink

/-- A place that takes text piece by piece: what becomes of it when it is handed a piece, and
whether it took the piece. -/
class TextSink (σ : Type) where
  push : σ → String → σ × Bool

/-- A full sink stays as it was. -/
instance : TextSink Sink where
  push sink piece :=
    match sink.push? piece with
    | some after => (after, true)
    | none => (sink, false)

/-- A writer: its sink, one step of indentation, how many steps apply, and whether the current
line is still blank. -/
structure Writer (σ : Type := Sink) where
  sink : σ
  indentation : String
  level : Nat := 0
  atLineStart : Bool := true
  deriving DecidableEq, Repr

/-- How a write ended: the writer afterwards, and whether all of the text reached the sink. -/
structure Outcome (σ : Type := Sink) where
  writer : Writer σ
  ok : Bool
  deriving DecidableEq, Repr

variable {σ : Type}

namespace Outcome

/-- Goes on with the writer if all went well so far. -/
def andThen (outcome : Outcome σ) (next : Writer σ → Outcome σ) : Outcome σ :=
  if outcome.ok then next outcome.writer else outcome

end Outcome

namespace Writer

def indent (writer : Writer σ) : Writer σ :=
  { writer with level := writer.level + 1 }

def dedent (writer : Writer σ) : Writer σ :=
  { writer with level := writer.level - 1 }

variable [TextSink σ]

/-- Hands a piece to the sink as it is. -/
def put (writer : Writer σ) (piece : String) : Outcome σ :=
  let pushed := TextSink.push writer.sink piece
  ⟨{ writer with sink := pushed.1 }, pushed.2⟩

/-- Hands `count` steps of indentation to the sink, one by one. -/
def putIndentation (writer : Writer σ) : (count : Nat) → Outcome σ
  | 0 => ⟨writer, true⟩
  | count + 1 => (writer.put writer.indentation).andThen fun w => w.putIndentation count

/-- Indents if the piece starts the visible part of a line. -/
def startLine (writer : Writer σ) (piece : String) : Outcome σ :=
  if writer.atLineStart && !Text.isBlankText piece then
    (writer.putIndentation writer.level).andThen fun w => ⟨{ w with atLineStart := false }, true⟩
  else ⟨writer, true⟩

def write (writer : Writer σ) (piece : String) : Outcome σ :=
  if piece.isEmpty then ⟨writer, true⟩
  else (writer.startLine piece).andThen fun w => w.put piece

def newLine (writer : Writer σ) : Outcome σ :=
  (writer.put "\n").andThen fun w => ⟨{ w with atLineStart := true }, true⟩

def writeLine (writer : Writer σ) (piece : String) : Outcome σ :=
  (writer.write piece).andThen newLine

/-- Writes each line with the comment mark in front. -/
def writeComment (writer : Writer σ) (mark : String) : (lines : List String) → Outcome σ
  | [] => ⟨writer, true⟩
  | line :: lines =>
    (writer.writeLine (mark ++ " " ++ line)).andThen fun w => w.writeComment mark lines

/-- Writes an item as a piece, or as a line of its own. -/
def writeItem (writer : Writer σ) (asLine : Bool) (item : String) : Outcome σ :=
  if asLine then writer.writeLine item else writer.write item

/-- Writes items, each after a separator. -/
def writeRest (writer : Writer σ) (separator : String) (asLines : Bool) :
    (items : List String) → Outcome σ
  | [] => ⟨writer, true⟩
  | item :: items =>
    ((writer.write separator).andThen fun w => w.writeItem asLines item).andThen fun w =>
      w.writeRest separator asLines items

def writeSeparated (writer : Writer σ) (separator : String) (asLines : Bool) :
    (items : List String) → Outcome σ
  | [] => ⟨writer, true⟩
  | item :: items =>
    (writer.writeItem asLines item).andThen fun w => w.writeRest separator asLines items

end Writer

end Bindery.Layout
