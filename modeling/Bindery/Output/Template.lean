import Bindery.Text.Quoted

/-!
# Output templates

The path of an output file is given by a template: text in which `{filename}` stands for the name
of the input file and `{ext}` for the ending of the output language. An opening brace always starts
a placeholder; a closing brace by itself is text. What is put in for a placeholder is not looked at
again.
-/

namespace Bindery

inductive Piece where
  | text (text : String)
  | filename
  | extension
  deriving DecidableEq, Repr

structure Template where
  pieces : List Piece
  deriving DecidableEq, Repr

/-- The fault of a template with something else between its braces. -/
structure TemplateError where
  template : String
  placeholder : String
  deriving DecidableEq, Repr

def TemplateError.message (e : TemplateError) : String :=
  "template " ++ Text.quote e.template ++ ": unknown placeholder " ++ Text.quote e.placeholder ++
    " (expected \x7bfilename\x7d or \x7bext\x7d)"

namespace Template

/-- A piece of text, unless it is empty. -/
def literal (cs : List Char) : List Piece :=
  if cs.isEmpty then [] else [.text (String.ofList cs)]

def placeholder? (name : List Char) : Option Piece :=
  if name = "filename".toList then some .filename
  else if name = "ext".toList then some .extension
  else none

/-- The pieces of a text, or the first placeholder that is unknown. A placeholder that is never
closed is reported with its brace and all that follows. -/
def piecesOf (cs : List Char) : Except (List Char) (List Piece) :=
  match hOpen : cs.dropWhile (· != '\x7b') with
  | [] => .ok (literal cs)
  | brace :: body =>
    match hClose : body.dropWhile (· != '\x7d') with
    | [] => .error (brace :: body)
    | _ :: rest =>
      have : rest.length < cs.length := by
        have h₁ := (List.dropWhile_sublist (l := cs) (· != '\x7b')).length_le
        have h₂ := (List.dropWhile_sublist (l := body) (· != '\x7d')).length_le
        simp only [hOpen, hClose, List.length_cons] at h₁ h₂
        omega
      let name := body.takeWhile (· != '\x7d')
      match placeholder? name with
      | none => .error name
      | some piece => do
        return literal (cs.takeWhile (· != '\x7b')) ++ piece :: (← piecesOf rest)
  termination_by cs.length

def parse (template : String) : Except TemplateError Template :=
  match piecesOf template.toList with
  | .ok pieces => .ok ⟨pieces⟩
  | .error placeholder => .error ⟨template, String.ofList placeholder⟩

/-- The template with its placeholders filled in. -/
def expand (template : Template) (filename extension : String) : String :=
  String.join <| template.pieces.map fun
    | .text text => text
    | .filename => filename
    | .extension => extension

/-- Where the client's code goes unless the user says otherwise. -/
def clientDefault : String := "\x7bfilename\x7d-client.\x7bext\x7d"

/-- Where the server's code goes unless the user says otherwise. -/
def serverDefault : String := "\x7bfilename\x7d-server.\x7bext\x7d"

end Template

end Bindery
