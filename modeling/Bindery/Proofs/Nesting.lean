import Bindery.Proofs.Outline

/-!
# Nested brackets

A text is well nested if every bracket closes the innermost one that is open, and none is open at
the end. Read from the start, a text leaves a stack of open brackets behind, or it fails
(`openAfter`).

**Pieces.** A piece of a line takes brackets off the stack and puts others on it, whatever lies
below (`Turns`). Pieces follow on one another like the steps of a machine, and most leave the stack
as they found it (`IsLevel`).

**Lines.** Where a line starts only curly braces are open, so a number says which. A line leads from
one such number to another, and stands where a rule says it has to (`Line.Follows`). Lines that
follow on one another can be moved in together: one brace more is open and they stand one step
deeper (`Follow.deeper`).

**Scripts.** A script of whole lines inherits this from its parts (`Nests`), and its text from the
script (`Nests.text`).

Main results: `Nests.text` and the rules for `Nests` before it.
-/

namespace Bindery

open Layout Text

/-! ## Brackets -/

/-- The bracket that closes this one. -/
def closing? (c : Char) : Option Char :=
  if c = '(' then some ')' else if c = '[' then some ']' else if c = '\x7b' then some '\x7d'
  else none

def isClosing (c : Char) : Bool :=
  c == ')' || c == ']' || c == '\x7d'

/-- The open brackets after a character, innermost first, if it closes no wrong one. -/
def nest (stack : List Char) (c : Char) : Option (List Char) :=
  if (closing? c).isSome then some (c :: stack)
  else if isClosing c then
    match stack with
    | [] => none
    | opened :: below => if closing? opened = some c then some below else none
  else some stack

/-- The open brackets after a text. -/
def openAfter : (stack : List Char) → List Char → Option (List Char)
  | stack, [] => some stack
  | stack, c :: cs => (nest stack c).bind (openAfter · cs)

/-- Every bracket of the text closes the innermost open one, and none stays open. -/
def WellNested (text : String) : Prop :=
  openAfter [] text.toList = some []

theorem openAfter_append (stack cs ds : List Char) :
    openAfter stack (cs ++ ds) = (openAfter stack cs).bind (openAfter · ds) := by
  induction cs generalizing stack with
  | nil => rfl
  | cons c cs ih =>
    rw [List.cons_append, openAfter, openAfter]
    cases nest stack c with
    | none => rfl
    | some after => exact ih after

/-- The characters that open or close something. -/
def brackets : List Char := ['(', ')', '[', ']', '\x7b', '\x7d']

theorem nest_of_notMem {c : Char} (h : c ∉ brackets) (stack : List Char) :
    nest stack c = some stack := by
  simp only [brackets, List.mem_cons, List.not_mem_nil, or_false, not_or] at h
  obtain ⟨hround, hround', hsquare, hsquare', hcurly, hcurly'⟩ := h
  simp [nest, closing?, isClosing, hround, hround', hsquare, hsquare', hcurly, hcurly']

theorem openAfter_of_notMem {cs : List Char} (h : ∀ c ∈ cs, c ∉ brackets) (stack : List Char) :
    openAfter stack cs = some stack := by
  induction cs with
  | nil => rfl
  | cons c cs ih =>
    obtain ⟨hc, hcs⟩ := List.forall_mem_cons.mp h
    rw [openAfter, nest_of_notMem hc]
    exact ih hcs

theorem notMem_brackets_of_isWordChar {c : Char} (h : isWordChar c = true) : c ∉ brackets := by
  intro hmem
  have hnone : brackets.all (fun c => !isWordChar c) = true := by decide
  simpa [h] using List.all_eq_true.mp hnone c hmem

theorem notMem_brackets_of_isBlank {c : Char} (h : isBlank c = true) : c ∉ brackets := by
  intro hmem
  have hnone : brackets.all (fun c => !isBlank c) = true := by decide
  simpa [h] using List.all_eq_true.mp hnone c hmem

/-! ## Pieces -/

/-- The piece leaves the open brackets as they are. -/
structure IsLevel (text : String) : Prop where
  clean : isClean text = true
  level : ∀ stack, openAfter stack text.toList = some stack

theorem IsWordText.isLevel {word : String} (h : IsWordText word) : IsLevel word where
  clean := h.isClean
  level := openAfter_of_notMem fun c hc => notMem_brackets_of_isWordChar (h c hc)

/-- The piece has these characters. It takes the brackets `before` off the stack and puts `after` on
it, whatever lies below. -/
structure Turns (text : String) (cs before after : List Char) : Prop extends Spells text cs where
  turns : ∀ below, openAfter (before ++ below) cs = some (after ++ below)

namespace Turns

variable {a b : String} {cs ds before middle after : List Char}

/-- A text that is written out. -/
theorem lit (hclean : cs.all (fun c => c != '\n' && c != '\r') = true)
    (hturns : ∀ below, openAfter (before ++ below) cs = some (after ++ below)) :
    Turns (String.ofList cs) cs before after :=
  ⟨.lit hclean, hturns⟩

theorem level (h : IsLevel a) : Turns a a.toList before before :=
  ⟨.var h.clean, fun below => h.level (before ++ below)⟩

theorem append (ha : Turns a cs before middle) (hb : Turns b ds middle after) :
    Turns (a ++ b) (cs ++ ds) before after where
  toSpells := ha.toSpells.append hb.toSpells
  turns below := by rw [openAfter_append, ha.turns, Option.bind_some, hb.turns]

/-- A piece that only uses the brackets it opens. -/
theorem isLevel (h : Turns a cs [] []) : IsLevel a where
  clean := h.clean
  level stack := by rw [h.toList, ← List.nil_append stack, h.turns]

end Turns

theorem IsLevel.join {items : List String} (h : ∀ item ∈ items, IsLevel item) :
    IsLevel (String.join items) := by
  induction items with
  | nil => exact ⟨rfl, fun _ => rfl⟩
  | cons item items ih =>
    obtain ⟨hitem, hitems⟩ := List.forall_mem_cons.mp h
    rw [String.join_cons]
    exact ((Turns.level hitem).append (.level (ih hitems))).isLevel

theorem IsLevel.intercalate {separator : String} (hseparator : IsLevel separator)
    {items : List String} (h : ∀ item ∈ items, IsLevel item) :
    IsLevel (separator.intercalate items) := by
  induction items with
  | nil => exact ⟨rfl, fun _ => rfl⟩
  | cons item items ih =>
    obtain ⟨hitem, hitems⟩ := List.forall_mem_cons.mp h
    cases items with
    | nil => simpa using hitem
    | cons next rest =>
      rw [String.intercalate_cons_cons]
      exact (((Turns.level hitem).append (.level hseparator)).append (.level (ih hitems))).isLevel

/-! ## Lines -/

/-- So many curly braces. -/
def braces (count : Nat) : List Char :=
  List.replicate count '\x7b'

/-- The text does not end in white space. -/
def isTrimmed (cs : List Char) : Bool :=
  cs.getLast?.all fun c => !isBlank c

/-- The text ends in a character that can be seen. -/
def EndsVisible (text : String) : Prop :=
  text.toList.getLast?.any (fun c => !isBlank c) = true

namespace EndsVisible

variable {a b : String}

/-- A text that is written out. -/
theorem lit {cs : List Char} (h : cs.getLast?.any (fun c => !isBlank c) = true) :
    EndsVisible (String.ofList cs) := by
  rwa [EndsVisible, String.toList_ofList]

theorem append (a : String) (h : EndsVisible b) : EndsVisible (a ++ b) := by
  rw [EndsVisible] at h ⊢
  cases hlast : b.toList.getLast? with
  | none => simp [hlast] at h
  | some c => simpa [String.toList_append, List.getLast?_append, hlast] using h

theorem isTrimmed (h : EndsVisible a) : isTrimmed a.toList = true := by
  rw [EndsVisible] at h
  rw [Bindery.isTrimmed]
  cases hlast : a.toList.getLast? with
  | none => rfl
  | some c => simpa [hlast] using h

theorem not_blank (h : EndsVisible a) : isBlankText a = false := by
  rw [EndsVisible, Option.any_eq_true] at h
  obtain ⟨c, hlast, hvisible⟩ := h
  rw [isBlankText, List.all_eq_false]
  exact ⟨c, List.mem_of_getLast? hlast, by simpa using hvisible⟩

end EndsVisible

/-- A line of a comment: it is clean, has no brackets, and does not end in white space. -/
def isQuiet (cs : List Char) : Bool :=
  cs.all (fun c => !brackets.contains c && c != '\n' && c != '\r') &&
    cs.getLast?.any fun c => !isBlank c

theorem isLevel_of_isQuiet {text : String} (h : isQuiet text.toList = true) : IsLevel text := by
  rw [isQuiet, Bool.and_eq_true, List.all_eq_true] at h
  constructor
  · rw [isClean, List.all_eq_true]
    intro c hc
    have hquiet := h.1 c hc
    simp only [Bool.and_eq_true] at hquiet
    simp [hquiet.1.2, hquiet.2]
  · refine openAfter_of_notMem fun c hc => ?_
    have hquiet := h.1 c hc
    simp only [Bool.and_eq_true, Bool.not_eq_true', List.contains_eq_mem,
      decide_eq_false_iff_not] at hquiet
    exact hquiet.1.1

theorem endsVisible_of_isQuiet {text : String} (h : isQuiet text.toList = true) :
    EndsVisible text := by
  rw [isQuiet, Bool.and_eq_true] at h
  exact h.2

/-- Where lines have to stand, given how many braces are open before them. Empty lines may stand
anywhere, and lines may move in together. -/
structure Rule where
  holds : Nat → Line → Prop
  blank (count : Nat) : holds count ⟨0, ""⟩
  deeper {count : Nat} {line : Line} : holds count line → holds (count + 1) line.deeper

/-- With `before` braces open, the line stands where it has to and leaves `after` of them open. -/
structure Layout.Line.Follows (rule : Rule) (before : Nat) (line : Line) (after : Nat) : Prop where
  clean : isClean line.content = true
  turns : ∀ below, openAfter (braces before ++ below) line.content.toList =
    some (braces after ++ below)
  trimmed : isTrimmed line.content.toList = true
  placed : rule.holds before line

/-- Lines that follow on one another. -/
inductive Follow (rule : Rule) : Nat → List Line → Nat → Prop where
  | nil (count : Nat) : Follow rule count [] count
  | cons {before middle after : Nat} {line : Line} {lines : List Line}
      (head : line.Follows rule before middle) (tail : Follow rule middle lines after) :
      Follow rule before (line :: lines) after

section Lines

variable {rule : Rule} {before middle after : Nat} {line : Line} {lines more : List Line}

theorem braces_succ (count : Nat) (below : List Char) :
    braces (count + 1) ++ below = braces count ++ '\x7b' :: below := by
  rw [braces, List.replicate_succ', List.append_assoc]
  rfl

theorem Layout.Line.Follows.deeper (h : line.Follows rule before after) :
    line.deeper.Follows rule (before + 1) (after + 1) where
  clean := h.clean
  turns below := by
    rw [braces_succ, braces_succ]
    exact h.turns _
  trimmed := h.trimmed
  placed := rule.deeper h.placed

namespace Follow

theorem one (h : line.Follows rule before after) : Follow rule before [line] after :=
  .cons h (.nil after)

theorem append (h : Follow rule before lines middle) (h' : Follow rule middle more after) :
    Follow rule before (lines ++ more) after := by
  induction h with
  | nil count => exact h'
  | cons head tail ih => exact .cons head (ih h')

theorem deeper (h : Follow rule before lines after) :
    Follow rule (before + 1) (lines.map Line.deeper) (after + 1) := by
  induction h with
  | nil count => exact .nil (count + 1)
  | cons head tail ih => exact .cons head.deeper ih

/-- Lines can be cut anywhere. -/
theorem split (h : Follow rule before (lines ++ line :: more) after) :
    ∃ middle next, Follow rule before lines middle ∧ line.Follows rule middle next := by
  induction lines generalizing before with
  | nil =>
    cases h with
    | cons head tail => exact ⟨_, _, .nil before, head⟩
  | cons first lines ih =>
    cases h with
    | cons head tail =>
      obtain ⟨middle, next, hlines, hline⟩ := ih tail
      exact ⟨middle, next, .cons head hlines, hline⟩

theorem forall_mem {P : Line → Prop} (h : Follow rule before lines after)
    (hline : ∀ {line : Line} {before after : Nat}, line.Follows rule before after → P line) :
    ∀ line ∈ lines, P line := by
  induction h with
  | nil count => simp
  | cons head tail ih => exact List.forall_mem_cons.mpr ⟨hline head, ih⟩

/-- Indentation and line ends make no difference to the open brackets. -/
theorem openAfter_shown (h : Follow rule before lines after) {indentation : String}
    (hindentation : isBlankText indentation = true) {ending : List Char}
    (hending : ∀ c ∈ ending, c ∉ brackets) (below : List Char) :
    openAfter (braces before ++ below)
      (lines.flatMap fun line => (line.shown indentation 0).toList ++ ending) =
        some (braces after ++ below) := by
  induction h with
  | nil count => rfl
  | @cons before middle after line lines head tail ih =>
    have hshown : openAfter (braces before ++ below) (line.shown indentation 0).toList =
        some (braces middle ++ below) := by
      rw [← head.turns below, Line.shown]
      split
      · rename_i hempty
        rw [String.isEmpty_iff.mp hempty]
      · have hspace : ∀ c ∈ (String.join (List.replicate (0 + line.depth) indentation)).toList,
            c ∉ brackets := by
          intro c hc
          simp only [String.toList_join, List.mem_flatMap, List.mem_replicate] at hc
          obtain ⟨_, ⟨_, rfl⟩, hc⟩ := hc
          exact notMem_brackets_of_isBlank (List.all_eq_true.mp hindentation c hc)
        rw [String.toList_append, openAfter_append, openAfter_of_notMem hspace, Option.bind_some]
    rw [List.flatMap_cons, openAfter_append, openAfter_append, hshown, Option.bind_some,
      openAfter_of_notMem hending, Option.bind_some, ih]

end Follow

theorem isTrimmed_shown {indentation : String} (h : isTrimmed line.content.toList = true)
    (level : Nat) : isTrimmed (line.shown indentation level).toList = true := by
  rw [Line.shown]
  split
  · rfl
  · rename_i hempty
    have hne : line.content.toList ≠ [] := by simpa using hempty
    rwa [String.toList_append, isTrimmed, List.getLast?_append_of_ne_nil _ hne]

end Lines

/-! ## Scripts -/

/-- The script writes lines that follow on one another. -/
def Nests (rule : Rule) (before : Nat) (script : List Step) (after : Nat) : Prop :=
  ∃ lines, Draws script lines ∧ Follow rule before lines after

namespace Nests

variable {rule : Rule} {before middle after : Nat} {script more : List Step}

theorem nil (before : Nat) : Nests rule before [] before :=
  ⟨[], draws_nil, .nil before⟩

theorem append (h : Nests rule before script middle) (h' : Nests rule middle more after) :
    Nests rule before (script ++ more) after := by
  obtain ⟨lines, hdraws, hlines⟩ := h
  obtain ⟨lines', hdraws', hlines'⟩ := h'
  exact ⟨lines ++ lines', hdraws.append hdraws', hlines.append hlines'⟩

theorem flatMap {α : Type} {part : α → List Step} {items : List α}
    (h : ∀ a ∈ items, Nests rule before (part a) before) :
    Nests rule before (items.flatMap part) before := by
  induction items with
  | nil => exact nil before
  | cons a rest ih =>
    obtain ⟨ha, hrest⟩ := List.forall_mem_cons.mp h
    exact ha.append (ih hrest)

theorem map {α : Type} {part : α → Step} {items : List α}
    (h : ∀ a ∈ items, Nests rule before [part a] before) :
    Nests rule before (items.map part) before := by
  rw [List.map_eq_flatMap]
  exact flatMap h

theorem line {piece : String} {cs : List Char}
    (h : Turns piece cs (braces before) (braces after)) (hends : EndsVisible piece)
    (hrule : rule.holds before ⟨0, piece⟩) : Nests rule before [.line piece] after := by
  refine ⟨_, draws_line hends.not_blank, .one ?_⟩
  exact ⟨h.clean, h.toList ▸ h.turns, hends.isTrimmed, hrule⟩

/-- A line that is put together around a list of arguments. -/
theorem call {first separator last : String} {items : List String} {cs : List Char}
    (hfirst : EndsVisible first)
    (h : Turns (first ++ separator.intercalate items ++ last) cs (braces before) (braces after))
    (hends : EndsVisible last)
    (hrule : rule.holds before ⟨0, first ++ separator.intercalate items ++ last⟩) :
    Nests rule before [.write first, .separated separator false items, .line last] after := by
  refine ⟨_, draws_call hfirst.not_blank separator items last, .one ?_⟩
  exact ⟨h.clean, h.toList ▸ h.turns, (hends.append _).isTrimmed, hrule⟩

theorem blank : Nests rule before [.blank] before :=
  ⟨_, draws_blank, .one ⟨rfl, fun _ => rfl, rfl, rule.blank before⟩⟩

/-- A comment without brackets, whose lines do not end in white space. -/
theorem comment {mark text : String} (hmark : isBlankText mark = false)
    (hlevel : IsLevel (mark ++ " "))
    (htext : (Text.lines text).all (fun line => isQuiet line.toList) = true)
    (hrule : ∀ line, rule.holds before ⟨0, mark ++ " " ++ line⟩) :
    Nests rule before [.comment mark text] before := by
  refine ⟨_, draws_comment hmark text, ?_⟩
  generalize Text.lines text = lines at htext ⊢
  induction lines with
  | nil => exact .nil before
  | cons line lines ih =>
    rw [List.all_cons, Bool.and_eq_true] at htext
    have hline := isLevel_of_isQuiet htext.1
    have hwhole := ((Turns.level hlevel).append (.level hline)).isLevel
    have hends := (endsVisible_of_isQuiet htext.1).append (mark ++ " ")
    exact .cons ⟨hwhole.clean, fun below => hwhole.level _, hends.isTrimmed, hrule line⟩
      (ih htext.2)

/-- Inside of one brace more, one step further in. -/
theorem nested (h : Nests rule before script after) :
    Nests rule (before + 1) (nested script) (after + 1) := by
  obtain ⟨lines, hdraws, hlines⟩ := h
  exact ⟨_, hdraws.nested, hlines.deeper⟩

theorem block {header : String} {cs : List Char} (hheader : Turns header cs [] [])
    (hopen : rule.holds 0 ⟨0, header ++ " \x7b"⟩) (hclose : rule.holds 1 ⟨0, "\x7d"⟩)
    (h : Nests rule 0 script 0) : Nests rule 0 [.block header script] 0 := by
  obtain ⟨lines, hdraws, hlines⟩ := h
  have hbrace : Turns " \x7b" _ [] ['\x7b'] := .lit rfl fun _ => rfl
  have hfirst := hheader.append hbrace
  have hends : EndsVisible (header ++ " \x7b") := .append header (.lit rfl)
  refine ⟨_, hdraws.block header, ((Follow.one ?_).append hlines.deeper).append (.one ?_)⟩
  · exact ⟨hfirst.clean, hfirst.toList ▸ hfirst.turns, hends.isTrimmed, hopen⟩
  · exact ⟨rfl, fun _ => rfl, rfl, hclose⟩

/-- **Texts.** A script of lines that follow on one another gives a well nested text. No line of it
ends in white space, a carriage return included, and each stands where it has to for the braces that
are open before it. -/
theorem text (h : Nests rule 0 script 0) {indentation : String}
    (hclean : isClean indentation = true) (hblank : isBlankText indentation = true) :
    ∃ text, render? indentation none script = some text ∧ WellNested text ∧
      '\r' ∉ text.toList ∧ (∀ line ∈ Text.lines text, isTrimmed line.toList = true) ∧
      ∀ earlier line later, Text.lines text = earlier ++ line :: later →
        ∃ count source, openAfter [] (earlier.flatMap String.toList) = some (braces count) ∧
          line = Line.shown indentation 0 source ∧ rule.holds count source := by
  obtain ⟨lines, hdraws, hlines⟩ := h
  obtain ⟨pieces, hrun, htext⟩ :=
    hdraws { writer := { sink := { room := none }, indentation } } rfl rfl
  have hsplit := lines_textOf hclean 0 (hlines.forall_mem Line.Follows.clean)
  refine ⟨Line.textOf indentation 0 lines, ?_, ?_, ?_, ?_, ?_⟩
  · simp only [render?, hrun, if_true]
    rw [Progress.add, Writer.text_add, htext]
    simp [Sink.text]
  · have hending : ∀ c ∈ ['\n'], c ∉ brackets := by simp [brackets]
    have hnest := hlines.openAfter_shown hblank hending []
    rw [WellNested, Line.textOf, String.toList_join, List.flatMap_map]
    simpa [braces] using hnest
  · rw [Line.textOf, String.toList_join, List.flatMap_map, List.mem_flatMap]
    rintro ⟨line, hline, hmem⟩
    have hshown := isClean_shown hclean (hlines.forall_mem Line.Follows.clean line hline) 0
    rw [isClean, List.all_eq_true] at hshown
    rw [String.toList_append, List.mem_append] at hmem
    rcases hmem with hmem | hmem
    · cases hshown '\r' hmem
    · cases List.mem_singleton.mp hmem
  · rw [hsplit, List.forall_mem_map]
    exact fun line hline =>
      isTrimmed_shown (hlines.forall_mem Line.Follows.trimmed line hline) 0
  · intro earlier line later heq
    rw [hsplit] at heq
    obtain ⟨sources, rest, rfl, rfl, hrest⟩ := List.map_eq_append_iff.mp heq
    obtain ⟨source, others, rfl, rfl, -⟩ := List.map_eq_cons_iff.mp hrest
    obtain ⟨count, _, hsources, hsource⟩ := hlines.split
    have hending : ∀ c ∈ ([] : List Char), c ∉ brackets := by simp
    have hopen := hsources.openAfter_shown hblank hending []
    refine ⟨count, source, ?_, rfl, hsource.placed⟩
    rw [List.flatMap_map]
    simpa [braces] using hopen

end Nests

end Bindery
