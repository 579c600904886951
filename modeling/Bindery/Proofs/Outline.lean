import Bindery.Proofs.Lines
import Bindery.Proofs.Plan
import Bindery.Proofs.SnakeCase
import Bindery.Target.Basic
import Mathlib.Data.List.DropRight
import Mathlib.Data.List.SplitBy
import Std.Data.String.ToInt

/-!
# Outlines of generated code

A generated text is read back without any knowledge of how it came about: line by line, and of each
line only its shape counts. A line of one of a few shapes leaves a `Mark`, such as the opcode of a
message that is sent there or the name of a routine that begins there; the marks of all lines, in
order, are the outline of the text (`outlineOf`).

**Reading.** A shape is the text before and after one word (`Shape`). Since the words in generated
lines are names and numbers, which hold no character of the text around them, a line of a shape is
read as one (`takeWhile_word`, `dropWhile_word`) and not taken for another (`dropPrefix?_word`).

**Parts.** An outline falls into parts, each from one mark that begins something to the next
(`partsOf`). The parts tell what each routine does: which parameters follow the opcode of a message
that is sent (`sendings`), what a routine reads and which handler it calls (`readings`), and which
opcode leads to which routine (`arms`).

**Plans.** The texts of all targets should have the same outline, up to names and to what frames the
routines of the messages (`Frame.parts`); for that outline the parts are known.

Main results: `outlineOf_of_reads`, `sendings_outline`, `readings_outline` and `arms_outline`.
-/

namespace Bindery

open Layout Text

/-- What a line of generated code has to do with messages. -/
inductive Mark where
  /-- Declares a handler for the user to write. -/
  | declares (handler : String)
  /-- Begins a routine for the user to call. -/
  | offers (routine : String)
  /-- Starts a message with its opcode. -/
  | sends (opcode : Int)
  /-- Puts a parameter into the message. -/
  | puts (parameter : String)
  /-- Begins a routine that is out of sight. -/
  | defines (routine : String)
  /-- Reads a value into a variable. -/
  | reads (name : String)
  /-- Calls a handler. -/
  | calls (handler : String)
  /-- Branches on an opcode. -/
  | accepts (opcode : Int)
  /-- Leaves the rest of the message to a routine. -/
  | enters (routine : String)
  deriving DecidableEq, Repr

/-! ## Shapes of lines -/

/-- The characters of identifiers, raw or not, and of numbers. -/
def isWordChar (c : Char) : Bool :=
  isIdentifierChar c || c == '#' || c == '-'

/-- A shape of lines: one word counts, and the text around it has to be right. -/
structure Shape where
  /-- What follows the text before the word, if the line starts with that. -/
  opening : List Char → Option (List Char)
  /-- Whether the text after the word is right. -/
  closing : List Char → Bool
  /-- What the word stands for. -/
  mark : String → Option Mark

namespace Shape

@[simp] def read? (shape : Shape) (line : List Char) : Option Mark :=
  match shape.opening line with
  | none => none
  | some rest =>
    if shape.closing (rest.dropWhile isWordChar) then
      shape.mark (String.ofList (rest.takeWhile isWordChar))
    else none

/-- A text that is written out, with its characters. -/
inductive Written : String → List Char → Type
  | mk (cs : List Char) : Written (String.ofList cs) cs

/-- The characters of a text, found once and for all where the text is written. -/
@[simp] def chars (text : String) {cs : List Char} (_ : Written text cs := by exact .mk _) :
    List Char := cs

/-- The line starts with this text. -/
@[simp] def after (text : List Char) (line : List Char) : Option (List Char) :=
  line.dropPrefix? text

/-- The line starts with a number. -/
@[simp] def number (line : List Char) : Option (List Char) :=
  if line.head?.any fun c => c.isDigit || c == '-' then some line else none

/-- The line starts with a number and then this text. -/
@[simp] def afterNumber (text : List Char) (line : List Char) : Option (List Char) :=
  (number line).bind fun line => after text (line.dropWhile isWordChar)

/-- Just this text follows. -/
@[simp] def just (text : List Char) (rest : List Char) : Bool :=
  rest == text

@[simp] def endsIn (text : List Char) (rest : List Char) : Bool :=
  text.reverse.isPrefixOf rest.reverse

/-- A text follows that starts and ends in this way. -/
@[simp] def between (first last : List Char) (rest : List Char) : Bool :=
  first.isPrefixOf rest && endsIn last rest

/-- A text follows that starts in one way and does not end in the other. -/
@[simp] def butNot (first last : List Char) (rest : List Char) : Bool :=
  first.isPrefixOf rest && !endsIn last rest

end Shape

/-- The marks a line leaves, whatever its indentation. -/
def readLine (shapes : List Shape) (line : List Char) : List Mark :=
  shapes.flatMap fun shape => (shape.read? (line.dropWhile isBlank)).toList

/-- The marks of all lines of a text, in order. -/
def outlineOf (shapes : List Shape) (text : String) : List Mark :=
  (lines text).flatMap fun line => readLine shapes line.toList

/-! ## Words in lines -/

def IsWordText (word : String) : Prop :=
  ∀ c ∈ word.toList, isWordChar c = true

theorem IsPlain.isWordText {word : String} (h : IsPlain word) : IsWordText word := by
  intro c hc
  simp [isWordChar, h c hc]

/-- A word that is written out. -/
theorem IsWordText.lit {cs : List Char} (h : cs.all isWordChar = true) :
    IsWordText (String.ofList cs) := by
  rw [IsWordText, String.toList_ofList]
  exact List.all_eq_true.mp h

theorem IsWordText.append {a b : String} (ha : IsWordText a) (hb : IsWordText b) :
    IsWordText (a ++ b) := by
  intro c hc
  rw [String.toList_append, List.mem_append] at hc
  exact hc.elim (ha c) (hb c)

theorem IsWordText.isClean {word : String} (h : IsWordText word) : isClean word = true := by
  rw [Layout.isClean, List.all_eq_true]
  intro c hc
  have hword := h c hc
  by_cases hfeed : c = '\n'
  · simp [hfeed, show isWordChar '\n' = false from rfl] at hword
  · by_cases hreturn : c = '\r'
    · simp [hreturn, show isWordChar '\r' = false from rfl] at hword
    · simp [hfeed, hreturn]

section Words

variable {word : String} {d : Char}

theorem takeWhile_word (h : IsWordText word) (hd : isWordChar d = false) (rest : List Char) :
    (word.toList ++ d :: rest).takeWhile isWordChar = word.toList := by
  rw [List.takeWhile_append_of_pos h]
  simp [hd]

theorem dropWhile_word (h : IsWordText word) (hd : isWordChar d = false) (rest : List Char) :
    (word.toList ++ d :: rest).dropWhile isWordChar = d :: rest := by
  rw [List.dropWhile_append_of_pos h]
  simp [hd]

/-- A word is not taken for a text in which another character follows on the word. -/
theorem dropPrefix?_word (h : IsWordText word) (hd : isWordChar d = false) (rest : List Char)
    {text : List Char} (hne : text.dropWhile isWordChar ≠ [])
    (hhead : (text.dropWhile isWordChar).head? ≠ some d) :
    (word.toList ++ d :: rest).dropPrefix? text = none := by
  refine Option.eq_none_iff_forall_ne_some.mpr fun left hleft => ?_
  obtain ⟨taken, hline, htaken⟩ := List.dropPrefix?_eq_some_iff.mp hleft
  obtain rfl := eq_of_beq htaken
  have hdrop := congrArg (List.dropWhile isWordChar) hline
  rw [dropWhile_word h hd, List.dropWhile_append, if_neg (by simpa using hne)] at hdrop
  have hfirst := congrArg List.head? hdrop
  rw [List.head?_cons, List.head?_append_of_ne_nil _ hne] at hfirst
  exact hhead hfirst.symm

end Words

theorem isBlank_of_isDigit {c : Char} (h : c.isDigit = true) : isBlank c = false := by
  rw [isDigit_iff] at h
  simp [isBlank]
  omega

namespace Opcode

variable (opcode : Opcode)

theorem toInt?_digits : opcode.digits.toInt? = some opcode.toInt :=
  Int.toInt?_repr _

/-- The first character of the digits is one of them or a minus sign. -/
theorem toList_digits : ∃ c cs, opcode.digits.toList = c :: cs ∧ (c.isDigit = true ∨ c = '-') ∧
    ∀ c ∈ cs, c.isDigit = true := by
  have hnat : ∀ n : Nat, ∃ c cs, n.repr.toList = c :: cs ∧ ∀ d ∈ c :: cs, d.isDigit = true := by
    intro n
    rw [Nat.toList_repr]
    obtain ⟨c, cs, hcs⟩ := List.exists_cons_of_ne_nil (@Nat.toDigits_ne_nil n 10)
    refine ⟨c, cs, hcs, fun d hd => ?_⟩
    rw [← hcs] at hd
    exact Nat.isDigit_of_mem_toDigits (by decide) (by decide) hd
  rw [digits, show toString opcode.toInt = opcode.toInt.repr from rfl, Int.repr_eq_if]
  split
  · obtain ⟨c, cs, hcs, hdigits⟩ := hnat opcode.toInt.toNat
    obtain ⟨hc, hrest⟩ := List.forall_mem_cons.mp hdigits
    exact ⟨c, cs, hcs, .inl hc, hrest⟩
  · obtain ⟨c, cs, hcs, hdigits⟩ := hnat (-opcode.toInt).toNat
    refine ⟨'-', c :: cs, ?_, .inr rfl, hdigits⟩
    rw [String.toList_append, hcs]
    rfl

theorem isWordText_digits : IsWordText opcode.digits := by
  obtain ⟨c, cs, hcs, hc, hrest⟩ := opcode.toList_digits
  have hword : ∀ d : Char, d.isDigit = true → isWordChar d = true := by
    intro d hd
    simp [isWordChar, isIdentifierChar, isAlphanum_iff, hd]
  rw [IsWordText, hcs, List.forall_mem_cons]
  refine ⟨?_, fun d hd => hword d (hrest d hd)⟩
  rcases hc with hc | rfl
  · exact hword c hc
  · rfl

end Opcode

/-! ## Outlines of scripts -/

/-- The characters of a text in which no line ends. -/
structure Spells (text : String) (cs : List Char) : Prop where
  toList : text.toList = cs
  clean : isClean text = true

namespace Spells

variable {a b : String} {cs ds : List Char}

/-- A text that is written out. -/
theorem lit (h : cs.all (fun c => c != '\n' && c != '\r') = true) :
    Spells (String.ofList cs) cs where
  toList := String.toList_ofList
  clean := by rwa [isClean, String.toList_ofList]

theorem var (h : isClean a = true) : Spells a a.toList :=
  ⟨rfl, h⟩

theorem append (ha : Spells a cs) (hb : Spells b ds) : Spells (a ++ b) (cs ++ ds) where
  toList := by rw [String.toList_append, ha.toList, hb.toList]
  clean := by rw [isClean_append, ha.clean, hb.clean, Bool.and_true]

end Spells

/-- The marks of a line of a script. -/
def Layout.Line.marks (shapes : List Shape) (line : Line) : List Mark :=
  readLine shapes line.content.toList

/-- **Reading a script.** If marks are read off a script, they are the outline of its text. -/
theorem outlineOf_of_reads {shapes : List Shape} {script : List Step} {marks : List Mark}
    (h : Reads (Line.marks shapes) script marks) {indentation : String}
    (hclean : isClean indentation = true) (hblank : isBlankText indentation = true) :
    ∃ text, render? indentation none script = some text ∧ outlineOf shapes text = marks := by
  have hblanks : ∀ cs, readLine shapes (cs.dropWhile isBlank) = readLine shapes cs := by
    intro cs
    simp only [readLine, List.dropWhile_idempotent]
  exact Reads.flatMap_lines hblanks h hclean hblank

theorem Role.isClean_label (role : Role) : isClean role.label = true := by
  cases role <;> exact Spells.clean (.lit rfl)

/-- A text whose lines end in line feeds only. -/
def NoReturn (text : String) : Prop :=
  '\r' ∉ text.toList

theorem NoReturn.lit {cs : List Char} (h : cs.contains '\r' = false) :
    NoReturn (String.ofList cs) := by
  rw [NoReturn, String.toList_ofList]
  simpa using h

theorem NoReturn.append {a b : String} (ha : NoReturn a) (hb : NoReturn b) : NoReturn (a ++ b) := by
  rw [NoReturn, String.toList_append, List.mem_append, not_or]
  exact ⟨ha, hb⟩

theorem isBlankText_of_spells {piece : String} {cs : List Char} (hpiece : Spells piece cs)
    (hvisible : cs.any (fun c => !isBlank c) = true) : isBlankText piece = false := by
  rw [isBlankText, hpiece.toList, ← Bool.not_eq_true, List.all_eq_true]
  intro hblank
  obtain ⟨c, hc, hshown⟩ := List.any_eq_true.mp hvisible
  simp [hblank c hc] at hshown

section Spelled

variable {β : Type} {read : List Char → List β}

/-- What is read off a line of visible text. -/
theorem reads_spelled {piece : String} {cs : List Char} {readings : List β}
    (hpiece : Spells piece cs) (hvisible : cs.any (fun c => !isBlank c) = true)
    (hread : read cs = readings) :
    Reads (fun line => read line.content.toList) [.line piece] readings := by
  rw [← hread, ← hpiece.toList]
  exact Reads.line (isBlankText_of_spells hpiece hvisible) hpiece.clean

/-- Nothing is read off a comment if nothing is read off a line that starts with a slash. -/
theorem reads_slashes (h : ∀ rest, read ('/' :: rest) = []) {text : String}
    (htext : NoReturn text) :
    Reads (fun line => read line.content.toList) [.comment "//" text] [] := by
  have hslashes : Spells "//" ['/', '/'] := (.lit rfl)
  have hspace : Spells " " [' '] := (.lit rfl)
  have hnone : ((lines text).flatMap fun line => read ("//" ++ " " ++ line).toList) = [] := by
    refine List.flatMap_eq_nil_iff.mpr fun line _ => ?_
    rw [String.toList_append, String.toList_append, hslashes.toList]
    exact h _
  rw [← hnone]
  refine Reads.comment (isBlankText_of_spells hslashes rfl) fun line hline => ?_
  exact ((hslashes.append hspace).append (.var (isClean_of_mem_lines htext hline))).clean

end Spelled

/-- A type whose spellings keep a line whole. -/
structure Spelling.IsClean (spelling : Spelling) : Prop where
  simple : Layout.isClean spelling.simple = true
  send : Layout.isClean spelling.send = true
  receive : Layout.isClean spelling.receive = true

theorem Dialect.isClean_spell {dialect : Dialect} (hscalar : ∀ s, (dialect.scalar s).IsClean)
    (hsequence : ∀ element, Layout.isClean element = true → (dialect.sequence element).IsClean)
    (type : ParamType) : (dialect.spell type).IsClean := by
  induction type with
  | scalar s => exact hscalar s
  | repeated element ih => exact hsequence _ ih.simple

section Steps

variable {shapes : List Shape} {marks marks' : List Mark}

/-- A line of visible text, read. -/
theorem reads_line {piece : String} {cs : List Char} (hpiece : Spells piece cs)
    (hvisible : cs.any (fun c => !isBlank c) = true) (hread : readLine shapes cs = marks) :
    Reads (Line.marks shapes) [.line piece] marks :=
  reads_spelled hpiece hvisible hread

/-- A line that is put together around a list of arguments, read. -/
theorem reads_call_line {before separator after : String} {items : List String} {cs ds : List Char}
    (hbefore : Spells before cs) (hvisible : cs.any (fun c => !isBlank c) = true)
    (hitems : isClean (separator.intercalate items) = true) (hafter : Spells after ds)
    (hread : readLine shapes (cs ++ (separator.intercalate items).toList ++ ds) = marks) :
    Reads (Line.marks shapes) [.write before, .separated separator false items, .line after]
      marks := by
  have hline := (hbefore.append (.var hitems)).append hafter
  rw [← hread, ← hline.toList]
  exact Reads.call (isBlankText_of_spells hbefore hvisible) hline.clean

theorem reads_blank (h : readLine shapes [] = []) : Reads (Line.marks shapes) [.blank] [] := by
  rw [← h]
  exact Reads.blank

/-- A comment is read over if nothing is read off a line that starts like one. -/
theorem reads_comment (h : ∀ rest, readLine shapes ('/' :: rest) = []) {text : String}
    (htext : NoReturn text) : Reads (Line.marks shapes) [.comment "//" text] [] :=
  reads_slashes h htext

theorem reads_nested {script : List Step} (h : Reads (Line.marks shapes) script marks) :
    Reads (Line.marks shapes) (nested script) marks :=
  Reads.nested h

/-- A block whose first line is read and whose last line leaves no mark. -/
theorem reads_block (marks : List Mark) {header : String} {cs : List Char} {body : List Step}
    (hpiece : Spells header cs) (hheader : readLine shapes (cs ++ [' ', '\x7b']) = marks)
    (hclosing : readLine shapes ['\x7d'] = []) (hbody : Reads (Line.marks shapes) body marks') :
    Reads (Line.marks shapes) [.block header body] (marks ++ marks') := by
  have hblock : Reads (Line.marks shapes) [.block header body] _ := Reads.block hpiece.clean hbody
  have hopen : (header ++ " \x7b").toList = cs ++ [' ', '\x7b'] :=
    (hpiece.append (.lit rfl : Spells " \x7b" [' ', '\x7b'])).toList
  have hclose : "\x7d".toList = ['\x7d'] := Spells.toList (.lit rfl)
  rwa [Line.marks, hopen, hheader, Line.marks, hclose, hclosing, List.append_nil] at hblock

end Steps

/-! ## Parts -/

/-- Whether a routine, or a branch for an opcode, begins with this mark. -/
def Mark.begins : Mark → Bool
  | .declares _ | .offers _ | .defines _ | .accepts _ => true
  | _ => false

/-- The parts of an outline, each up to where the next begins. -/
def partsOf (marks : List Mark) : List (List Mark) :=
  marks.splitBy fun _ next => !next.begins

/-- Something begins with the first mark and with no other. -/
def IsPart (part : List Mark) : Prop :=
  ∃ first rest, part = first :: rest ∧ first.begins = true ∧ ∀ mark ∈ rest, mark.begins = false

theorem partsOf_flatten {parts : List (List Mark)} (h : ∀ part ∈ parts, IsPart part) :
    partsOf parts.flatten = parts := by
  apply List.splitBy_flatten
  · intro hnil
    obtain ⟨first, rest, hpart, -⟩ := h [] hnil
    cases hpart
  · intro part hpart
    obtain ⟨first, rest, rfl, -, hrest⟩ := h part hpart
    apply List.Pairwise.isChain
    refine List.pairwise_cons.mpr ⟨fun mark hmark => ?_, ?_⟩
    · rw [hrest mark hmark]
      rfl
    · exact List.pairwise_of_forall_mem_list fun _ _ mark hmark => by rw [hrest mark hmark]; rfl
  · apply List.Pairwise.isChain
    refine List.pairwise_of_forall_mem_list fun part hpart next hnext => ?_
    obtain ⟨first, rest, rfl, -⟩ := h part hpart
    obtain ⟨first', rest', rfl, hbegins, -⟩ := h next hnext
    exact ⟨List.cons_ne_nil _ _, List.cons_ne_nil _ _, by rw [List.head_cons, hbegins]; rfl⟩

/-- A routine that sends a message, with the parameters it puts into it. -/
structure Sending where
  routine : String
  opcode : Int
  parameters : List String
  deriving DecidableEq, Repr

/-- A routine that reads variables and calls a handler. -/
structure Reading where
  routine : String
  parameters : List String
  handler : String
  deriving DecidableEq, Repr

/-- A branch for an opcode, with the routine it leads to. -/
structure Arm where
  opcode : Int
  routine : String
  deriving DecidableEq, Repr

namespace Mark

def put? : Mark → Option String
  | .puts parameter => some parameter
  | _ => none

def read? : Mark → Option String
  | .reads name => some name
  | _ => none

def sent? : Mark → Option Int
  | .sends opcode => some opcode
  | _ => none

def accepted? : Mark → Option Int
  | .accepts opcode => some opcode
  | _ => none

def defined? : Mark → Option String
  | .defines routine => some routine
  | _ => none

def declared? : Mark → Option String
  | .declares handler => some handler
  | _ => none

/-- The routine that begins here, whoever may call it. -/
def routine? : Mark → Option String
  | .declares routine | .offers routine | .defines routine => some routine
  | _ => none

end Mark

def sending? : List Mark → Option Sending
  | .offers routine :: .sends opcode :: rest => some ⟨routine, opcode, rest.filterMap Mark.put?⟩
  | _ => none

def reading? : List Mark → Option Reading
  | .defines routine :: rest =>
    match rest.getLast? with
    | some (.calls handler) => some ⟨routine, rest.filterMap Mark.read?, handler⟩
    | _ => none
  | _ => none

def arm? : List Mark → Option Arm
  | [.accepts opcode, .enters routine] => some ⟨opcode, routine⟩
  | _ => none

/-- The routines that send, in order. -/
def sendings (marks : List Mark) : List Sending :=
  (partsOf marks).filterMap sending?

/-- The routines that read and call a handler, in order. -/
def readings (marks : List Mark) : List Reading :=
  (partsOf marks).filterMap reading?

/-- The branches of dispatching, in order. -/
def arms (marks : List Mark) : List Arm :=
  (partsOf marks).filterMap arm?

/-! ## Well-named plans -/

theorem Rpc.WellFormed.parameters {message : Message} (h : message.rpc.WellFormed) :
    ParametersWellFormed message.parameters := by
  unfold Message.parameters
  split
  · exact h.2.1
  · exact h.2.2

namespace RolePlan

/-- All names in a plan are identifiers. -/
def WellNamed (plan : RolePlan) : Prop :=
  isIdentifier plan.interface.name.toList = true ∧
    ∀ message ∈ plan.incoming ++ plan.outgoing, message.rpc.WellFormed

namespace WellNamed

variable {plan : RolePlan} {message : Message} (h : plan.WellNamed)
include h

theorem incoming (hmessage : message ∈ plan.incoming) : message.rpc.WellFormed :=
  h.2 message (List.mem_append_left _ hmessage)

theorem outgoing (hmessage : message ∈ plan.outgoing) : message.rpc.WellFormed :=
  h.2 message (List.mem_append_right _ hmessage)

end WellNamed

end RolePlan

/-! ## The outline of a plan -/

section Lists

variable {α β γ : Type} {f : β → Option γ} {g : α → β} {k : α → γ}

theorem filterMap_map_some (h : ∀ a, f (g a) = some (k a)) (items : List α) :
    (items.map g).filterMap f = items.map k := by
  rw [List.filterMap_map, show f ∘ g = some ∘ k from funext h, List.filterMap_eq_map]

theorem filterMap_map_none (h : ∀ a, f (g a) = none) (items : List α) :
    (items.map g).filterMap f = [] := by
  rw [List.filterMap_map, List.filterMap_eq_nil_iff]
  exact fun a _ => h a

end Lists

namespace Naming

variable (naming : Naming) (message : Message)

/-- The parameters of a message as generated code writes them. -/
def rendered : List String :=
  (naming.parameters message).map Prod.snd

theorem map_rendered (mark : String → Mark) :
    (naming.rendered message).map mark =
      message.parameters.flatMap fun p => [mark (naming.parameter p.name)] := by
  rw [rendered, parameters, List.map_map, List.map_map, List.map_eq_flatMap]
  rfl

/-- The routine that sends a message. -/
def sending : Sending :=
  ⟨naming.sender message, message.opcode.toInt, naming.rendered message⟩

/-- The routine that reads a message. -/
def reading : Reading :=
  ⟨naming.reader message, naming.rendered message, naming.handler message⟩

/-- The branch for a message. -/
def arm : Arm :=
  ⟨message.opcode.toInt, naming.reader message⟩

def senderPart : List Mark :=
  .offers (naming.sender message) :: .sends message.opcode.toInt ::
    (naming.rendered message).map .puts

def readerPart : List Mark :=
  .defines (naming.reader message) ::
    ((naming.rendered message).map .reads ++ [.calls (naming.handler message)])

def armPart : List Mark :=
  [.accepts message.opcode.toInt, .enters (naming.reader message)]

theorem arm?_armPart : arm? (naming.armPart message) = some (naming.arm message) :=
  rfl

theorem sending?_senderPart :
    sending? (naming.senderPart message) = some (naming.sending message) := by
  have hputs := @filterMap_map_some _ _ _ Mark.put? Mark.puts id (fun _ => rfl)
  rw [senderPart, sending?, hputs, List.map_id, sending]

theorem reading?_readerPart :
    reading? (naming.readerPart message) = some (naming.reading message) := by
  have hreads := @filterMap_map_some _ _ _ Mark.read? Mark.reads id (fun _ => rfl)
  simp [readerPart, reading?, List.filterMap_append, hreads, Mark.read?, reading]

end Naming

/-- What stands in generated code apart from the routines of the messages. -/
structure Frame where
  naming : Naming
  /-- The routines for the user to call that send nothing. -/
  provided : List String
  /-- The routine that reads an opcode and branches on it. -/
  dispatcher : String
  /-- The variable the opcode is read into. -/
  opcode : String

namespace Frame

variable (frame : Frame) (plan : RolePlan)

/-- The outline that code for a plan should have, in parts. -/
def parts : List (List Mark) :=
  plan.incoming.map (fun message => [.declares (frame.naming.handler message)]) ++
  plan.outgoing.map frame.naming.senderPart ++
  frame.provided.map (fun routine => [.offers routine]) ++
  plan.incoming.map frame.naming.readerPart ++
  [[.defines frame.dispatcher, .reads frame.opcode]] ++
  plan.incoming.map frame.naming.armPart

def outline : List Mark :=
  (frame.parts plan).flatten

theorem isPart_of_mem_parts : ∀ part ∈ frame.parts plan, IsPart part := by
  simp only [parts, List.forall_mem_append, List.forall_mem_map, List.forall_mem_singleton]
  refine ⟨⟨⟨⟨⟨?_, ?_⟩, ?_⟩, ?_⟩, ?_⟩, ?_⟩
  · exact fun message _ => ⟨_, _, rfl, rfl, by simp⟩
  · refine fun message _ => ⟨_, _, rfl, rfl, ?_⟩
    simp [Mark.begins]
  · exact fun routine _ => ⟨_, _, rfl, rfl, by simp⟩
  · refine fun message _ => ⟨_, _, rfl, rfl, ?_⟩
    rintro mark hmark
    rcases List.mem_append.mp hmark with hmark | hmark
    · obtain ⟨_, -, rfl⟩ := List.mem_map.mp hmark
      rfl
    · rw [List.mem_singleton.mp hmark]
      rfl
  · exact ⟨_, _, rfl, rfl, by simp [Mark.begins]⟩
  · exact fun message _ => ⟨_, _, rfl, rfl, by simp [Mark.begins]⟩

theorem partsOf_outline : partsOf (frame.outline plan) = frame.parts plan :=
  partsOf_flatten (frame.isPart_of_mem_parts plan)

theorem sendings_outline :
    sendings (frame.outline plan) = plan.outgoing.map frame.naming.sending := by
  rw [sendings, partsOf_outline, parts]
  simp only [List.filterMap_append]
  rw [filterMap_map_none fun _ => rfl, filterMap_map_some frame.naming.sending?_senderPart,
    filterMap_map_none fun _ => rfl, filterMap_map_none fun _ => rfl,
    filterMap_map_none fun _ => rfl]
  simp [sending?]

theorem readings_outline :
    readings (frame.outline plan) = plan.incoming.map frame.naming.reading := by
  rw [readings, partsOf_outline, parts]
  simp only [List.filterMap_append]
  rw [filterMap_map_none fun _ => rfl, filterMap_map_none fun _ => rfl,
    filterMap_map_none fun _ => rfl, filterMap_map_some frame.naming.reading?_readerPart,
    filterMap_map_none fun _ => rfl]
  simp [reading?]

theorem arms_outline : arms (frame.outline plan) = plan.incoming.map frame.naming.arm := by
  rw [arms, partsOf_outline, parts]
  simp only [List.filterMap_append]
  rw [filterMap_map_none fun _ => rfl, filterMap_map_none fun _ => rfl,
    filterMap_map_none fun _ => rfl, filterMap_map_none fun _ => rfl,
    filterMap_map_some frame.naming.arm?_armPart]
  simp [arm?]

theorem outline_eq : frame.outline plan =
    plan.incoming.map (fun message => Mark.declares (frame.naming.handler message)) ++
    plan.outgoing.flatMap frame.naming.senderPart ++
    frame.provided.map Mark.offers ++
    plan.incoming.flatMap frame.naming.readerPart ++
    [.defines frame.dispatcher, .reads frame.opcode] ++
    plan.incoming.flatMap frame.naming.armPart := by
  simp only [outline, parts, List.flatten_append, ← List.flatMap_def, List.flatten_singleton,
    ← List.map_eq_flatMap]

/-- A question to the marks of an outline that only those answer which begin something or send. -/
theorem filterMap_outline {β : Type} {say : Mark → Option β} (hputs : ∀ p, say (.puts p) = none)
    (hreads : ∀ p, say (.reads p) = none) (hcalls : ∀ h, say (.calls h) = none)
    (henters : ∀ r, say (.enters r) = none) :
    (frame.outline plan).filterMap say =
      plan.incoming.filterMap (fun message => say (.declares (frame.naming.handler message))) ++
      plan.outgoing.flatMap (fun message => (say (.offers (frame.naming.sender message))).toList ++
        (say (.sends message.opcode.toInt)).toList) ++
      frame.provided.filterMap (fun routine => say (.offers routine)) ++
      plan.incoming.filterMap (fun message => say (.defines (frame.naming.reader message))) ++
      (say (.defines frame.dispatcher)).toList ++
      plan.incoming.filterMap (fun message => say (.accepts message.opcode.toInt)) := by
  have hsender : ∀ message, (frame.naming.senderPart message).filterMap say =
      (say (.offers (frame.naming.sender message))).toList ++
        (say (.sends message.opcode.toInt)).toList := by
    intro message
    rw [Naming.senderPart, List.filterMap_cons, List.filterMap_cons, filterMap_map_none hputs]
    cases say (.offers (frame.naming.sender message)) <;>
      cases say (.sends message.opcode.toInt) <;> rfl
  have hreader : ∀ message, (frame.naming.readerPart message).filterMap say =
      (say (.defines (frame.naming.reader message))).toList := by
    intro message
    rw [Naming.readerPart, List.filterMap_cons, List.filterMap_append, filterMap_map_none hreads,
      List.filterMap_cons, hcalls]
    cases say (.defines (frame.naming.reader message)) <;> rfl
  have harm : ∀ message, (frame.naming.armPart message).filterMap say =
      (say (.accepts message.opcode.toInt)).toList := by
    intro message
    rw [Naming.armPart, List.filterMap_cons, List.filterMap_cons, henters]
    cases say (.accepts message.opcode.toInt) <;> rfl
  rw [outline_eq]
  simp only [List.filterMap_append, List.filterMap_map, List.filterMap_flatMap, hsender, hreader,
    harm, Function.comp_def]
  simp [List.filterMap_eq_flatMap_toList, hreads]

theorem sent_outline : (frame.outline plan).filterMap Mark.sent? =
    plan.outgoing.map fun message => message.opcode.toInt := by
  rw [filterMap_outline _ _ (fun _ => rfl) (fun _ => rfl) (fun _ => rfl) (fun _ => rfl)]
  simp [Mark.sent?, List.map_eq_flatMap]

theorem accepted_outline : (frame.outline plan).filterMap Mark.accepted? =
    plan.incoming.map fun message => message.opcode.toInt := by
  rw [filterMap_outline _ _ (fun _ => rfl) (fun _ => rfl) (fun _ => rfl) (fun _ => rfl)]
  simp [Mark.accepted?]

theorem declared_outline : (frame.outline plan).filterMap Mark.declared? =
    plan.incoming.map frame.naming.handler := by
  rw [filterMap_outline _ _ (fun _ => rfl) (fun _ => rfl) (fun _ => rfl) (fun _ => rfl)]
  simp [Mark.declared?]

theorem defined_outline : (frame.outline plan).filterMap Mark.defined? =
    plan.incoming.map frame.naming.reader ++ [frame.dispatcher] := by
  rw [filterMap_outline _ _ (fun _ => rfl) (fun _ => rfl) (fun _ => rfl) (fun _ => rfl)]
  simp [Mark.defined?]

theorem routines_outline : (frame.outline plan).filterMap Mark.routine? =
    plan.incoming.map frame.naming.handler ++ plan.outgoing.map frame.naming.sender ++
      frame.provided ++ plan.incoming.map frame.naming.reader ++ [frame.dispatcher] := by
  rw [filterMap_outline _ _ (fun _ => rfl) (fun _ => rfl) (fun _ => rfl) (fun _ => rfl)]
  simp [Mark.routine?, List.map_eq_flatMap]

end Frame

end Bindery
