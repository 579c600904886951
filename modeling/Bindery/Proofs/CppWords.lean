import Bindery.Proofs.CppOutline

/-!
# Words of C++ classes

An outline tells what the routines of a class do, but passes over their types and over all they have
in common. Whether a name can be mistaken for another takes more: every word of a routine, in the
order in which they stand (`wordsOf`).

**Words.** The words of a text are the identifiers in it, comments left out. Where two pieces of
text meet at a character that belongs to no word, the words of both are those of the whole
(`Lexes.after`, `Lexes.before`, `Lexes.between`).

**Routines.** Some words of a routine are its parameters and the others mean something else; in the
text they look alike. A `Routine` has its words with that difference, so it can be said of a text
which words come from where.

Main result: `wordsOf_classLayout`.
-/

namespace Bindery

open Layout Text

/-! ## Words of a text -/

/-- Whether a character belongs to no word. -/
def endsWord (c : Char) : Bool :=
  !isIdentifierChar c

/-- The identifiers in a text, in order. -/
def identifiersIn (cs : List Char) : List String :=
  ((cs.splitOnP endsWord).filter isIdentifier).map String.ofList

/-- The words of a line, none if it is a comment. -/
def lineWords (line : List Char) : List String :=
  match line.dropWhile isBlank with
  | '/' :: _ => []
  | code => identifiersIn code

/-- The words of a text, line by line. -/
def wordsOf (text : String) : List String :=
  (lines text).flatMap fun line => lineWords line.toList

section Identifiers

variable {cs ds : List Char}

theorem identifiersIn_append_cons {d : Char} (h : endsWord d = true) :
    identifiersIn (cs ++ d :: ds) = identifiersIn cs ++ identifiersIn ds := by
  simp only [identifiersIn, List.splitOnP_append_cons _ _ h, List.filter_append, List.map_append]

/-- The second text starts with a character that belongs to no word. -/
theorem identifiersIn_append_of_head (h : ds.head?.any endsWord = true) :
    identifiersIn (cs ++ ds) = identifiersIn cs ++ identifiersIn ds := by
  cases ds with
  | nil => simp at h
  | cons d ds =>
    have hd : endsWord d = true := by simpa using h
    have hnone : identifiersIn (d :: ds) = identifiersIn ds := @identifiersIn_append_cons [] ds d hd
    rw [identifiersIn_append_cons hd, hnone]

/-- The first text ends with a character that belongs to no word. -/
theorem identifiersIn_append_of_getLast (h : cs.getLast?.any endsWord = true) :
    identifiersIn (cs ++ ds) = identifiersIn cs ++ identifiersIn ds := by
  cases hlast : cs.getLast? with
  | none => simp [hlast] at h
  | some d =>
    have hd : endsWord d = true := by simpa [hlast] using h
    obtain ⟨front, rfl⟩ := List.getLast?_eq_some_iff.mp hlast
    have hnone : identifiersIn (front ++ [d]) = identifiersIn front := by
      rw [identifiersIn_append_cons hd]
      exact List.append_nil _
    rw [List.append_assoc, List.singleton_append, identifiersIn_append_cons hd, hnone]

theorem identifiersIn_of_isPlain (h : ∀ c ∈ cs, isIdentifierChar c = true) :
    identifiersIn cs = if isIdentifier cs then [String.ofList cs] else [] := by
  have hcs : ∀ c ∈ cs, endsWord c = false := by
    intro c hc
    simp [endsWord, h c hc]
  rw [identifiersIn, List.splitOnP_eq_singleton hcs]
  by_cases hidentifier : isIdentifier cs = true <;> simp [hidentifier]

/-- Numbers are no words. -/
theorem identifiersIn_digits (opcode : Opcode) : identifiersIn opcode.digits.toList = [] := by
  have hdigits : ∀ {cs : List Char}, (∀ c ∈ cs, c.isDigit = true) → identifiersIn cs = [] := by
    intro cs hcs
    rw [identifiersIn_of_isPlain fun c hc => by simp [isIdentifierChar, isAlphanum_iff, hcs c hc]]
    cases cs with
    | nil => rfl
    | cons c cs =>
      have hc := hcs c List.mem_cons_self
      rw [if_neg]
      simp [isIdentifier_iff, startsWithDigit, hc]
  obtain ⟨c, cs, heq, hc, hrest⟩ := opcode.toList_digits
  rw [heq]
  rcases hc with hc | rfl
  · exact hdigits (List.forall_mem_cons.mpr ⟨hc, hrest⟩)
  · rw [show '-' :: cs = [] ++ '-' :: cs from rfl, identifiersIn_append_cons (by decide),
      hdigits hrest]
    rfl

end Identifiers

theorem isIdentifier_append {a b : String} (ha : isIdentifier a.toList = true) (hb : IsPlain b) :
    isIdentifier (a ++ b).toList = true := by
  obtain ⟨hne, hdigit, hplain⟩ := isIdentifier_iff.mp ha
  obtain ⟨c, cs, hcs⟩ := List.exists_cons_of_ne_nil hne
  refine isIdentifier_iff.mpr ⟨?_, ?_, IsPlain.append hplain hb⟩
  · simp [hcs]
  · rw [hcs] at hdigit
    simpa [hcs, startsWithDigit] using hdigit

/-! ## Words of pieces -/

/-- The characters of a piece of a line and the words among them. -/
structure Lexes (text : String) (cs : List Char) (words : List String) : Prop
    extends Spells text cs where
  words_eq : identifiersIn cs = words

namespace Lexes

variable {a b m : String} {cs ds es : List Char} {words words' words'' : List String}

/-- A text that is written out. -/
theorem lit (words : List String) (hclean : cs.all (fun c => c != '\n' && c != '\r') = true)
    (hwords : identifiersIn cs = words) : Lexes (String.ofList cs) cs words :=
  ⟨.lit hclean, hwords⟩

/-- A single word. -/
theorem word (h : isIdentifier a.toList = true) : Lexes a a.toList [a] where
  toSpells := .var (isPlain_of_isIdentifier h).isWordText.isClean
  words_eq := by rw [identifiersIn_of_isPlain (isPlain_of_isIdentifier h), if_pos h,
    String.ofList_toList]

theorem digits (opcode : Opcode) : Lexes opcode.digits opcode.digits.toList [] :=
  ⟨.var opcode.isWordText_digits.isClean, identifiersIn_digits opcode⟩

/-- The same without the characters. -/
theorem plain (h : Lexes a cs words) : Lexes a a.toList words := by
  rwa [h.toList]

/-- A piece after one that ends outside of words. -/
theorem after (ha : Lexes a cs words) (hb : Lexes b ds words')
    (hends : cs.getLast?.any endsWord = true) :
    Lexes (a ++ b) (cs ++ ds) (words ++ words') where
  toSpells := ha.toSpells.append hb.toSpells
  words_eq := by rw [identifiersIn_append_of_getLast hends, ha.words_eq, hb.words_eq]

/-- A piece before one that starts outside of words. -/
theorem before (ha : Lexes a cs words) (hb : Lexes b ds words')
    (hstarts : ds.head?.any endsWord = true) :
    Lexes (a ++ b) (cs ++ ds) (words ++ words') where
  toSpells := ha.toSpells.append hb.toSpells
  words_eq := by rw [identifiersIn_append_of_head hstarts, ha.words_eq, hb.words_eq]

/-- Two pieces around one that starts and ends outside of words. -/
theorem between (ha : Lexes a cs words) (hm : Lexes m ds words') (hb : Lexes b es words'')
    (hstarts : ds.head?.any endsWord = true)
    (hends : ds.getLast?.any endsWord = true) :
    Lexes (a ++ m ++ b) (cs ++ ds ++ es) (words ++ words' ++ words'') := by
  have hrest := hm.after hb hends
  rw [String.append_assoc, List.append_assoc, List.append_assoc]
  refine ha.before hrest ?_
  cases ds with
  | nil => simp at hstarts
  | cons d ds => exact hstarts

theorem intercalate {α : Type} {piece : α → String} {words : α → List String} {items : List α}
    (h : ∀ item ∈ items, Lexes (piece item) (piece item).toList (words item)) :
    Lexes (", ".intercalate (items.map piece)) (", ".intercalate (items.map piece)).toList
      (items.flatMap words) := by
  have hcomma : Lexes ", " [',', ' '] [] := lit [] rfl rfl
  induction items with
  | nil => exact (lit [] rfl rfl : Lexes "" [] []).plain
  | cons item rest ih =>
    obtain ⟨hitem, hrest⟩ := List.forall_mem_cons.mp h
    cases rest with
    | nil => simpa using hitem
    | cons next rest =>
      rw [List.map_cons, List.map_cons, String.intercalate_cons_cons, List.flatMap_cons]
      have hboth := (hitem.between hcomma (ih hrest) rfl rfl).plain
      rwa [List.append_nil] at hboth

end Lexes

/-- The words of a line of a script. -/
def Layout.Line.words (line : Line) : List String :=
  lineWords line.content.toList

section Steps

variable {piece : String} {cs : List Char} {words words' : List String}

/-- The text starts with a character that can be seen and starts no comment. -/
def startsCode : List Char → Bool
  | [] => false
  | c :: _ => !isBlank c && c != '/'

theorem lineWords_of_startsCode (h : startsCode cs = true) : lineWords cs = identifiersIn cs := by
  cases cs with
  | nil => simp [startsCode] at h
  | cons c cs =>
    obtain ⟨hblank, hslash⟩ : isBlank c = false ∧ c ≠ '/' := by simpa [startsCode] using h
    unfold lineWords
    rw [List.dropWhile_cons_of_neg (by simp [hblank])]
    split
    · rename_i heq
      exact absurd (List.cons.inj heq).1 hslash
    · rfl

theorem startsCode_append (h : startsCode cs = true) (ds : List Char) :
    startsCode (cs ++ ds) = true := by
  cases cs with
  | nil => simp [startsCode] at h
  | cons c cs => exact h

theorem any_of_startsCode (h : startsCode cs = true) : cs.any (fun c => !isBlank c) = true := by
  cases cs with
  | nil => simp [startsCode] at h
  | cons c cs =>
    obtain ⟨hblank, -⟩ : isBlank c = false ∧ c ≠ '/' := by simpa [startsCode] using h
    simp [hblank]

theorem words_line (hpiece : Lexes piece cs words) (h : startsCode cs = true) :
    Reads Line.words [.line piece] words := by
  refine reads_spelled hpiece.toSpells (any_of_startsCode h) ?_
  rw [lineWords_of_startsCode h, hpiece.words_eq]

/-- A line that is put together around a list of arguments. -/
theorem words_call {before separator after : String} {items : List String} {ds : List Char}
    (hbefore : Spells before ds) (h : startsCode ds = true)
    (hline : Lexes (before ++ separator.intercalate items ++ after) cs words) :
    Reads Line.words [.write before, .separated separator false items, .line after] words := by
  have hcode : startsCode cs = true := by
    rw [← hline.toList, String.toList_append, String.toList_append, hbefore.toList]
    exact startsCode_append (startsCode_append h _) _
  have hcall : Reads Line.words [.write before, .separated separator false items, .line after] _ :=
    Reads.call (isBlankText_of_spells hbefore (any_of_startsCode h)) hline.clean
  rwa [Line.words, hline.toList, lineWords_of_startsCode hcode, hline.words_eq] at hcall

theorem words_blank : Reads Line.words [.blank] [] :=
  Reads.blank

theorem words_comment {text : String} (htext : NoReturn text) :
    Reads Line.words [.comment "//" text] [] := by
  have hnone : ∀ rest, lineWords ('/' :: rest) = [] := by
    intro rest
    simp [lineWords, isBlank]
  exact reads_slashes hnone htext

theorem words_nested {script : List Step} (h : Reads Line.words script words) :
    Reads Line.words (nested script) words :=
  Reads.nested h

theorem words_block {body : List Step} (hpiece : Lexes piece cs words) (h : startsCode cs = true)
    (hbody : Reads Line.words body words') :
    Reads Line.words [.block piece body] (words ++ words') := by
  have hblock : Reads Line.words [.block piece body] _ := Reads.block hpiece.clean hbody
  have hopen := hpiece.before (.lit [] rfl rfl : Lexes " \x7b" [' ', '\x7b'] []) rfl
  have hclose : "\x7d".toList = ['\x7d'] := Spells.toList (.lit rfl)
  rw [Line.words, hopen.toList, lineWords_of_startsCode (startsCode_append h _), hopen.words_eq,
    Line.words, hclose, List.append_nil] at hblock
  exact hblock.of_eq (List.append_nil _)

end Steps

namespace Cpp

/-! ## Words of routines -/

/-- A word of a routine: one of its parameters, or something else. -/
inductive Word where
  | parameter (name : String)
  | other (name : String)
  deriving DecidableEq, Repr

def Word.text : Word → String
  | .parameter name | .other name => name

/-- A routine: what its first line says, and what is inside. -/
structure Routine where
  head : List Word
  body : List Word
  deriving DecidableEq, Repr

def Routine.words (routine : Routine) : List String :=
  (routine.head ++ routine.body).map Word.text

def scalarWord : Scalar → String
  | .text => "string"
  | .u8 => "uint8_t"
  | .u16 => "uint16_t"
  | .u32 => "uint32_t"

/-- The words of the type of a variable. -/
def typeWords : ParamType → List String
  | .scalar s => [scalarWord s]
  | .repeated element => "vector" :: typeWords element

/-- The words of the type of a parameter that is passed on. -/
def passedWords : ParamType → List String
  | .scalar .text => ["const", "string"]
  | .scalar s => [scalarWord s]
  | .repeated element => "const" :: typeWords (.repeated element)

/-- The words of a list of parameters with their types. -/
def parameterWords (parameters : List Parameter) : List Word :=
  if parameters.isEmpty then [.other "void"]
  else parameters.flatMap fun p =>
    (passedWords p.type).map .other ++ [.parameter (parameterName p.name)]

/-- The declaration of a handler has no body. -/
def handlerRoutine (message : Message) : Routine where
  head := ["virtual", "void", naming.handler message].map .other ++
    parameterWords message.parameters
  body := []

def senderRoutine (message : Message) : Routine where
  head := ["void", naming.sender message].map .other ++ parameterWords message.parameters
  body := ["EncodeToBuffer", "static_cast", "int16_t", "SendCursor"].map .other ++
    message.parameters.flatMap (fun p =>
      [.other "EncodeToBuffer", .parameter (parameterName p.name), .other "SendCursor"]) ++
    [.other "Send"]

/-- Every parameter is a variable here: it is declared, read and handed over. -/
def readerRoutine (message : Message) : Routine where
  head := ["bool", naming.reader message, "OutputCursor", "cursor"].map .other
  body := message.parameters.flatMap (fun p =>
      (typeWords p.type).map .other ++ [.parameter (parameterName p.name)] ++
      ["if", "DecodeFromBuffer", "cursor"].map .other ++ [.parameter (parameterName p.name)] ++
      ["return", "false"].map .other) ++
    [.other (naming.handler message)] ++
    message.parameters.map (fun p => .parameter (parameterName p.name)) ++
    ["return", "true"].map .other

def dispatcherRoutine (messages : List Message) : Routine where
  head := ["int", "Dispatch", "OutputCursor", "cursor"].map .other
  body := ["int16_t", "num", "if", "DecodeFromBuffer", "cursor", "num", "return", "switch",
      "num"].map .other ++
    messages.flatMap (fun message =>
      ["case", "if", naming.reader message, "cursor", "return", "break"].map .other) ++
    ["default", "return", "return"].map .other

/-- The routines for the user of a class. -/
def shownRoutines (plan : RolePlan) : List Routine :=
  plan.incoming.map handlerRoutine ++ plan.outgoing.map senderRoutine

/-- The routines of a class that are out of sight. -/
def hiddenRoutines (plan : RolePlan) : List Routine :=
  plan.incoming.map readerRoutine ++ [dispatcherRoutine plan.incoming]

/-- The words of a class. -/
def classWords (plan : RolePlan) : List String :=
  ["class", className plan.interface.name plan.role, "public", baseClass plan.role, "public"] ++
    (shownRoutines plan).flatMap Routine.words ++ ["private"] ++
    (hiddenRoutines plan).flatMap Routine.words

/-! ## Names and types -/

theorem isIdentifier_parameterName {name : String} (h : isIdentifier name.toList = true) :
    isIdentifier (parameterName name).toList = true := by
  unfold parameterName
  split
  · exact isIdentifier_append h (.lit rfl)
  · exact h

theorem isIdentifier_className {name : String} (h : isIdentifier name.toList = true) (role : Role) :
    isIdentifier (className name role).toList = true := by
  refine isIdentifier_append (isIdentifier_append h ?_) (.lit rfl)
  cases role <;> exact .lit rfl

theorem isIdentifier_baseClass (role : Role) : isIdentifier (baseClass role).toList = true := by
  cases role <;> decide

section Names

variable {message : Message} (h : isIdentifier message.rpc.name.toList = true)
include h

theorem isPlain_legName : IsPlain (message.rpc.name ++ message.leg.label) := by
  refine (isPlain_of_isIdentifier h).append ?_
  cases message.leg <;> exact .lit rfl

theorem isIdentifier_handler : isIdentifier (naming.handler message).toList = true := by
  rw [handler_eq]
  exact isIdentifier_append (by decide) (isPlain_legName h)

theorem isIdentifier_reader : isIdentifier (naming.reader message).toList = true := by
  rw [reader_eq]
  exact isIdentifier_append (by decide) (isPlain_legName h)

theorem isIdentifier_sender : isIdentifier (naming.sender message).toList = true := by
  unfold naming
  dsimp only
  split <;> exact isIdentifier_append (by decide) (isPlain_of_isIdentifier h)

end Names

theorem lexes_simple (type : ParamType) :
    Lexes (dialect.spell type).simple (dialect.spell type).simple.toList (typeWords type) := by
  induction type with
  | scalar s =>
    cases s with
    | text => exact (Lexes.lit ["string"] rfl rfl).plain
    | u8 => exact (Lexes.lit ["uint8_t"] rfl rfl).plain
    | u16 => exact (Lexes.lit ["uint16_t"] rfl rfl).plain
    | u32 => exact (Lexes.lit ["uint32_t"] rfl rfl).plain
  | repeated element ih =>
    have hopen : Lexes "vector<" _ ["vector"] := .lit _ rfl rfl
    have hclose : Lexes ">" _ [] := .lit _ rfl rfl
    have h := ((hopen.after ih rfl).before hclose rfl).plain
    rwa [List.append_nil] at h

theorem lexes_send (type : ParamType) :
    Lexes (dialect.spell type).send (dialect.spell type).send.toList (passedWords type) := by
  cases type with
  | scalar s =>
    cases s with
    | text => exact (Lexes.lit ["const", "string"] rfl rfl).plain
    | u8 => exact lexes_simple (.scalar .u8)
    | u16 => exact lexes_simple (.scalar .u16)
    | u32 => exact lexes_simple (.scalar .u32)
  | repeated element =>
    have hopen : Lexes "const vector<" _ ["const", "vector"] := .lit _ rfl rfl
    have hclose : Lexes ">&" _ [] := .lit _ rfl rfl
    have h := ((hopen.after (lexes_simple element) rfl).before hclose rfl).plain
    rwa [List.append_nil] at h

/-- What is received is passed in the same way. -/
theorem receive_eq_send (type : ParamType) :
    (dialect.spell type).receive = (dialect.spell type).send := by
  cases type with
  | scalar s => cases s <;> rfl
  | repeated element => rfl

theorem lexes_parameterList {parameters : List Parameter} (h : ParametersWellFormed parameters)
    {spelled : Spelling → String}
    (hspelled : ∀ type, spelled (dialect.spell type) = (dialect.spell type).send) :
    Lexes (parameterList spelled parameters) (parameterList spelled parameters).toList
      ((parameterWords parameters).map Word.text) := by
  unfold parameterList parameterWords
  split
  · exact (Lexes.lit ["void"] rfl rfl).plain
  · rw [List.map_flatMap]
    refine Lexes.intercalate fun p hp => ?_
    have hspace : Lexes " " _ [] := .lit _ rfl rfl
    have hword := (lexes_send p.type).between hspace
      (.word (isIdentifier_parameterName (h.1 p hp).1)) rfl rfl
    rw [hspelled]
    convert hword.plain using 1
    simp [Word.text, Function.comp_def]

/-! ## Routines -/

section Routines

variable {message : Message} (h : message.rpc.WellFormed)
include h

theorem isIdentifier_parameter {p : Parameter} (hp : p ∈ message.parameters) :
    isIdentifier (parameterName p.name).toList = true :=
  isIdentifier_parameterName (h.parameters.1 p hp).1

theorem words_handlerDeclaration :
    Reads Line.words [handlerDeclaration message] (handlerRoutine message).words := by
  have hopen : Lexes "virtual void " _ ["virtual", "void"] := .lit _ rfl rfl
  have hparen : Lexes "(" _ [] := .lit _ rfl rfl
  have hend : Lexes ") = 0;" _ [] := .lit _ rfl rfl
  have hlist := lexes_parameterList h.parameters receive_eq_send
  have hline := ((hopen.after (.word (isIdentifier_handler h.1)) rfl).between hparen hlist
    rfl rfl).before hend rfl
  refine (words_line hline rfl).of_eq ?_
  simp [handlerRoutine, Routine.words, Word.text]

theorem words_sender :
    Reads Line.words [sender message] (senderRoutine message).words := by
  have hopen : Lexes "void " _ ["void"] := .lit _ rfl rfl
  have hlist := lexes_parameterList h.parameters (fun _ => rfl : ∀ type, _ = _)
  have hheader := ((hopen.after (.word (isIdentifier_sender h.1)) rfl).between
    (.lit [] rfl rfl : Lexes "(" _ _) hlist rfl rfl).before (.lit [] rfl rfl : Lexes ")" _ _) rfl
  have hcursor : Lexes "), SendCursor());" _ ["SendCursor"] := .lit _ rfl rfl
  have hcast : Lexes "EncodeToBuffer(static_cast<int16_t>(" _
      ["EncodeToBuffer", "static_cast", "int16_t"] := .lit _ rfl rfl
  have hopcode := words_line ((hcast.after (.digits message.opcode) rfl).before hcursor rfl) rfl
  have hputs : Reads Line.words (message.parameters.map fun p =>
      .line ("EncodeToBuffer(" ++ parameterName p.name ++ ", SendCursor());"))
      (message.parameters.flatMap fun p =>
        ["EncodeToBuffer", parameterName p.name, "SendCursor"]) := by
    refine Reads.map fun p hp => ?_
    have hencode : Lexes "EncodeToBuffer(" _ ["EncodeToBuffer"] := .lit _ rfl rfl
    exact words_line ((hencode.after (.word (isIdentifier_parameter h hp)) rfl).before
      (.lit ["SendCursor"] rfl rfl : Lexes ", SendCursor());" _ _) rfl) rfl
  have hsend : Reads Line.words [.line "Send();"] ["Send"] :=
    words_line (.lit _ rfl rfl) rfl
  refine (words_block hheader rfl ((hopcode.append hputs).append hsend)).of_eq ?_
  simp [senderRoutine, Routine.words, Word.text, List.map_flatMap]

theorem words_readParameter {p : Parameter} (hp : p ∈ message.parameters) :
    Reads Line.words (readParameter p)
      (typeWords p.type ++ [parameterName p.name, "if", "DecodeFromBuffer", "cursor",
        parameterName p.name, "return", "false"]) := by
  have hword := Lexes.word (isIdentifier_parameter h hp)
  have hstart : startsCode (dialect.spell p.type).simple.toList = true := by
    obtain ⟨rest, htype⟩ := toList_simple p.type
    rcases htype with htype | htype | htype <;> rw [htype] <;> rfl
  have hspace : Lexes " " _ [] := .lit _ rfl rfl
  have hvariable := words_line (((lexes_simple p.type).between hspace hword rfl rfl).before
    (.lit [] rfl rfl : Lexes ";" _ _) rfl)
    (startsCode_append (startsCode_append (startsCode_append hstart _) _) _)
  have hdecode : Lexes "if (!DecodeFromBuffer(cursor, &" _ ["if", "DecodeFromBuffer", "cursor"] :=
    .lit _ rfl rfl
  have hread := words_line ((hdecode.after hword rfl).before (.lit [] rfl rfl : Lexes "))" _ _) rfl)
    rfl
  have hfailure : Reads Line.words [.line "return false;"] ["return", "false"] :=
    words_line (.lit _ rfl rfl) rfl
  refine ((hvariable.append hread).append (words_nested hfailure)).of_eq ?_
  simp

theorem words_reader :
    Reads Line.words [reader message] (readerRoutine message).words := by
  have hopen : Lexes "bool " _ ["bool"] := .lit _ rfl rfl
  have hcursor : Lexes "(OutputCursor* cursor)" _ ["OutputCursor", "cursor"] := .lit _ rfl rfl
  have hheader := (hopen.after (.word (isIdentifier_reader h.1)) rfl).before hcursor rfl
  have hreads : Reads Line.words (message.parameters.flatMap readParameter) _ :=
    Reads.flatMap fun p hp => words_readParameter h hp
  have hhandler := Lexes.word (isIdentifier_handler h.1)
  have hparen : Lexes "(" _ [] := .lit _ rfl rfl
  have harguments := Lexes.intercalate fun p hp => Lexes.word (isIdentifier_parameter h hp)
  have hstart : startsCode (naming.handler message).toList = true := by
    rw [handler_eq, String.toList_append, Spells.toList (.lit rfl : Spells "Process" _)]
    rfl
  have hcall := words_call (hhandler.before hparen rfl).toSpells (startsCode_append hstart _)
    ((hhandler.between hparen harguments rfl rfl).before (.lit [] rfl rfl : Lexes ");" _ _) rfl)
  have hend : Reads Line.words [.line "return true;"] ["return", "true"] :=
    words_line (.lit _ rfl rfl) rfl
  refine (words_block hheader rfl (hreads.append (hcall.append hend))).of_eq ?_
  simp [readerRoutine, Routine.words, Word.text, List.map_flatMap, Function.comp_def,
    ← List.map_eq_flatMap]

end Routines

/-- A line that returns a number. -/
theorem words_return {number : String} {cs : List Char} (h : Lexes number cs []) :
    Reads Line.words [.line ("return " ++ number ++ ";")] ["return"] := by
  have hreturn : Lexes "return " _ ["return"] := .lit _ rfl rfl
  have hsemicolon : Lexes ";" _ [] := .lit _ rfl rfl
  exact words_line ((hreturn.after h rfl).before hsemicolon rfl) rfl

theorem words_dispatchCase {message : Message} (h : message.rpc.WellFormed) :
    Reads Line.words (dispatchCase message)
      ["case", "if", naming.reader message, "cursor", "return", "break"] := by
  have hcase : Lexes "case " _ ["case"] := .lit _ rfl rfl
  have hlabel := words_line ((hcase.after (.digits message.opcode) rfl).before
    (.lit [] rfl rfl : Lexes ":" _ _) rfl) rfl
  have hif : Lexes "if (!" _ ["if"] := .lit _ rfl rfl
  have hcursor : Lexes "(cursor))" _ ["cursor"] := .lit _ rfl rfl
  have hreader := Lexes.word (isIdentifier_reader h.1)
  have henter := words_line ((hif.after hreader rfl).before hcursor rfl) rfl
  have hfailure := words_return (.lit [] rfl rfl : Lexes "-1" _ _)
  have hbreak : Reads Line.words [.line "break;"] ["break"] := words_line (.lit _ rfl rfl) rfl
  rw [dispatchCase, toString_decodeFailed]
  exact hlabel.append (words_nested ((henter.append (words_nested hfailure)).append
    (hbreak.append words_blank)))

theorem words_dispatcher {messages : List Message}
    (h : ∀ message ∈ messages, message.rpc.WellFormed) :
    Reads Line.words [dispatcher messages] (dispatcherRoutine messages).words := by
  have hnumber : Reads Line.words [.line "int16_t num;"] ["int16_t", "num"] :=
    words_line (.lit _ rfl rfl) rfl
  have hopcode : Reads Line.words [.line "if (!DecodeFromBuffer(cursor, &num))"]
      ["if", "DecodeFromBuffer", "cursor", "num"] := words_line (.lit _ rfl rfl) rfl
  have hfailure := words_return (.lit [] rfl rfl : Lexes "-1" _ _)
  have hcases : Reads Line.words (messages.flatMap dispatchCase) _ :=
    Reads.flatMap fun message hmessage => words_dispatchCase (h message hmessage)
  have hdefault : Reads Line.words [.line "default:"] ["default"] :=
    words_line (.lit _ rfl rfl) rfl
  have hunknown := words_return (.lit [] rfl rfl : Lexes "-2" _ _)
  have hswitch : Lexes "switch (num)" _ ["switch", "num"] := .lit _ rfl rfl
  have hbranches := words_block hswitch rfl
    ((hcases.append hdefault).append (words_nested hunknown))
  have hend : Reads Line.words [.line "return 0;"] ["return"] := words_line (.lit _ rfl rfl) rfl
  have hheader : Lexes "int Dispatch(OutputCursor* cursor)" _
    ["int", "Dispatch", "OutputCursor", "cursor"] := .lit _ rfl rfl
  rw [dispatcher, toString_decodeFailed, toString_unknownOpcode]
  refine (words_block hheader rfl (((hnumber.append hopcode).append (words_nested hfailure)).append
    (words_blank.append (hbranches.append (words_blank.append hend))))).of_eq ?_
  simp [dispatcherRoutine, Routine.words, Word.text, List.map_flatMap]

/-! ## Classes -/

section Classes

variable {plan : RolePlan} (h : plan.WellNamed)
include h

theorem words_classLayout : Reads Line.words (classLayout plan) (classWords plan) := by
  have hopen : Lexes "class " _ ["class"] := .lit _ rfl rfl
  have hbase : Lexes " : public " _ ["public"] := .lit _ rfl rfl
  have hname := Lexes.word (isIdentifier_className h.1 plan.role)
  have hclass := words_line (((hopen.after hname rfl).between hbase
    (.word (isIdentifier_baseClass plan.role)) rfl rfl).before
    (.lit [] rfl rfl : Lexes " \x7b" _ _) rfl) rfl
  have hpublic : Reads Line.words [.line " public:"] ["public"] :=
    reads_spelled (.lit rfl) rfl rfl
  have hcomment : Reads Line.words
      [.comment "//" "Implement these to handle incoming messages."] [] := words_comment (.lit rfl)
  have hhandlers : Reads Line.words (plan.incoming.map handlerDeclaration) _ :=
    Reads.map fun message hmessage => words_handlerDeclaration (h.incoming hmessage)
  have hcomment' : Reads Line.words
      [.comment "//" "Use these to send messages to the peer."] [] := words_comment (.lit rfl)
  have hsenders : Reads Line.words (plan.outgoing.map sender) _ :=
    Reads.map fun message hmessage => words_sender (h.outgoing hmessage)
  have hprivate : Reads Line.words [.line " private:"] ["private"] :=
    reads_spelled (.lit rfl) rfl rfl
  have hcomment'' : Reads Line.words
      [.comment "//" "Generated plumbing, not meant to be called directly."] [] :=
    words_comment (.lit rfl)
  have hreaders : Reads Line.words (plan.incoming.map reader) _ :=
    Reads.map fun message hmessage => words_reader (h.incoming hmessage)
  have hdoc : Reads Line.words [.comment "//" _] [] := words_comment noReturn_dispatcherComment
  have hdispatcher := words_dispatcher fun message hmessage => h.incoming hmessage
  have hend : Reads Line.words [.line "\x7d;"] [] := words_line (.lit _ rfl rfl) rfl
  have hshown := words_nested (((hcomment.append hhandlers).append
    (words_blank.append hcomment')).append hsenders)
  have hhidden := words_nested ((hcomment''.append hreaders).append
    (words_blank.append (hdoc.append hdispatcher)))
  refine (((((hclass.append hpublic).append hshown).append (words_blank.append hprivate)).append
    hhidden).append hend).of_eq ?_
  simp [classWords, shownRoutines, hiddenRoutines, List.flatMap_map]

/-- **C++ classes.** The class for a plan can always be written, and its words are known. -/
theorem wordsOf_classLayout :
    ∃ text, render? Target.cpp.indentation none (classLayout plan) = some text ∧
      wordsOf text = classWords plan := by
  have hblanks : ∀ cs, lineWords (cs.dropWhile isBlank) = lineWords cs := by
    intro cs
    simp only [lineWords, List.dropWhile_idempotent]
  exact Reads.flatMap_lines hblanks (words_classLayout h) (Spells.clean (.lit rfl)) rfl

end Classes

end Cpp

end Bindery
