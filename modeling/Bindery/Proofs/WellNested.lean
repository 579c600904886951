import Bindery.Proofs.CppWords
import Bindery.Proofs.Generation
import Bindery.Proofs.Nesting
import Bindery.Proofs.RustAcceptance

/-!
# Generated text is well nested

Braces are opened and closed by blocks, by lines of their own and by guards that are released at the
right place. This module goes through the routines of both targets and shows that it always comes
out even.

**C++ classes.** Lines may stand anywhere, because branches and access specifiers have an
indentation that no brace accounts for (`Cpp.anywhere`).

**Rust modules.** The indentation is that of the open braces, with one exception, the bound of
`dispatch` (`Rust.aligned`).

Main result: `text_well_nested`.
-/

namespace Bindery

open Layout Text

/-! ## C++ classes -/

namespace Cpp

/-- Lines may stand anywhere. -/
def anywhere : Rule where
  holds _ _ := True
  blank _ := trivial
  deeper _ := trivial

section Lines

variable {before after : Nat}

theorem nests_line {piece : String} {cs : List Char}
    (h : Turns piece cs (braces before) (braces after)) (hends : EndsVisible piece) :
    Nests anywhere before [.line piece] after :=
  .line h hends trivial

/-- Further in without another brace. -/
theorem nests_nested {script : List Step} (h : Nests anywhere before script after) :
    Nests anywhere before (nested script) after := by
  obtain ⟨lines, hdraws, hlines⟩ := h
  refine ⟨_, hdraws.nested, ?_⟩
  clear hdraws
  induction hlines with
  | nil count => exact .nil count
  | cons head tail ih => exact .cons ⟨head.clean, head.turns, head.trimmed, trivial⟩ ih

theorem nests_block {header : String} {cs : List Char} {body : List Step}
    (hheader : Turns header cs [] []) (hbody : Nests anywhere 0 body 0) :
    Nests anywhere 0 [.block header body] 0 :=
  .block hheader trivial trivial hbody

theorem nests_comment {text : String}
    (htext : (Text.lines text).all (fun line => isQuiet line.toList) = true) :
    Nests anywhere before [.comment "//" text] before := by
  have hslashes : Turns "// " _ [] [] := .lit rfl fun _ => rfl
  exact .comment (isBlankText_of_spells (.lit rfl) rfl) hslashes.isLevel htext fun _ => trivial

end Lines

theorem isLevel_simple (type : ParamType) : IsLevel (dialect.spell type).simple := by
  induction type with
  | scalar s => cases s <;> exact (IsWordText.lit rfl).isLevel
  | repeated element ih =>
    have hopen : Turns "vector<" _ [] [] := .lit rfl fun _ => rfl
    have hclose : Turns ">" _ [] [] := .lit rfl fun _ => rfl
    exact ((hopen.append (.level ih)).append hclose).isLevel

theorem isLevel_send (type : ParamType) : IsLevel (dialect.spell type).send := by
  cases type with
  | scalar s =>
    have htext : Turns "const string&" _ [] [] := .lit rfl fun _ => rfl
    cases s with
    | text => exact htext.isLevel
    | u8 => exact isLevel_simple (.scalar .u8)
    | u16 => exact isLevel_simple (.scalar .u16)
    | u32 => exact isLevel_simple (.scalar .u32)
  | repeated element =>
    have hopen : Turns "const vector<" _ [] [] := .lit rfl fun _ => rfl
    have hclose : Turns ">&" _ [] [] := .lit rfl fun _ => rfl
    exact ((hopen.append (.level (isLevel_simple element))).append hclose).isLevel

theorem isLevel_parameterList {spelled : Spelling → String} {parameters : List Parameter}
    (hspelled : ∀ type, IsLevel (spelled (dialect.spell type)))
    (h : ParametersWellFormed parameters) : IsLevel (parameterList spelled parameters) := by
  unfold parameterList
  split
  · exact (IsWordText.lit rfl).isLevel
  · have hcomma : Turns ", " _ [] [] := .lit rfl fun _ => rfl
    refine hcomma.isLevel.intercalate (List.forall_mem_map.mpr fun p hp => ?_)
    have hspace : Turns " " _ [] [] := .lit rfl fun _ => rfl
    have hname := (isWordText_parameterName (h.1 p hp).1).isLevel
    exact (((Turns.level (hspelled p.type)).append hspace).append (.level hname)).isLevel

section Routines

variable {message : Message} (h : message.rpc.WellFormed)
include h

theorem nests_handlerDeclaration : Nests anywhere 0 [handlerDeclaration message] 0 := by
  have hstart : Turns "virtual void " _ [] [] := .lit rfl fun _ => rfl
  have hopen : Turns "(" _ [] ['('] := .lit rfl fun _ => rfl
  have hlist : ∀ type, IsLevel (dialect.spell type).receive := by
    intro type
    rw [receive_eq_send]
    exact isLevel_send type
  have hclose : Turns ") = 0;" _ ['('] [] := .lit rfl fun _ => rfl
  exact nests_line ((((hstart.append (.level (isWordText_handler h.1).isLevel)).append hopen).append
    (.level (isLevel_parameterList hlist h.parameters))).append hclose) (.append _ (.lit rfl))

theorem isLevel_parameter {p : Parameter} (hp : p ∈ message.parameters) :
    IsLevel (parameterName p.name) :=
  (isWordText_parameterName (h.parameters.1 p hp).1).isLevel

theorem nests_sender : Nests anywhere 0 [sender message] 0 := by
  have hstart : Turns "void " _ [] [] := .lit rfl fun _ => rfl
  have hopen : Turns "(" _ [] ['('] := .lit rfl fun _ => rfl
  have hclose : Turns ")" _ ['('] [] := .lit rfl fun _ => rfl
  have hcast : Turns "EncodeToBuffer(static_cast<int16_t>(" _ [] ['(', '('] :=
    .lit rfl fun _ => rfl
  have hdigits := message.opcode.isWordText_digits.isLevel
  have hcursor : Turns "), SendCursor());" _ ['(', '('] [] := .lit rfl fun _ => rfl
  have hopcode : Nests anywhere 0 [.line _] 0 :=
    nests_line ((hcast.append (.level hdigits)).append hcursor) (.append _ (.lit rfl))
  have hputs : Nests anywhere 0 (message.parameters.map fun p =>
      .line ("EncodeToBuffer(" ++ parameterName p.name ++ ", SendCursor());")) 0 := by
    refine .map fun p hp => ?_
    have hencode : Turns "EncodeToBuffer(" _ [] ['('] := .lit rfl fun _ => rfl
    have hcursor : Turns ", SendCursor());" _ ['('] [] := .lit rfl fun _ => rfl
    exact nests_line ((hencode.append (.level (isLevel_parameter h hp))).append hcursor)
      (.append _ (.lit rfl))
  have hsend : Nests anywhere 0 [.line "Send();"] 0 := nests_line (.lit rfl fun _ => rfl) (.lit rfl)
  exact nests_block ((((hstart.append (.level (isWordText_sender h.1).isLevel)).append hopen).append
    (.level (isLevel_parameterList isLevel_send h.parameters))).append hclose)
    ((hopcode.append hputs).append hsend)

theorem nests_readParameter {p : Parameter} (hp : p ∈ message.parameters) :
    Nests anywhere 0 (readParameter p) 0 := by
  have hname := isLevel_parameter h hp
  have hspace : Turns " " _ [] [] := .lit rfl fun _ => rfl
  have hend : Turns ";" _ [] [] := .lit rfl fun _ => rfl
  have hvariable : Nests anywhere 0 [.line _] 0 :=
    nests_line ((((Turns.level (isLevel_simple p.type)).append hspace).append
      (.level hname)).append hend) (.append _ (.lit rfl))
  have hdecode : Turns "if (!DecodeFromBuffer(cursor, &" _ [] ['(', '('] := .lit rfl fun _ => rfl
  have hclose : Turns "))" _ ['(', '('] [] := .lit rfl fun _ => rfl
  have hread : Nests anywhere 0 [.line _] 0 :=
    nests_line ((hdecode.append (.level hname)).append hclose) (.append _ (.lit rfl))
  have hfailure : Nests anywhere 0 [.line "return false;"] 0 :=
    nests_line (.lit rfl fun _ => rfl) (.lit rfl)
  exact (hvariable.append hread).append (nests_nested hfailure)

theorem nests_reader : Nests anywhere 0 [reader message] 0 := by
  have hstart : Turns "bool " _ [] [] := .lit rfl fun _ => rfl
  have hcursor : Turns "(OutputCursor* cursor)" _ [] [] := .lit rfl fun _ => rfl
  have hreads : Nests anywhere 0 (message.parameters.flatMap readParameter) 0 :=
    .flatMap fun p hp => nests_readParameter h hp
  have hopen : Turns "(" _ [] ['('] := .lit rfl fun _ => rfl
  have hcomma : Turns ", " _ [] [] := .lit rfl fun _ => rfl
  have hitems := hcomma.isLevel.intercalate
    (List.forall_mem_map.mpr fun p hp => isLevel_parameter h hp)
  have hclose : Turns ");" _ ['('] [] := .lit rfl fun _ => rfl
  have hcall : Nests anywhere 0 _ 0 := Nests.call (.append _ (.lit rfl))
    ((((Turns.level (isWordText_handler h.1).isLevel).append hopen).append (.level hitems)).append
      hclose) (.lit rfl) trivial
  have hend : Nests anywhere 0 [.line "return true;"] 0 :=
    nests_line (.lit rfl fun _ => rfl) (.lit rfl)
  exact nests_block ((hstart.append (.level (isWordText_reader h.1).isLevel)).append hcursor)
    (hreads.append (hcall.append hend))

end Routines

theorem nests_failure : Nests anywhere 0 [.line ("return " ++ toString decodeFailed ++ ";")] 0 := by
  rw [toString_decodeFailed]
  have hreturn : Turns "return " _ [] [] := .lit rfl fun _ => rfl
  have hnumber : Turns "-1" _ [] [] := .lit rfl fun _ => rfl
  have hend : Turns ";" _ [] [] := .lit rfl fun _ => rfl
  exact nests_line ((hreturn.append hnumber).append hend) (.append _ (.lit rfl))

theorem nests_dispatchCase {message : Message} (h : message.rpc.WellFormed) :
    Nests anywhere 0 (dispatchCase message) 0 := by
  have hcase : Turns "case " _ [] [] := .lit rfl fun _ => rfl
  have hcolon : Turns ":" _ [] [] := .lit rfl fun _ => rfl
  have hlabel : Nests anywhere 0 [.line _] 0 := nests_line ((hcase.append
    (.level message.opcode.isWordText_digits.isLevel)).append hcolon) (.append _ (.lit rfl))
  have hif : Turns "if (!" _ [] ['('] := .lit rfl fun _ => rfl
  have hcursor : Turns "(cursor))" _ ['('] [] := .lit rfl fun _ => rfl
  have henter : Nests anywhere 0 [.line _] 0 :=
    nests_line ((hif.append (.level (isWordText_reader h.1).isLevel)).append hcursor)
      (.append _ (.lit rfl))
  have hbreak : Nests anywhere 0 [.line "break;"] 0 :=
    nests_line (.lit rfl fun _ => rfl) (.lit rfl)
  exact hlabel.append (nests_nested ((henter.append (nests_nested nests_failure)).append
    (hbreak.append .blank)))

theorem nests_dispatcher {messages : List Message}
    (h : ∀ message ∈ messages, message.rpc.WellFormed) :
    Nests anywhere 0 [dispatcher messages] 0 := by
  have hnumber : Nests anywhere 0 [.line "int16_t num;"] 0 :=
    nests_line (.lit rfl fun _ => rfl) (.lit rfl)
  have hopcode : Nests anywhere 0 [.line "if (!DecodeFromBuffer(cursor, &num))"] 0 :=
    nests_line (.lit rfl fun _ => rfl) (.lit rfl)
  have hcases : Nests anywhere 0 (messages.flatMap dispatchCase) 0 :=
    .flatMap fun message hmessage => nests_dispatchCase (h message hmessage)
  have hdefault : Nests anywhere 0 [.line "default:"] 0 :=
    nests_line (.lit rfl fun _ => rfl) (.lit rfl)
  have hunknown : Nests anywhere 0 [.line ("return " ++ toString unknownOpcode ++ ";")] 0 := by
    rw [toString_unknownOpcode]
    have hreturn : Turns "return " _ [] [] := .lit rfl fun _ => rfl
    have hnumber : Turns "-2" _ [] [] := .lit rfl fun _ => rfl
    have hend : Turns ";" _ [] [] := .lit rfl fun _ => rfl
    exact nests_line ((hreturn.append hnumber).append hend) (.append _ (.lit rfl))
  have hswitch : Turns "switch (num)" _ [] [] := .lit rfl fun _ => rfl
  have hbranches := nests_block hswitch
    ((hcases.append hdefault).append (nests_nested hunknown))
  have hend : Nests anywhere 0 [.line "return 0;"] 0 :=
    nests_line (.lit rfl fun _ => rfl) (.lit rfl)
  have hheader : Turns "int Dispatch(OutputCursor* cursor)" _ [] [] := .lit rfl fun _ => rfl
  exact nests_block hheader (((hnumber.append hopcode).append (nests_nested nests_failure)).append
    (Nests.blank.append (hbranches.append (Nests.blank.append hend))))

theorem nests_classLayout {plan : RolePlan} (h : plan.WellNamed) :
    Nests anywhere 0 (classLayout plan) 0 := by
  have hname : IsWordText (className plan.interface.name plan.role) := by
    refine ((isWordText_name h.1).append ?_).append (.lit rfl)
    cases plan.role <;> exact .lit rfl
  have hbase : IsWordText (baseClass plan.role) := by
    refine ((IsWordText.lit rfl).append ?_).append (.lit rfl)
    cases plan.role <;> exact .lit rfl
  have hstart : Turns "class " _ [] [] := .lit rfl fun _ => rfl
  have hderives : Turns " : public " _ [] [] := .lit rfl fun _ => rfl
  have hopen : Turns " \x7b" _ [] ['\x7b'] := .lit rfl fun _ => rfl
  have hclass : Nests anywhere 0 [.line ("class " ++ className plan.interface.name plan.role ++
      " : public " ++ baseClass plan.role ++ " \x7b")] 1 :=
    nests_line ((((hstart.append (.level hname.isLevel)).append hderives).append
      (.level hbase.isLevel)).append hopen) (.append _ (.lit rfl))
  have hpublic : Nests anywhere 1 [.line " public:"] 1 :=
    nests_line (.lit rfl fun _ => rfl) (.lit rfl)
  have hcomment : Nests anywhere 0
      [.comment "//" "Implement these to handle incoming messages."] 0 :=
    nests_comment (by decide +kernel)
  have hhandlers : Nests anywhere 0 (plan.incoming.map handlerDeclaration) 0 :=
    .map fun message hmessage => nests_handlerDeclaration (h.incoming hmessage)
  have hcomment' : Nests anywhere 0
      [.comment "//" "Use these to send messages to the peer."] 0 :=
    nests_comment (by decide +kernel)
  have hsenders : Nests anywhere 0 (plan.outgoing.map sender) 0 :=
    .map fun message hmessage => nests_sender (h.outgoing hmessage)
  have hprivate : Nests anywhere 1 [.line " private:"] 1 :=
    nests_line (.lit rfl fun _ => rfl) (.lit rfl)
  have hcomment'' : Nests anywhere 0
      [.comment "//" "Generated plumbing, not meant to be called directly."] 0 :=
    nests_comment (by decide +kernel)
  have hreaders : Nests anywhere 0 (plan.incoming.map reader) 0 :=
    .map fun message hmessage => nests_reader (h.incoming hmessage)
  have hdoc : Nests anywhere 0
      [.comment "//" ("Decodes one incoming message and calls the matching handler.\n" ++
        "Returns 0 on success, " ++ toString decodeFailed ++
        " if the message could not be decoded and\n" ++
        toString unknownOpcode ++ " if its opcode is unknown.")] 0 :=
    nests_comment (by decide +kernel)
  have hdispatcher := nests_dispatcher fun message hmessage => h.incoming hmessage
  have hend : Nests anywhere 1 [.line "\x7d;"] 0 := nests_line (.lit rfl fun _ => rfl) (.lit rfl)
  have hshown := (((hcomment.append hhandlers).append
    (Nests.blank.append hcomment')).append hsenders).nested
  have hhidden := ((hcomment''.append hreaders).append
    (Nests.blank.append (hdoc.append hdispatcher))).nested
  exact ((((hclass.append hpublic).append hshown).append (Nests.blank.append hprivate)).append
    hhidden).append hend

end Cpp

/-! ## Rust modules -/

namespace Rust

/-- The text starts with a character that can be seen. -/
def startsVisible (cs : List Char) : Bool :=
  cs.head?.any fun c => !isBlank c

/-- The text starts by closing a brace. -/
def startsClosing (cs : List Char) : Bool :=
  cs.head? == some '\x7d'

/-- The text starts with a character that can be seen and closes no brace. -/
def startsPlain (cs : List Char) : Bool :=
  cs.head?.any fun c => !isBlank c && c != '\x7d'

/-- A line that is not empty stands one step in for each open brace, one less if it closes one
first. Only the bound of `dispatch` does not. -/
def Aligned (count : Nat) (line : Line) : Prop :=
  line.content = "" ∨ startsVisible line.content.toList = true ∧
    (line.content = "Self: Sized," ∨
      line.depth + (if startsClosing line.content.toList then 1 else 0) = count)

theorem Aligned.deeper {count : Nat} {line : Line} (h : Aligned count line) :
    Aligned (count + 1) line.deeper := by
  refine h.imp_right fun ⟨hvisible, hplace⟩ => ⟨hvisible, hplace.imp_right fun hdepth => ?_⟩
  show line.depth + 1 + (if startsClosing line.content.toList then 1 else 0) = count + 1
  omega

theorem aligned_of_startsPlain {piece : String} {cs : List Char} (h : Spells piece cs)
    (hstarts : startsPlain cs = true) : Aligned 0 ⟨0, piece⟩ := by
  rw [startsPlain, Option.any_eq_true] at hstarts
  obtain ⟨c, hhead, hc⟩ := hstarts
  rw [Bool.and_eq_true, bne_iff_ne] at hc
  refine .inr ⟨?_, .inr ?_⟩
  · simp only [h.toList, startsVisible, hhead, Option.any_some, hc.1]
  · simp [h.toList, startsClosing, hhead, hc.2]

/-- Lines stand where the open braces say. -/
def aligned : Rule where
  holds := Aligned
  blank _ := .inl rfl
  deeper := Aligned.deeper

theorem aligned_closing : Aligned 1 ⟨0, "\x7d"⟩ :=
  .inr ⟨rfl, .inr rfl⟩

section Lines

variable {after : Nat}

theorem nests_line {piece : String} {cs : List Char} (h : Turns piece cs [] (braces after))
    (hstarts : startsPlain cs = true) (hends : EndsVisible piece) :
    Nests aligned 0 [.line piece] after :=
  .line h hends (aligned_of_startsPlain h.toSpells hstarts)

theorem nests_closing : Nests aligned 1 [.line "\x7d"] 0 :=
  .line (.lit rfl fun _ => rfl) (.lit rfl) aligned_closing

theorem nests_block {header : String} {cs : List Char} {body : List Step}
    (hheader : Turns header cs [] []) (hstarts : startsPlain (cs ++ [' ', '\x7b']) = true)
    (hbody : Nests aligned 0 body 0) : Nests aligned 0 [.block header body] 0 := by
  have hbrace : Spells " \x7b" _ := .lit rfl
  exact .block hheader (aligned_of_startsPlain (hheader.toSpells.append hbrace) hstarts)
    aligned_closing hbody

theorem nests_comment {text : String}
    (htext : (Text.lines text).all (fun line => isQuiet line.toList) = true) :
    Nests aligned 0 [.comment "//" text] 0 := by
  have hslashes : Turns "// " _ [] [] := .lit rfl fun _ => rfl
  refine .comment (isBlankText_of_spells (.lit rfl) rfl) hslashes.isLevel htext fun line => ?_
  refine .inr ⟨?_, .inr ?_⟩
  · simp [startsVisible, isBlank]
  · simp [startsClosing]

end Lines

theorem isLevel_simple (type : ParamType) : IsLevel (dialect.spell type).simple := by
  induction type with
  | scalar s =>
    have htext : Turns "::std::string::String" _ [] [] := .lit rfl fun _ => rfl
    cases s with
    | text => exact htext.isLevel
    | u8 => exact (IsWordText.lit rfl).isLevel
    | u16 => exact (IsWordText.lit rfl).isLevel
    | u32 => exact (IsWordText.lit rfl).isLevel
  | repeated element ih =>
    have hopen : Turns "::std::vec::Vec<" _ [] [] := .lit rfl fun _ => rfl
    have hclose : Turns ">" _ [] [] := .lit rfl fun _ => rfl
    exact ((hopen.append (.level ih)).append hclose).isLevel

theorem isLevel_send (type : ParamType) : IsLevel (dialect.spell type).send := by
  cases type with
  | scalar s =>
    have htext : Turns "&str" _ [] [] := .lit rfl fun _ => rfl
    cases s with
    | text => exact htext.isLevel
    | u8 => exact isLevel_simple (.scalar .u8)
    | u16 => exact isLevel_simple (.scalar .u16)
    | u32 => exact isLevel_simple (.scalar .u32)
  | repeated element =>
    have hopen : Turns "&[" _ [] ['['] := .lit rfl fun _ => rfl
    have hclose : Turns "]" _ ['['] [] := .lit rfl fun _ => rfl
    exact ((hopen.append (.level (isLevel_simple element))).append hclose).isLevel

theorem isLevel_receive (type : ParamType) : IsLevel (dialect.spell type).receive := by
  have hsame : (dialect.spell type).receive = (dialect.spell type).send := by
    cases type with
    | scalar s => cases s <;> rfl
    | repeated element => rfl
  rw [hsame]
  exact isLevel_send type

theorem isLevel_parameterList {spelled : Spelling → String} {parameters : List Parameter}
    (hspelled : ∀ type, IsLevel (spelled (dialect.spell type)))
    (h : ParametersWellFormed parameters) : IsLevel (parameterList spelled parameters) := by
  refine .join (List.forall_mem_map.mpr fun p hp => ?_)
  have hcomma : Turns ", " _ [] [] := .lit rfl fun _ => rfl
  have hcolon : Turns ": " _ [] [] := .lit rfl fun _ => rfl
  have hname := (isWordText_parameterName (h.1 p hp).1).isLevel
  exact (((hcomma.append (.level hname)).append hcolon).append (.level (hspelled p.type))).isLevel

theorem nests_ok : Nests aligned 0 [.line "Ok(())"] 0 :=
  nests_line (.lit rfl fun _ => rfl) rfl (.lit rfl)

section Routines

variable {message : Message} (h : message.rpc.WellFormed)
include h

theorem nests_handlerDeclaration : Nests aligned 0 [handlerDeclaration message] 0 := by
  have hstart : Turns "fn " _ [] [] := .lit rfl fun _ => rfl
  have hopen : Turns "(&mut self" _ [] ['('] := .lit rfl fun _ => rfl
  have hclose : Turns ");" _ ['('] [] := .lit rfl fun _ => rfl
  exact nests_line ((((hstart.append (.level (isWordText_handler h.1).isLevel)).append hopen).append
    (.level (isLevel_parameterList isLevel_receive h.parameters))).append hclose) rfl
    (.append _ (.lit rfl))

theorem isLevel_parameter {p : Parameter} (hp : p ∈ message.parameters) :
    IsLevel (parameterName p.name) :=
  (isWordText_parameterName (h.parameters.1 p hp).1).isLevel

theorem nests_putParameter {p : Parameter} (hp : p ∈ message.parameters) :
    Nests aligned 0 [putParameter p] 0 := by
  have hput : Turns "message.put(" _ [] ['('] := .lit rfl fun _ => rfl
  have hreference : IsLevel (if (dialect.spell p.type).byReference then "" else "&") := by
    split
    · exact (IsWordText.lit rfl).isLevel
    · exact Turns.isLevel (.lit rfl fun _ => rfl)
  have hclose : Turns ")?;" _ ['('] [] := .lit rfl fun _ => rfl
  exact nests_line (((hput.append (.level hreference)).append
    (.level (isLevel_parameter h hp))).append hclose) rfl (.append _ (.lit rfl))

theorem nests_sender : Nests aligned 0 [sender message] 0 := by
  have hstart : Turns "fn " _ [] [] := .lit rfl fun _ => rfl
  have hopen : Turns "(&mut self" _ [] ['('] := .lit rfl fun _ => rfl
  have hclose : Turns ") -> Result<(), EncodeError>" _ ['('] [] := .lit rfl fun _ => rfl
  have hbuilder : Turns "let mut message = MessageBuilder::new(" _ [] ['('] := .lit rfl fun _ => rfl
  have hparen : Turns ");" _ ['('] [] := .lit rfl fun _ => rfl
  have hopcode : Nests aligned 0 [.line _] 0 := nests_line ((hbuilder.append
    (.level message.opcode.isWordText_digits.isLevel)).append hparen) rfl (.append _ (.lit rfl))
  have hputs : Nests aligned 0 (message.parameters.map putParameter) 0 :=
    .map fun p hp => nests_putParameter h hp
  have hsend : Nests aligned 0 [.line "self.send(message.finish());"] 0 :=
    nests_line (.lit rfl fun _ => rfl) rfl (.lit rfl)
  exact nests_block ((((hstart.append (.level (isWordText_sender h.1).isLevel)).append hopen).append
    (.level (isLevel_parameterList isLevel_send h.parameters))).append hclose) rfl
    ((hopcode.append hputs).append (hsend.append nests_ok))

theorem nests_readParameter {p : Parameter} (hp : p ∈ message.parameters) :
    Nests aligned 0 [readParameter p] 0 := by
  have hlet : Turns "let " _ [] [] := .lit rfl fun _ => rfl
  have hcolon : Turns ": " _ [] [] := .lit rfl fun _ => rfl
  have hdecode : Turns " = Decode::decode(cursor)?;" _ [] [] := .lit rfl fun _ => rfl
  exact nests_line ((((hlet.append (.level (isLevel_parameter h hp))).append hcolon).append
    (.level (isLevel_simple p.type))).append hdecode) rfl (.append _ (.lit rfl))

theorem isLevel_handlerArgument {p : Parameter} (hp : p ∈ message.parameters) :
    IsLevel (handlerArgument p) := by
  have hname := isLevel_parameter h hp
  unfold handlerArgument
  dsimp only
  split
  · have hreference : Turns "&" _ [] [] := .lit rfl fun _ => rfl
    exact (hreference.append (.level hname)).isLevel
  · have hnothing : Turns "" _ [] [] := .lit rfl fun _ => rfl
    exact (hnothing.append (.level hname)).isLevel

theorem nests_reader {traitName : String} (htrait : IsWordText traitName) :
    Nests aligned 0 (reader traitName message) 0 := by
  have hstart : Turns "pub(super) fn " _ [] [] := .lit rfl fun _ => rfl
  have hbound : Turns "<H: " _ [] [] := .lit rfl fun _ => rfl
  have hopen : Turns
      ">(handler: &mut H, cursor: &mut Cursor<'_>) -> Result<(), DecodeError> \x7b" _ []
      ['\x7b'] := .lit rfl fun _ => rfl
  have hheader : Nests aligned 0 [.line _] 1 := nests_line ((((hstart.append
    (.level (isWordText_reader h.1).isLevel)).append hbound).append
    (.level htrait.isLevel)).append hopen) rfl (.append _ (.lit rfl))
  have hreads : Nests aligned 0 (message.parameters.map readParameter) 0 :=
    .map fun p hp => nests_readParameter h hp
  have hhandler : Turns "handler." _ [] [] := .lit rfl fun _ => rfl
  have hparen : Turns "(" _ [] ['('] := .lit rfl fun _ => rfl
  have hcomma : Turns ", " _ [] [] := .lit rfl fun _ => rfl
  have hitems := hcomma.isLevel.intercalate
    (List.forall_mem_map.mpr fun p hp => isLevel_handlerArgument h hp)
  have hclose : Turns ");" _ ['('] [] := .lit rfl fun _ => rfl
  have hline := (((hhandler.append (.level (isWordText_handler h.1).isLevel)).append hparen).append
    (.level hitems)).append hclose
  have hcall : Nests aligned 0 _ 0 := Nests.call (.append _ (.lit rfl)) hline (.lit rfl)
    (aligned_of_startsPlain hline.toSpells rfl)
  exact (hheader.append ((hreads.append (hcall.append nests_ok)).nested)).append nests_closing

theorem nests_dispatchArm : Nests aligned 0 [dispatchArm message] 0 := by
  obtain ⟨c, cs, hcs, hc, -⟩ := message.opcode.toList_digits
  have harrow : Turns " => " _ [] [] := .lit rfl fun _ => rfl
  have harguments : Turns "(handler, &mut cursor)?," _ [] [] := .lit rfl fun _ => rfl
  refine nests_line ((((Turns.level message.opcode.isWordText_digits.isLevel).append
    harrow).append (.level (isWordText_reader h.1).isLevel)).append harguments) ?_
    (.append _ (.lit rfl))
  -- The line starts with a digit or a minus sign.
  have hplain : isBlank c = false ∧ c ≠ '\x7d' := by
    rcases hc with hc | rfl
    · refine ⟨isBlank_of_isDigit hc, ?_⟩
      rintro rfl
      cases hc
    · exact ⟨rfl, by decide⟩
  simp [startsPlain, hcs, hplain]

end Routines

theorem nests_dispatcher {traitName : String} (htrait : IsWordText traitName)
    {messages : List Message} (h : ∀ message ∈ messages, message.rpc.WellFormed) :
    Nests aligned 0 (dispatcher traitName messages) 0 := by
  have hstart : Turns "pub(super) fn dispatch<H: " _ [] [] := .lit rfl fun _ => rfl
  have hopen : Turns ">(handler: &mut H, input: &[u8]) -> Result<(), DispatchError> \x7b" _ []
      ['\x7b'] := .lit rfl fun _ => rfl
  have hheader : Nests aligned 0 [.line _] 1 := nests_line ((hstart.append
    (.level htrait.isLevel)).append hopen) rfl (.append _ (.lit rfl))
  have hcursor : Nests aligned 0 [.line "let mut cursor = Cursor::new(input);"] 0 :=
    nests_line (.lit rfl fun _ => rfl) rfl (.lit rfl)
  have hopcode : Nests aligned 0 [.line "let opcode: i16 = Decode::decode(&mut cursor)?;"] 0 :=
    nests_line (.lit rfl fun _ => rfl) rfl (.lit rfl)
  have harms : Nests aligned 0 (messages.map dispatchArm) 0 :=
    .map fun message hmessage => nests_dispatchArm (h message hmessage)
  have hother : Nests aligned 0
      [.line "_ => return Err(DispatchError::UnknownOpcode(opcode)),"] 0 :=
    nests_line (.lit rfl fun _ => rfl) rfl (.lit rfl)
  have hmatch : Turns "match opcode" _ [] [] := .lit rfl fun _ => rfl
  have hbody := hcursor.append (hopcode.append
    ((nests_block hmatch rfl (harms.append hother)).append nests_ok))
  exact (hheader.append hbody.nested).append nests_closing

section Modules

variable {plan : RolePlan} (h : plan.WellNamed)
include h

theorem isWordText_traitName : IsWordText (traitName plan.interface.name plan.role) := by
  have hname := isPlain_camelCase (isPlain_of_isIdentifier h.1)
  refine (hname.isWordText.append ?_).append (.lit rfl)
  cases plan.role <;> exact .lit rfl

theorem isWordText_moduleName : IsWordText (moduleName plan.interface.name plan.role) := by
  refine ((isWordText_snakeCase h.1).append (.lit rfl)).append ?_
  cases plan.role <;> exact .lit rfl

theorem nests_traitLayout : Nests aligned 0 (traitLayout plan) 0 := by
  have hlabel : IsWordText plan.role.label := by cases plan.role <;> exact .lit rfl
  have hslashes : Turns "/// " _ [] [] := .lit rfl fun _ => rfl
  have hside : Turns " side of the `" _ [] [] := .lit rfl fun _ => rfl
  have hinterface : Turns "` interface." _ [] [] := .lit rfl fun _ => rfl
  have hdoc : Nests aligned 0 [.line _] 0 := nests_line ((((hslashes.append
    (.level hlabel.isLevel)).append hside).append
    (.level (isPlain_of_isIdentifier h.1).isWordText.isLevel)).append hinterface) rfl
    (.append _ (.lit rfl))
  have hcomment : Nests aligned 0
      [.comment "//" "Implement these to handle incoming messages."] 0 :=
    nests_comment (by decide +kernel)
  have hhandlers : Nests aligned 0 (plan.incoming.map handlerDeclaration) 0 :=
    .map fun message hmessage => nests_handlerDeclaration (h.incoming hmessage)
  have hcomment' : Nests aligned 0
      [.comment "//" "Use these to send messages to the peer."] 0 :=
    nests_comment (by decide +kernel)
  have hsenders : Nests aligned 0
      (plan.outgoing.flatMap fun message => [sender message, .blank]) 0 :=
    .flatMap fun message hmessage => (nests_sender (h.outgoing hmessage)).append .blank
  have hdoc' : Nests aligned 0
      [.line "/// Decodes one incoming message and calls the matching handler."] 0 :=
    nests_line (.lit rfl fun _ => rfl) rfl (.lit rfl)
  have hdispatch : Nests aligned 0
      [.line "fn dispatch(&mut self, input: &[u8]) -> Result<(), DispatchError>"] 0 :=
    nests_line (.lit rfl fun _ => rfl) rfl (.lit rfl)
  have hwhere : Nests aligned 0 [.line "where"] 0 :=
    nests_line (.lit rfl fun _ => rfl) rfl (.lit rfl)
  -- The bound stands one step further in than the braces say.
  have hsized : Nests aligned 0 (nested [.line "Self: Sized,"]) 0 := by
    have hbound : Turns "Self: Sized," _ [] [] := .lit rfl fun _ => rfl
    have hends : EndsVisible "Self: Sized," := .lit rfl
    refine ⟨_, (draws_line hends.not_blank).nested, .one ?_⟩
    exact ⟨hbound.clean, hbound.toList ▸ hbound.turns, hends.isTrimmed, .inr ⟨rfl, .inl rfl⟩⟩
  have hopen : Nests aligned 0 [.line "\x7b"] 1 :=
    nests_line (.lit rfl fun _ => rfl) rfl (.lit rfl)
  have hcall : Nests aligned 0 [.line "private::dispatch(self, input)"] 0 :=
    nests_line (.lit rfl fun _ => rfl) rfl (.lit rfl)
  have htrait : Turns "pub trait " _ [] [] := .lit rfl fun _ => rfl
  have hendpoint : Turns ": Endpoint" _ [] [] := .lit rfl fun _ => rfl
  exact hdoc.append (nests_block ((htrait.append
    (.level (isWordText_traitName h).isLevel)).append hendpoint) rfl
    ((((((((hcomment.append hhandlers).append (Nests.blank.append hcomment')).append
      hsenders).append (hdoc'.append (hdispatch.append hwhere))).append hsized).append
      hopen).append hcall.nested).append nests_closing))

theorem nests_privateLayout : Nests aligned 0 (privateLayout plan) 0 := by
  have htrait := isWordText_traitName h
  have hcomment : Nests aligned 0
      [.comment "//" "Generated plumbing, not meant to be called directly."] 0 :=
    nests_comment (by decide +kernel)
  have hsuper : Turns "use super::" _ [] [] := .lit rfl fun _ => rfl
  have hend : Turns ";" _ [] [] := .lit rfl fun _ => rfl
  have huse : Nests aligned 0 [.line _] 0 :=
    nests_line ((hsuper.append (.level htrait.isLevel)).append hend) rfl (.append _ (.lit rfl))
  have huse' : Nests aligned 0
      [.line "use ::ipcgen_wire::\x7bCursor, Decode, DecodeError, DispatchError\x7d;"] 0 :=
    nests_line (.lit rfl fun _ => rfl) rfl (.lit rfl)
  have hreaders : Nests aligned 0 (plan.incoming.flatMap fun message =>
      reader (traitName plan.interface.name plan.role) message ++ [.blank]) 0 :=
    .flatMap fun message hmessage => (nests_reader (h.incoming hmessage) htrait).append .blank
  have hprivate : Turns "mod private" _ [] [] := .lit rfl fun _ => rfl
  exact hcomment.append (nests_block hprivate rfl
    (((huse.append (huse'.append .blank)).append hreaders).append
      (nests_dispatcher htrait fun message hmessage => h.incoming hmessage)))

theorem nests_moduleLayout : Nests aligned 0 (moduleLayout plan) 0 := by
  have hattribute : Nests aligned 0 [.line "#[allow(clippy::all, unused)]"] 0 :=
    nests_line (.lit rfl fun _ => rfl) rfl (.lit rfl)
  have hfirst : Turns "use ::ipcgen_wire::\x7bDispatchError, EncodeError, Endpoint, " _ []
    ['\x7b'] := .lit rfl fun _ => rfl
  have hlast : Turns "MessageBuilder\x7d;" _ ['\x7b'] [] := .lit rfl fun _ => rfl
  have huse : Nests aligned 0 [.line _] 0 :=
    nests_line (hfirst.append hlast) rfl (.append _ (.lit rfl))
  have hmod : Turns "pub mod " _ [] [] := .lit rfl fun _ => rfl
  exact hattribute.append (nests_block (hmod.append (.level (isWordText_moduleName h).isLevel)) rfl
    ((((huse.append .blank).append (nests_traitLayout h)).append .blank).append
      (nests_privateLayout h)))

end Modules

/-! ### Indentation of lines -/

def indentWidth (line : List Char) : Nat :=
  (line.takeWhile (· == ' ')).length

/-- The line without its indentation. -/
def visiblePart (line : List Char) : List Char :=
  line.dropWhile (· == ' ')

/-- The line stands four spaces in for each curly brace that is open after the earlier ones, one
brace less if it closes one first. -/
def StandsByBraces (earlier : List String) (line : String) : Prop :=
  ∃ opened, openAfter [] (earlier.flatMap String.toList) = some opened ∧
    startsVisible (visiblePart line.toList) = true ∧
    indentWidth line.toList + (if startsClosing (visiblePart line.toList) then 4 else 0) =
      4 * opened.count '\x7b'

theorem toList_spaces (count : Nat) :
    (String.join (List.replicate count "    ")).toList = List.replicate (4 * count) ' ' := by
  have hstep : "    ".toList = List.replicate 4 ' ' := rfl
  induction count with
  | zero => rfl
  | succ count ih =>
    rw [List.replicate_succ, String.join_cons, String.toList_append, ih, hstep,
      List.replicate_append_replicate, Nat.mul_succ, Nat.add_comm]

/-- The indentation of a line ends where its content starts. -/
theorem spaces_shown {depth : Nat} {content : String}
    (h : startsVisible content.toList = true) :
    visiblePart (Line.shown "    " 0 ⟨depth, content⟩).toList = content.toList ∧
      indentWidth (Line.shown "    " 0 ⟨depth, content⟩).toList = 4 * depth := by
  obtain ⟨c, cs, hcs, hc⟩ : ∃ c cs, content.toList = c :: cs ∧ isBlank c = false := by
    obtain ⟨c, hhead, hc⟩ := (Option.any_eq_true _ _).mp h
    obtain ⟨cs, hcs⟩ := List.head?_eq_some_iff.mp hhead
    exact ⟨c, cs, hcs, by simpa using hc⟩
  have hspace : (c == ' ') = false := by
    rw [beq_eq_false_iff_ne]
    rintro rfl
    cases hc
  have hempty : content.isEmpty = false := by
    rw [String.isEmpty_eq_false_iff]
    rintro rfl
    cases hcs
  have hshown : (Line.shown "    " 0 ⟨depth, content⟩).toList =
      List.replicate (4 * depth) ' ' ++ content.toList := by
    rw [Line.shown, hempty, if_neg Bool.false_ne_true, String.toList_append, toList_spaces,
      Nat.zero_add]
  have hblanks : ∀ d ∈ List.replicate (4 * depth) ' ', (d == ' ') = true := by
    intro d hd
    rw [List.eq_of_mem_replicate hd]
    rfl
  rw [hshown, visiblePart, indentWidth, List.dropWhile_append_of_pos hblanks,
    List.takeWhile_append_of_pos hblanks, hcs]
  simp [hspace]

theorem standsByBraces_of_aligned {earlier : List String} {count : Nat} {source : Line}
    (hopen : openAfter [] (earlier.flatMap String.toList) = some (braces count))
    (h : Aligned count source) (hne : source.shown "    " 0 ≠ "")
    (hbound : visiblePart (source.shown "    " 0).toList ≠ "Self: Sized,".toList) :
    StandsByBraces earlier (source.shown "    " 0) := by
  obtain ⟨depth, content⟩ := source
  rcases h with rfl | ⟨hvisible, hplace⟩
  · exact absurd rfl hne
  obtain ⟨hpart, hwidth⟩ := @spaces_shown depth content hvisible
  rw [hpart] at hbound
  have hdepth := hplace.resolve_left fun hsame => hbound (congrArg String.toList hsame)
  refine ⟨braces count, hopen, hpart ▸ hvisible, ?_⟩
  rw [hwidth, hpart, braces, List.count_replicate_self, ← hdepth]
  dsimp only
  split <;> omega

end Rust

/-- **Nesting.** Brackets are balanced in every text that is generated, and no line ends in white
space, be it a carriage return. The lines of a Rust module stand where their braces say, the bound
of `dispatch` apart. -/
theorem text_well_nested {language : Language} {interface : Interface} {role : Role}
    {text : String} (h : language.target.generateInterface interface role = .ok text) :
    WellNested text ∧
    '\r' ∉ text.toList ∧ (∀ line ∈ lines text, isTrimmed line.toList = true) ∧
    (language = .rust → ∀ earlier line later, lines text = earlier ++ line :: later →
      line ≠ "" → Rust.visiblePart line.toList ≠ "Self: Sized,".toList →
        Rust.StandsByBraces earlier line) := by
  obtain ⟨hwell, -, hrender⟩ := Target.generateInterface_eq_ok_iff.mp h
  have hnamed := hwell.wellNamed role
  cases language with
  | cpp =>
    have hindent : isClean "  " = true := Spells.clean (.lit rfl)
    obtain ⟨text', hrender', hnested, hreturn, htrimmed, -⟩ :=
      (Cpp.nests_classLayout hnamed).text hindent rfl
    obtain rfl := Option.some.inj (hrender'.symm.trans hrender)
    exact ⟨hnested, hreturn, htrimmed, nofun⟩
  | rust =>
    have hindent : isClean "    " = true := Spells.clean (.lit rfl)
    obtain ⟨text', hrender', hnested, hreturn, htrimmed, hlines⟩ :=
      (Rust.nests_moduleLayout hnamed).text hindent rfl
    obtain rfl := Option.some.inj (hrender'.symm.trans hrender)
    refine ⟨hnested, hreturn, htrimmed, fun _ earlier line later heq hne hbound => ?_⟩
    obtain ⟨count, source, hopen, rfl, haligned⟩ := hlines earlier line later heq
    exact Rust.standsByBraces_of_aligned hopen haligned hne hbound

theorem text_well_nested_telemetry :
    ∃ text, Language.rust.target.generateInterface Conformance.telemetry .server = .ok text ∧
      WellNested text ∧
      '\r' ∉ text.toList ∧ (∀ line ∈ lines text, isTrimmed line.toList = true) ∧
      ∀ earlier line later, lines text = earlier ++ line :: later →
        line ≠ "" → Rust.visiblePart line.toList ≠ "Self: Sized,".toList →
          Rust.StandsByBraces earlier line := by
  have hacceptable := Rust.acceptable_conformance.2 Conformance.telemetry (by decide)
  have hwell := Conformance.wellFormed Conformance.telemetry (by decide)
  obtain ⟨text, htext⟩ :=
    (@Rust.generateInterface_succeeds_iff _ .server).mpr ⟨hwell, hacceptable⟩
  obtain ⟨hnested, hreturn, htrimmed, hlines⟩ := @text_well_nested .rust _ _ _ htext
  exact ⟨text, htext, hnested, hreturn, htrimmed, hlines rfl⟩

end Bindery
