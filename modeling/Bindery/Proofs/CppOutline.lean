import Bindery.Proofs.Outline
import Bindery.Target.CppClass

/-!
# Outlines of C++ classes

The same for C++ classes as for Rust modules: `shapes` reads their lines, and the class for a plan
has the outline of the plan. Handlers are called by their bare names, so a call is told from other
lines by how the names of handlers begin.

Main result: `outlineOf_classLayout`.
-/

namespace Bindery.Cpp

open Layout Text Shape

/-- The shapes of lines in a C++ class. -/
def shapes : List Shape :=
  [⟨after (chars "virtual void "), between (chars "(") (chars ") = 0;"),
    fun word => some (.declares word)⟩,
   ⟨after (chars "void "), between (chars "(") (chars "\x7b"), fun word => some (.offers word)⟩,
   ⟨after (chars "EncodeToBuffer(static_cast<int16_t>("), just (chars "), SendCursor());"),
    fun word => word.toInt?.map .sends⟩,
   ⟨after (chars "EncodeToBuffer("), just (chars ", SendCursor());"),
    fun word => some (.puts word)⟩,
   ⟨after (chars "bool "), just (chars "(OutputCursor* cursor) \x7b"),
    fun word => some (.defines word)⟩,
   ⟨after (chars "int "), just (chars "(OutputCursor* cursor) \x7b"),
    fun word => some (.defines word)⟩,
   ⟨after (chars "if (!DecodeFromBuffer(cursor, &"), just (chars "))"),
    fun word => some (.reads word)⟩,
   ⟨after (chars "Process"), between (chars "(") (chars ");"),
    fun word => some (.calls ("Process" ++ word))⟩,
   ⟨after (chars "case "), just (chars ":"), fun word => word.toInt?.map .accepts⟩,
   ⟨after (chars "if (!"), just (chars "(cursor))"), fun word => some (.enters word)⟩]

/-- The routines of a C++ class beside those of the messages. -/
def frame : Frame where
  naming := naming
  provided := []
  dispatcher := "Dispatch"
  opcode := "num"

/-! ## Lines -/

theorem readLine_nil : readLine shapes [] = [] := by
  simp [readLine, shapes, List.dropPrefix?]

theorem readLine_slash (rest : List Char) : readLine shapes ('/' :: rest) = [] := by
  simp [readLine, shapes, isBlank, List.dropPrefix?]

theorem readLine_closing : readLine shapes ['\x7d'] = [] := by
  simp [readLine, shapes, isBlank, List.dropPrefix?]

section Lines

variable {word tail : String}

theorem reads_declaration (h : IsWordText word) (htail : isClean tail = true) :
    Reads (Line.marks shapes) [.line ("virtual void " ++ word ++ "(" ++ tail ++ ") = 0;")]
      [.declares word] := by
  refine reads_line
    (((((Spells.lit rfl).append (.var h.isClean)).append (.lit rfl)).append
      (.var htail)).append (.lit rfl)) rfl ?_
  simp [readLine, shapes, isBlank, takeWhile_word h, dropWhile_word h, List.dropPrefix?,
    isWordChar, isIdentifierChar]

theorem reads_encodeOpcode (opcode : Opcode) :
    Reads (Line.marks shapes)
      [.line ("EncodeToBuffer(static_cast<int16_t>(" ++ opcode.digits ++ "), SendCursor());")]
      [.sends opcode.toInt] := by
  have h := opcode.isWordText_digits
  refine reads_line (((Spells.lit rfl).append (.var h.isClean)).append (.lit rfl)) rfl ?_
  simp [readLine, shapes, isBlank, takeWhile_word h, dropWhile_word h, List.dropPrefix?,
    isWordChar, isIdentifierChar, opcode.toInt?_digits]

theorem reads_encode (h : IsWordText word) :
    Reads (Line.marks shapes) [.line ("EncodeToBuffer(" ++ word ++ ", SendCursor());")]
      [.puts word] := by
  refine reads_line (((Spells.lit rfl).append (.var h.isClean)).append (.lit rfl)) rfl ?_
  simp [readLine, shapes, isBlank, takeWhile_word h, dropWhile_word h, dropPrefix?_word h,
    List.dropPrefix?, isWordChar, isIdentifierChar]

theorem reads_decode (h : IsWordText word) :
    Reads (Line.marks shapes) [.line ("if (!DecodeFromBuffer(cursor, &" ++ word ++ "))")]
      [.reads word] := by
  refine reads_line (((Spells.lit rfl).append (.var h.isClean)).append (.lit rfl)) rfl ?_
  simp [readLine, shapes, isBlank, takeWhile_word h, dropWhile_word h, List.dropPrefix?,
    isWordChar, isIdentifierChar]

theorem reads_call (h : IsWordText word) {items : List String}
    (hitems : ∀ item ∈ items, isClean item = true) :
    Reads (Line.marks shapes)
      [.write ("Process" ++ word ++ "("), .separated ", " false items, .line ");"]
      [.calls ("Process" ++ word)] := by
  have hseparator : isClean ", " = true := Spells.clean (.lit rfl)
  refine reads_call_line (((Spells.lit rfl).append (.var h.isClean)).append (.lit rfl)) rfl
    (isClean_intercalate hseparator hitems) (.lit rfl) ?_
  simp [readLine, shapes, isBlank, takeWhile_word h, dropWhile_word h, List.dropPrefix?,
    isWordChar, isIdentifierChar]

theorem reads_case (opcode : Opcode) :
    Reads (Line.marks shapes) [.line ("case " ++ opcode.digits ++ ":")]
      [.accepts opcode.toInt] := by
  have h := opcode.isWordText_digits
  refine reads_line (((Spells.lit rfl).append (.var h.isClean)).append (.lit rfl)) rfl ?_
  simp [readLine, shapes, isBlank, takeWhile_word h, dropWhile_word h, List.dropPrefix?,
    isWordChar, isIdentifierChar, opcode.toInt?_digits]

theorem reads_enter (h : IsWordText word) {rest : List Char} (hword : word.toList = 'P' :: rest) :
    Reads (Line.marks shapes) [.line ("if (!" ++ word ++ "(cursor))")] [.enters word] := by
  -- Only the first letter tells this line from one that reads a value.
  have hother (after text : List Char) :
      (word.toList ++ after).dropPrefix? ('D' :: text) = none := by
    simp [hword, List.dropPrefix?]
  refine reads_line (((Spells.lit rfl).append (.var h.isClean)).append (.lit rfl)) rfl ?_
  simp [readLine, shapes, isBlank, takeWhile_word h, dropWhile_word h, hother, List.dropPrefix?,
    isWordChar, isIdentifierChar]

theorem toString_decodeFailed : toString decodeFailed = "-1" :=
  rfl

theorem toString_unknownOpcode : toString unknownOpcode = "-2" :=
  rfl

theorem reads_failure : Reads (Line.marks shapes)
    (nested [.line ("return " ++ toString decodeFailed ++ ";")]) [] := by
  rw [toString_decodeFailed]
  refine reads_nested (reads_line (((Spells.lit rfl).append (.lit rfl)).append (.lit rfl)) rfl ?_)
  simp [readLine, shapes, isBlank, List.dropPrefix?]

end Lines

/-! ## Words -/

theorem isWordText_name {name : String} (h : isIdentifier name.toList = true) : IsWordText name :=
  (isPlain_of_isIdentifier h).isWordText

theorem parameter_naming : naming.parameter = parameterName := by
  simp only [naming]

theorem isWordText_parameterName {name : String} (h : isIdentifier name.toList = true) :
    IsWordText (parameterName name) := by
  unfold parameterName
  split
  · exact (isWordText_name h).append (.lit rfl)
  · exact isWordText_name h

section Messages

variable {message : Message}

theorem handler_eq : naming.handler message =
    "Process" ++ (message.rpc.name ++ message.leg.label) := by
  simp only [naming, String.append_assoc]

theorem reader_eq : naming.reader message = "Parse" ++ (message.rpc.name ++ message.leg.label) := by
  simp only [naming, String.append_assoc]

variable (h : isIdentifier message.rpc.name.toList = true)
include h

/-- What the names of the handler and the reader of a message have in common. -/
theorem isWordText_legName : IsWordText (message.rpc.name ++ message.leg.label) := by
  refine (isWordText_name h).append ?_
  cases message.leg <;> exact .lit rfl

theorem isWordText_handler : IsWordText (naming.handler message) := by
  rw [handler_eq]
  exact (IsWordText.lit rfl).append (isWordText_legName h)

theorem isWordText_reader : IsWordText (naming.reader message) := by
  rw [reader_eq]
  exact (IsWordText.lit rfl).append (isWordText_legName h)

theorem isWordText_sender : IsWordText (naming.sender message) := by
  unfold naming
  dsimp only
  split <;> exact (IsWordText.lit rfl).append (isWordText_name h)

end Messages

/-! ## Pieces that keep a line whole -/

theorem isClean_spell : ∀ type, (dialect.spell type).IsClean := by
  refine Dialect.isClean_spell ?_ ?_
  · intro s
    cases s <;> exact ⟨Spells.clean (.lit rfl), Spells.clean (.lit rfl), Spells.clean (.lit rfl)⟩
  · intro element h
    have hsimple := ((Spells.lit rfl : Spells "vector<" _).append (.var h)).append
      (.lit rfl : Spells ">" _)
    have hreference := ((Spells.lit rfl : Spells "const vector<" _).append (.var h)).append
      (.lit rfl : Spells ">&" _)
    exact ⟨hsimple.clean, hreference.clean, hreference.clean⟩

/-- How the declaration of a variable begins. -/
theorem toList_simple (type : ParamType) : ∃ rest,
    (dialect.spell type).simple.toList = 's' :: 't' :: rest ∨
    (dialect.spell type).simple.toList = 'u' :: 'i' :: rest ∨
    (dialect.spell type).simple.toList = 'v' :: 'e' :: rest := by
  cases type with
  | scalar s =>
    cases s
    · exact ⟨_, .inl (Spells.toList (.lit rfl))⟩
    · exact ⟨_, .inr (.inl (Spells.toList (.lit rfl)))⟩
    · exact ⟨_, .inr (.inl (Spells.toList (.lit rfl)))⟩
    · exact ⟨_, .inr (.inl (Spells.toList (.lit rfl)))⟩
  | repeated element =>
    have h := ((Spells.lit rfl : Spells "vector<" _).append
      (.var (isClean_spell element).simple)).append
      (.lit rfl : Spells ">" _)
    exact ⟨_, .inr (.inr h.toList)⟩

theorem isClean_parameterList {spelled : Spelling → String} {parameters : List Parameter}
    (hspelled : ∀ type, isClean (spelled (dialect.spell type)) = true)
    (h : ParametersWellFormed parameters) : isClean (parameterList spelled parameters) = true := by
  unfold parameterList
  split
  · exact Spells.clean (.lit rfl)
  · refine isClean_intercalate (Spells.clean (.lit rfl)) ?_
    simp only [List.forall_mem_map]
    intro p hp
    have hname := (isWordText_parameterName (h.1 p hp).1).isClean
    exact (((Spells.var (hspelled p.type)).append (.lit rfl)).append (.var hname)).clean

/-! ## Routines -/

section Routines

variable {message : Message} (h : message.rpc.WellFormed)
include h

theorem reads_handlerDeclaration :
    Reads (Line.marks shapes) [handlerDeclaration message]
      [.declares (naming.handler message)] :=
  reads_declaration (isWordText_handler h.1)
    (isClean_parameterList (fun type => (isClean_spell type).receive) h.parameters)

theorem reads_sender :
    Reads (Line.marks shapes) [sender message] (naming.senderPart message) := by
  have hword := isWordText_sender h.1
  have hlist := isClean_parameterList (fun type => (isClean_spell type).send) h.parameters
  have hputs : Reads (Line.marks shapes) (message.parameters.map fun p =>
      .line ("EncodeToBuffer(" ++ parameterName p.name ++ ", SendCursor());")) _ :=
    Reads.map fun p hp => reads_encode (isWordText_parameterName (h.parameters.1 p hp).1)
  have hsend : Reads (Line.marks shapes) [.line "Send();"] [] := by
    refine reads_line (.lit rfl) rfl ?_
    simp [readLine, shapes, isBlank, List.dropPrefix?]
  refine (reads_block [.offers (naming.sender message)] (((((Spells.lit rfl).append
    (.var hword.isClean)).append (.lit rfl)).append (.var hlist)).append (.lit rfl)) ?_
    readLine_closing
    (((reads_encodeOpcode message.opcode).append hputs).append hsend)).of_eq ?_
  · simp [readLine, shapes, isBlank, takeWhile_word hword, dropWhile_word hword, List.dropPrefix?,
      isWordChar, isIdentifierChar]
  · simp [Naming.senderPart, Naming.map_rendered, parameter_naming]

theorem reads_readParameter {p : Parameter} (hp : p ∈ message.parameters) :
    Reads (Line.marks shapes) (readParameter p) [.reads (parameterName p.name)] := by
  have hword := isWordText_parameterName (h.parameters.1 p hp).1
  have hvariable : Reads (Line.marks shapes)
      [.line ((dialect.spell p.type).simple ++ " " ++ parameterName p.name ++ ";")] [] := by
    obtain ⟨rest, htype⟩ := toList_simple p.type
    refine reads_line ((((Spells.var (isClean_spell p.type).simple).append (.lit rfl)).append
      (.var hword.isClean)).append (.lit rfl)) ?_ ?_
    · rcases htype with htype | htype | htype <;> simp [htype, isBlank]
    · rcases htype with htype | htype | htype <;>
        simp [htype, readLine, shapes, isBlank, List.dropPrefix?]
  have hfailure : Reads (Line.marks shapes) [.line "return false;"] [] := by
    refine reads_line (.lit rfl) rfl ?_
    simp [readLine, shapes, isBlank, List.dropPrefix?]
  exact (hvariable.append (reads_decode hword)).append (reads_nested hfailure)

theorem reads_reader :
    Reads (Line.marks shapes) [reader message] (naming.readerPart message) := by
  have hword := isWordText_reader h.1
  have hreads : Reads (Line.marks shapes) (message.parameters.flatMap readParameter) _ :=
    Reads.flatMap fun p hp => reads_readParameter h hp
  have hcall := reads_call (isWordText_legName h.1)
    (List.forall_mem_map.mpr fun p hp => (isWordText_parameterName (h.parameters.1 p hp).1).isClean)
  rw [← handler_eq] at hcall
  have hend : Reads (Line.marks shapes) [.line "return true;"] [] := by
    refine reads_line (.lit rfl) rfl ?_
    simp [readLine, shapes, isBlank, List.dropPrefix?]
  refine (reads_block [.defines (naming.reader message)] (((Spells.lit rfl).append
    (.var hword.isClean)).append (.lit rfl)) ?_ readLine_closing
    (hreads.append (hcall.append hend))).of_eq ?_
  · simp [readLine, shapes, isBlank, takeWhile_word hword, dropWhile_word hword, List.dropPrefix?,
      isWordChar, isIdentifierChar]
  · simp [Naming.readerPart, Naming.map_rendered, parameter_naming]

theorem reads_dispatchCase :
    Reads (Line.marks shapes) (dispatchCase message) (naming.armPart message) := by
  obtain ⟨rest, hstart⟩ : ∃ rest, (naming.reader message).toList = 'P' :: rest := by
    rw [reader_eq]
    exact ⟨_, ((Spells.lit rfl).append (.var (isWordText_legName h.1).isClean)).toList⟩
  have hbreak : Reads (Line.marks shapes) [.line "break;"] [] := by
    refine reads_line (.lit rfl) rfl ?_
    simp [readLine, shapes, isBlank, List.dropPrefix?]
  exact ((reads_case message.opcode).append (reads_nested
    (((reads_enter (isWordText_reader h.1) hstart).append reads_failure).append
      (hbreak.append (reads_blank readLine_nil))))).of_eq rfl

end Routines

theorem reads_dispatcher {messages : List Message}
    (h : ∀ message ∈ messages, message.rpc.WellFormed) :
    Reads (Line.marks shapes) [dispatcher messages]
      ([.defines "Dispatch", .reads "num"] ++ messages.flatMap naming.armPart) := by
  have hnumber : Reads (Line.marks shapes) [.line "int16_t num;"] [] := by
    refine reads_line (.lit rfl) rfl ?_
    simp [readLine, shapes, isBlank, List.dropPrefix?]
  have hopcode : Reads (Line.marks shapes) [.line "if (!DecodeFromBuffer(cursor, &num))"]
      [.reads "num"] := by
    refine reads_line (.lit rfl) rfl ?_
    simp [readLine, shapes, isBlank, List.dropPrefix?, isWordChar, isIdentifierChar]
  have harms : Reads (Line.marks shapes) (messages.flatMap dispatchCase)
      (messages.flatMap naming.armPart) :=
    Reads.flatMap fun message hmessage => reads_dispatchCase (h message hmessage)
  have hdefault : Reads (Line.marks shapes) [.line "default:"] [] := by
    refine reads_line (.lit rfl) rfl ?_
    simp [readLine, shapes, isBlank, List.dropPrefix?]
  have hunknown : Reads (Line.marks shapes)
      [.line ("return " ++ toString unknownOpcode ++ ";")] [] := by
    rw [toString_unknownOpcode]
    refine reads_line (((Spells.lit rfl).append (.lit rfl)).append (.lit rfl)) rfl ?_
    simp [readLine, shapes, isBlank, List.dropPrefix?]
  have hswitch : Reads (Line.marks shapes) [.block "switch (num)" <|
      messages.flatMap dispatchCase ++ [.line "default:"] ++
      nested [.line ("return " ++ toString unknownOpcode ++ ";")]]
      ([] ++ (messages.flatMap naming.armPart ++ [] ++ [])) := by
    refine reads_block [] (.lit rfl) ?_ readLine_closing
      ((harms.append hdefault).append (reads_nested hunknown))
    simp [readLine, shapes, isBlank, List.dropPrefix?]
  have hend : Reads (Line.marks shapes) [.line "return 0;"] [] := by
    refine reads_line (.lit rfl) rfl ?_
    simp [readLine, shapes, isBlank, List.dropPrefix?]
  refine (reads_block [.defines "Dispatch"] (.lit rfl) ?_ readLine_closing
    (((hnumber.append hopcode).append reads_failure).append ((reads_blank readLine_nil).append
      (hswitch.append ((reads_blank readLine_nil).append hend))))).of_eq ?_
  · simp [readLine, shapes, isBlank, List.dropPrefix?, isWordChar, isIdentifierChar]
  · simp

/-! ## Classes -/

theorem noReturn_dispatcherComment :
    NoReturn ("Decodes one incoming message and calls the matching handler.\n" ++
      "Returns 0 on success, " ++ toString decodeFailed ++
      " if the message could not be decoded and\n" ++
      toString unknownOpcode ++ " if its opcode is unknown.") := by
  rw [toString_decodeFailed, toString_unknownOpcode]
  exact (((((NoReturn.lit rfl).append (.lit rfl)).append (.lit rfl)).append
    (.lit rfl)).append (.lit rfl)).append (.lit rfl)

section Classes

variable {plan : RolePlan} (h : plan.WellNamed)
include h

theorem reads_classLayout : Reads (Line.marks shapes) (classLayout plan) (frame.outline plan) := by
  have hclass : Reads (Line.marks shapes) [.line ("class " ++
      className plan.interface.name plan.role ++ " : public " ++ baseClass plan.role ++ " \x7b")]
      [] := by
    have hname : isClean (className plan.interface.name plan.role) = true :=
      (((Spells.var (isWordText_name h.1).isClean).append
        (.var plan.role.isClean_label)).append (.lit rfl)).clean
    have hbase : isClean (baseClass plan.role) = true :=
      (((Spells.lit rfl).append (.var plan.role.isClean_label)).append (.lit rfl)).clean
    refine reads_line
      (((((Spells.lit rfl).append (.var hname)).append (.lit rfl)).append
        (.var hbase)).append (.lit rfl)) rfl ?_
    simp [readLine, shapes, isBlank, List.dropPrefix?]
  have hpublic : Reads (Line.marks shapes) [.line " public:"] [] := by
    refine reads_line (.lit rfl) rfl ?_
    simp [readLine, shapes, isBlank, List.dropPrefix?]
  have hcomment : Reads (Line.marks shapes)
      [.comment "//" "Implement these to handle incoming messages."] [] :=
    reads_comment readLine_slash (.lit rfl)
  have hhandlers : Reads (Line.marks shapes) (plan.incoming.map handlerDeclaration) _ :=
    Reads.map fun message hmessage => reads_handlerDeclaration (h.incoming hmessage)
  have hcomment' : Reads (Line.marks shapes)
      [.comment "//" "Use these to send messages to the peer."] [] :=
    reads_comment readLine_slash (.lit rfl)
  have hsenders : Reads (Line.marks shapes) (plan.outgoing.map sender) _ :=
    Reads.map fun message hmessage => reads_sender (h.outgoing hmessage)
  have hprivate : Reads (Line.marks shapes) [.line " private:"] [] := by
    refine reads_line (.lit rfl) rfl ?_
    simp [readLine, shapes, isBlank, List.dropPrefix?]
  have hcomment'' : Reads (Line.marks shapes)
      [.comment "//" "Generated plumbing, not meant to be called directly."] [] :=
    reads_comment readLine_slash (.lit rfl)
  have hreaders : Reads (Line.marks shapes) (plan.incoming.map reader) _ :=
    Reads.map fun message hmessage => reads_reader (h.incoming hmessage)
  have hdoc : Reads (Line.marks shapes) [.comment "//" _] [] :=
    reads_comment readLine_slash noReturn_dispatcherComment
  have hdispatcher := reads_dispatcher fun message hmessage => h.incoming hmessage
  have hend : Reads (Line.marks shapes) [.line "\x7d;"] [] := by
    refine reads_line (.lit rfl) rfl ?_
    simp [readLine, shapes, isBlank, List.dropPrefix?]
  have hshown := reads_nested (((hcomment.append hhandlers).append
    ((reads_blank readLine_nil).append hcomment')).append hsenders)
  have hhidden := reads_nested ((hcomment''.append hreaders).append
    ((reads_blank readLine_nil).append (hdoc.append hdispatcher)))
  refine (((((hclass.append hpublic).append hshown).append
    ((reads_blank readLine_nil).append hprivate)).append hhidden).append hend).of_eq ?_
  simp [Frame.outline_eq, frame, List.map_eq_flatMap]

/-- **C++ classes.** The class for a plan can always be written, and it has the plan's outline. -/
theorem outlineOf_classLayout :
    ∃ text, render? Target.cpp.indentation none (classLayout plan) = some text ∧
      outlineOf shapes text = frame.outline plan :=
  outlineOf_of_reads (reads_classLayout h) (Spells.clean (.lit rfl)) rfl

end Classes

end Bindery.Cpp
