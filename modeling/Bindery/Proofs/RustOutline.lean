import Bindery.Proofs.Outline
import Bindery.Target.RustModule

/-!
# Outlines of Rust modules

The lines of a Rust module are read by `shapes`. Names and parameters are words and no piece of a
line breaks it, so each line that belongs to a message leaves its mark and every other line leaves
none: the module for a plan has the outline of the plan.

Main result: `outlineOf_moduleLayout`.
-/

namespace Bindery.Rust

open Layout Text Shape

/-- The shapes of lines in a Rust module. -/
def shapes : List Shape :=
  [⟨after (chars "fn "), between (chars "(") (chars ");"), fun word => some (.declares word)⟩,
   ⟨after (chars "fn "), butNot (chars "(") (chars ");"), fun word => some (.offers word)⟩,
   ⟨after (chars "let mut message = MessageBuilder::new("), just (chars ");"),
    fun word => word.toInt?.map .sends⟩,
   ⟨after (chars "message.put("), just (chars ")?;"), fun word => some (.puts word)⟩,
   ⟨after (chars "message.put(&"), just (chars ")?;"), fun word => some (.puts word)⟩,
   ⟨after (chars "pub(super) fn "), between (chars "<") (chars "\x7b"),
    fun word => some (.defines word)⟩,
   ⟨after (chars "let "), between (chars ": ") (chars "cursor)?;"), fun word => some (.reads word)⟩,
   ⟨after (chars "handler."), between (chars "(") (chars ");"), fun word => some (.calls word)⟩,
   ⟨number, between (chars " => ") (chars "(handler, &mut cursor)?,"),
    fun word => word.toInt?.map .accepts⟩,
   ⟨afterNumber (chars " => "), just (chars "(handler, &mut cursor)?,"),
    fun word => some (.enters word)⟩]

/-- The routines of a Rust module beside those of the messages. -/
def frame : Frame where
  naming := naming
  provided := ["dispatch"]
  dispatcher := "dispatch"
  opcode := "opcode"

/-! ## Lines -/

theorem readLine_nil : readLine shapes [] = [] := by
  simp [readLine, shapes, List.dropPrefix?]

theorem readLine_slash (rest : List Char) : readLine shapes ('/' :: rest) = [] := by
  simp [readLine, shapes, isBlank, List.dropPrefix?]

theorem readLine_closing : readLine shapes ['\x7d'] = [] := by
  simp [readLine, shapes, isBlank, List.dropPrefix?]

section Lines

variable {word tail : String}

theorem reads_declaration (h : IsWordText word) (htail : isClean tail = true) :
    Reads (Line.marks shapes) [.line ("fn " ++ word ++ "(&mut self" ++ tail ++ ");")]
      [.declares word] := by
  refine reads_line
    (((((Spells.lit rfl).append (.var h.isClean)).append (.lit rfl)).append
      (.var htail)).append (.lit rfl)) rfl ?_
  simp [readLine, shapes, isBlank, takeWhile_word h, dropWhile_word h, List.dropPrefix?,
    isWordChar, isIdentifierChar]

theorem reads_builder (opcode : Opcode) :
    Reads (Line.marks shapes)
      [.line ("let mut message = MessageBuilder::new(" ++ opcode.digits ++ ");")]
      [.sends opcode.toInt] := by
  have h := opcode.isWordText_digits
  refine reads_line (((Spells.lit rfl).append (.var h.isClean)).append (.lit rfl)) rfl ?_
  simp [readLine, shapes, isBlank, takeWhile_word h, dropWhile_word h, List.dropPrefix?,
    isWordChar, isIdentifierChar, opcode.toInt?_digits]

theorem reads_put (h : IsWordText word) :
    Reads (Line.marks shapes) [.line ("message.put(" ++ "" ++ word ++ ")?;")] [.puts word] := by
  refine reads_line
    ((((Spells.lit rfl).append (.lit rfl)).append (.var h.isClean)).append (.lit rfl)) rfl ?_
  simp [readLine, shapes, isBlank, takeWhile_word h, dropWhile_word h, dropPrefix?_word h,
    List.dropPrefix?, isWordChar, isIdentifierChar]

theorem reads_putReference (h : IsWordText word) :
    Reads (Line.marks shapes) [.line ("message.put(" ++ "&" ++ word ++ ")?;")] [.puts word] := by
  refine reads_line
    ((((Spells.lit rfl).append (.lit rfl)).append (.var h.isClean)).append (.lit rfl)) rfl ?_
  simp [readLine, shapes, isBlank, takeWhile_word h, dropWhile_word h, List.dropPrefix?,
    isWordChar, isIdentifierChar]

theorem reads_definition (h : IsWordText word) (htail : isClean tail = true) :
    Reads (Line.marks shapes) [.line ("pub(super) fn " ++ word ++ "<H: " ++ tail ++
      ">(handler: &mut H, cursor: &mut Cursor<'_>) -> Result<(), DecodeError> \x7b")]
      [.defines word] := by
  refine reads_line
    (((((Spells.lit rfl).append (.var h.isClean)).append (.lit rfl)).append
      (.var htail)).append (.lit rfl)) rfl ?_
  simp [readLine, shapes, isBlank, takeWhile_word h, dropWhile_word h, List.dropPrefix?,
    isWordChar, isIdentifierChar]

theorem reads_decode (h : IsWordText word) (htail : isClean tail = true) :
    Reads (Line.marks shapes)
      [.line ("let " ++ word ++ ": " ++ tail ++ " = Decode::decode(cursor)?;")]
      [.reads word] := by
  refine reads_line
    (((((Spells.lit rfl).append (.var h.isClean)).append (.lit rfl)).append
      (.var htail)).append (.lit rfl)) rfl ?_
  simp [readLine, shapes, isBlank, takeWhile_word h, dropWhile_word h, dropPrefix?_word h,
    List.dropPrefix?, isWordChar, isIdentifierChar]

theorem reads_call (h : IsWordText word) {items : List String}
    (hitems : ∀ item ∈ items, isClean item = true) :
    Reads (Line.marks shapes)
      [.write ("handler." ++ word ++ "("), .separated ", " false items, .line ");"]
      [.calls word] := by
  have hseparator : isClean ", " = true := Spells.clean (.lit rfl)
  refine reads_call_line (((Spells.lit rfl).append (.var h.isClean)).append (.lit rfl)) rfl
    (isClean_intercalate hseparator hitems) (.lit rfl) ?_
  simp [readLine, shapes, isBlank, takeWhile_word h, dropWhile_word h, List.dropPrefix?,
    isWordChar, isIdentifierChar]

theorem reads_arm (h : IsWordText word) (opcode : Opcode) :
    Reads (Line.marks shapes)
      [.line (opcode.digits ++ " => " ++ word ++ "(handler, &mut cursor)?,")]
      [.accepts opcode.toInt, .enters word] := by
  have hdigits := opcode.isWordText_digits
  obtain ⟨c, cs, hcs, hc, -⟩ := opcode.toList_digits
  -- The first character starts a number, so no shape that starts with a letter fits.
  have hvisible : isBlank c = false := by
    rcases hc with hc | rfl
    · exact isBlank_of_isDigit hc
    · rfl
  have hother : ∀ d : Char, d.isAlpha = true → c ≠ d := by
    rintro d hd rfl
    rcases hc with hc | rfl
    · simp [not_isAlpha_of_isDigit hc] at hd
    · exact absurd hd (by decide)
  have htake (rest : List Char) : (c :: (cs ++ ' ' :: rest)).takeWhile isWordChar = c :: cs := by
    simpa [hcs] using takeWhile_word hdigits (show isWordChar ' ' = false from rfl) rest
  have hdrop (rest : List Char) :
      (c :: (cs ++ ' ' :: rest)).dropWhile isWordChar = ' ' :: rest := by
    simpa [hcs] using dropWhile_word hdigits (show isWordChar ' ' = false from rfl) rest
  have hread : (String.singleton c ++ String.ofList cs).toInt? = some opcode.toInt := by
    rw [← String.ofList_cons, ← hcs, String.ofList_toList, opcode.toInt?_digits]
  refine reads_line
    ((((Spells.var hdigits.isClean).append (.lit rfl)).append (.var h.isClean)).append (.lit rfl))
    ?_ ?_
  · simp [hcs, hvisible]
  · simp [readLine, shapes, hcs, hvisible, hother, htake, hdrop, hc, hread, takeWhile_word h,
      dropWhile_word h, List.dropPrefix?, isWordChar, isIdentifierChar]

theorem reads_brace : Reads (Line.marks shapes) [.line "\x7d"] [] :=
  reads_line (.lit rfl) rfl readLine_closing

theorem reads_ok : Reads (Line.marks shapes) [.line "Ok(())"] [] := by
  refine reads_line (.lit rfl) rfl ?_
  simp [readLine, shapes, isBlank, List.dropPrefix?]

end Lines

/-! ## Words -/

theorem isWordText_snakeCase {name : String} (h : isIdentifier name.toList = true) :
    IsWordText (snakeCase name) :=
  (isPlain_snakeCase (isPlain_of_isIdentifier h)).isWordText

theorem parameter_naming : naming.parameter = parameterName := by
  simp only [naming]

theorem isWordText_parameterName {name : String} (h : isIdentifier name.toList = true) :
    IsWordText (parameterName name) := by
  have hsnake := isWordText_snakeCase h
  unfold parameterName
  dsimp only
  split
  · exact hsnake.append (.lit rfl)
  · split
    · exact (IsWordText.lit rfl).append hsnake
    · exact hsnake

section Messages

variable {message : Message}

theorem handler_eq : naming.handler message =
    "process_" ++ (snakeCase message.rpc.name ++ ("_" ++ legSuffix message.leg)) := by
  simp only [naming, String.append_assoc]

theorem reader_eq : naming.reader message =
    "parse_" ++ (snakeCase message.rpc.name ++ ("_" ++ legSuffix message.leg)) := by
  simp only [naming, String.append_assoc]

variable (h : isIdentifier message.rpc.name.toList = true)
include h

/-- What the names of the handler and the reader of a message have in common. -/
theorem isWordText_legName :
    IsWordText (snakeCase message.rpc.name ++ ("_" ++ legSuffix message.leg)) := by
  refine (isWordText_snakeCase h).append ((IsWordText.lit rfl).append ?_)
  cases message.leg <;> exact .lit rfl

theorem isWordText_handler : IsWordText (naming.handler message) := by
  rw [handler_eq]
  exact (IsWordText.lit rfl).append (isWordText_legName h)

theorem isWordText_reader : IsWordText (naming.reader message) := by
  rw [reader_eq]
  exact (IsWordText.lit rfl).append (isWordText_legName h)

theorem isWordText_sender : IsWordText (naming.sender message) := by
  unfold naming
  dsimp only
  split <;> exact (IsWordText.lit rfl).append (isWordText_snakeCase h)

end Messages

/-! ## Pieces that keep a line whole -/

theorem isClean_spell : ∀ type, (dialect.spell type).IsClean := by
  refine Dialect.isClean_spell ?_ ?_
  · intro s
    cases s <;> exact ⟨Spells.clean (.lit rfl), Spells.clean (.lit rfl), Spells.clean (.lit rfl)⟩
  · intro element h
    have hsimple := ((Spells.lit rfl : Spells "::std::vec::Vec<" _).append (.var h)).append
      (.lit rfl : Spells ">" _)
    have hreference := ((Spells.lit rfl : Spells "&[" _).append (.var h)).append
      (.lit rfl : Spells "]" _)
    exact ⟨hsimple.clean, hreference.clean, hreference.clean⟩

theorem isClean_parameterList {spelled : Spelling → String} {parameters : List Parameter}
    (hspelled : ∀ type, isClean (spelled (dialect.spell type)) = true)
    (h : ParametersWellFormed parameters) : isClean (parameterList spelled parameters) = true := by
  refine isClean_join ?_
  simp only [List.forall_mem_map]
  intro p hp
  have hname := (isWordText_parameterName (h.1 p hp).1).isClean
  exact ((((Spells.lit rfl).append (.var hname)).append (.lit rfl)).append
    (.var (hspelled p.type))).clean

/-! ## Routines -/

section Routines

variable {message : Message} (h : message.rpc.WellFormed)
include h

theorem reads_handlerDeclaration :
    Reads (Line.marks shapes) [handlerDeclaration message]
      [.declares (naming.handler message)] :=
  reads_declaration (isWordText_handler h.1)
    (isClean_parameterList (fun type => (isClean_spell type).receive) h.parameters)

theorem reads_putParameter {p : Parameter} (hp : p ∈ message.parameters) :
    Reads (Line.marks shapes) [putParameter p] [.puts (parameterName p.name)] := by
  have hword := isWordText_parameterName (h.parameters.1 p hp).1
  unfold putParameter
  dsimp only
  split
  · exact reads_put hword
  · exact reads_putReference hword

theorem reads_sender :
    Reads (Line.marks shapes) [sender message] (naming.senderPart message) := by
  have hword := isWordText_sender h.1
  have hlist := isClean_parameterList (fun type => (isClean_spell type).send) h.parameters
  have hputs : Reads (Line.marks shapes) (message.parameters.map putParameter) _ :=
    Reads.map fun p hp => reads_putParameter h hp
  have hsend : Reads (Line.marks shapes) [.line "self.send(message.finish());"] [] := by
    refine reads_line (.lit rfl) rfl ?_
    simp [readLine, shapes, isBlank, List.dropPrefix?]
  refine (reads_block [.offers (naming.sender message)] (((((Spells.lit rfl).append
    (.var hword.isClean)).append (.lit rfl)).append (.var hlist)).append (.lit rfl)) ?_
    readLine_closing
    (((reads_builder message.opcode).append hputs).append (hsend.append reads_ok))).of_eq ?_
  · simp [readLine, shapes, isBlank, takeWhile_word hword, dropWhile_word hword, List.dropPrefix?,
      isWordChar, isIdentifierChar]
  · simp [Naming.senderPart, Naming.map_rendered, parameter_naming]

theorem reads_readParameter {p : Parameter} (hp : p ∈ message.parameters) :
    Reads (Line.marks shapes) [readParameter p] [.reads (parameterName p.name)] :=
  reads_decode (isWordText_parameterName (h.parameters.1 p hp).1) (isClean_spell p.type).simple

theorem isClean_handlerArgument {p : Parameter} (hp : p ∈ message.parameters) :
    isClean (handlerArgument p) = true := by
  have hword := isWordText_parameterName (h.parameters.1 p hp).1
  unfold handlerArgument
  dsimp only
  split <;> exact ((Spells.lit rfl).append (.var hword.isClean)).clean

theorem reads_reader {traitName : String} (htrait : isClean traitName = true) :
    Reads (Line.marks shapes) (reader traitName message) (naming.readerPart message) := by
  have hreads : Reads (Line.marks shapes) (message.parameters.map readParameter) _ :=
    Reads.map fun p hp => reads_readParameter h hp
  have hcall := reads_call (isWordText_handler h.1)
    (List.forall_mem_map.mpr fun p hp => isClean_handlerArgument h hp)
  refine (((reads_definition (isWordText_reader h.1) htrait).append
    (reads_nested (hreads.append (hcall.append reads_ok)))).append reads_brace).of_eq ?_
  simp [Naming.readerPart, Naming.map_rendered, parameter_naming]

theorem reads_dispatchArm :
    Reads (Line.marks shapes) [dispatchArm message] (naming.armPart message) :=
  reads_arm (isWordText_reader h.1) message.opcode

end Routines

theorem reads_dispatcher {traitName : String} (htrait : isClean traitName = true)
    {messages : List Message} (h : ∀ message ∈ messages, message.rpc.WellFormed) :
    Reads (Line.marks shapes) (dispatcher traitName messages)
      ([.defines "dispatch", .reads "opcode"] ++ messages.flatMap naming.armPart) := by
  have hheader : Reads (Line.marks shapes) [.line ("pub(super) fn dispatch<H: " ++ traitName ++
      ">(handler: &mut H, input: &[u8]) -> Result<(), DispatchError> \x7b")]
      [.defines "dispatch"] := by
    refine reads_line (((Spells.lit rfl).append (.var htrait)).append (.lit rfl)) rfl ?_
    simp [readLine, shapes, isBlank, List.dropPrefix?, isWordChar, isIdentifierChar]
  have hcursor : Reads (Line.marks shapes) [.line "let mut cursor = Cursor::new(input);"] [] := by
    refine reads_line (.lit rfl) rfl ?_
    simp [readLine, shapes, isBlank, List.dropPrefix?, isWordChar, isIdentifierChar]
  have hopcode : Reads (Line.marks shapes)
      [.line "let opcode: i16 = Decode::decode(&mut cursor)?;"] [.reads "opcode"] := by
    refine reads_line (.lit rfl) rfl ?_
    simp [readLine, shapes, isBlank, List.dropPrefix?, isWordChar, isIdentifierChar]
  have harms : Reads (Line.marks shapes) (messages.map dispatchArm)
      (messages.flatMap naming.armPart) :=
    Reads.map fun message hmessage => reads_dispatchArm (h message hmessage)
  have hother : Reads (Line.marks shapes)
      [.line "_ => return Err(DispatchError::UnknownOpcode(opcode)),"] [] := by
    refine reads_line (.lit rfl) rfl ?_
    simp [readLine, shapes, isBlank, List.dropPrefix?]
  have hmatch : Reads (Line.marks shapes) [.block "match opcode" <| messages.map dispatchArm ++
      [.line "_ => return Err(DispatchError::UnknownOpcode(opcode)),"]]
      ([] ++ (messages.flatMap naming.armPart ++ [])) := by
    refine reads_block [] (.lit rfl) ?_ readLine_closing (harms.append hother)
    simp [readLine, shapes, isBlank, List.dropPrefix?]
  exact ((hheader.append (reads_nested
    (hcursor.append (hopcode.append (hmatch.append reads_ok))))).append
    reads_brace).of_eq (by simp)

/-! ## Modules -/

section Modules

variable {plan : RolePlan} (h : plan.WellNamed)
include h

theorem isClean_traitName : isClean (traitName plan.interface.name plan.role) = true := by
  have hname := isPlain_camelCase (isPlain_of_isIdentifier h.1)
  exact (((Spells.var hname.isWordText.isClean).append
    (.var plan.role.isClean_label)).append (.lit rfl)).clean

theorem isClean_moduleName : isClean (moduleName plan.interface.name plan.role) = true := by
  have hrole : isClean plan.role.name = true := by cases plan.role <;> exact Spells.clean (.lit rfl)
  exact (((Spells.var (isWordText_snakeCase h.1).isClean).append (.lit rfl)).append
    (.var hrole)).clean

theorem reads_traitLayout :
    Reads (Line.marks shapes) (traitLayout plan)
      (plan.incoming.map (fun message => Mark.declares (naming.handler message)) ++
        plan.outgoing.flatMap naming.senderPart ++ [.offers "dispatch"]) := by
  have hdoc : Reads (Line.marks shapes)
      [.line ("/// " ++ plan.role.label ++ " side of the `" ++ plan.interface.name ++
        "` interface.")] [] := by
    have hname := (isPlain_of_isIdentifier h.1).isWordText
    exact reads_line (((((Spells.lit rfl).append (.var plan.role.isClean_label)).append
      (.lit rfl)).append (.var hname.isClean)).append (.lit rfl)) rfl (readLine_slash _)
  have hcomment : Reads (Line.marks shapes)
      [.comment "//" "Implement these to handle incoming messages."] [] :=
    reads_comment readLine_slash (.lit rfl)
  have hhandlers : Reads (Line.marks shapes) (plan.incoming.map handlerDeclaration) _ :=
    Reads.map fun message hmessage => reads_handlerDeclaration (h.incoming hmessage)
  have hcomment' : Reads (Line.marks shapes)
      [.comment "//" "Use these to send messages to the peer."] [] :=
    reads_comment readLine_slash (.lit rfl)
  have hsenders : Reads (Line.marks shapes)
      (plan.outgoing.flatMap fun message => [sender message, .blank]) _ :=
    Reads.flatMap fun message hmessage =>
      (reads_sender (h.outgoing hmessage)).append (reads_blank readLine_nil)
  have hdoc' : Reads (Line.marks shapes)
      [.line "/// Decodes one incoming message and calls the matching handler."] [] :=
    reads_line (.lit rfl) rfl (readLine_slash _)
  have hdispatch : Reads (Line.marks shapes)
      [.line "fn dispatch(&mut self, input: &[u8]) -> Result<(), DispatchError>"]
      [.offers "dispatch"] := by
    refine reads_line (.lit rfl) rfl ?_
    simp [readLine, shapes, isBlank, List.dropPrefix?, isWordChar, isIdentifierChar]
  have hwhere : Reads (Line.marks shapes) [.line "where"] [] := by
    refine reads_line (.lit rfl) rfl ?_
    simp [readLine, shapes, isBlank, List.dropPrefix?]
  have hsized : Reads (Line.marks shapes) [.line "Self: Sized,"] [] := by
    refine reads_line (.lit rfl) rfl ?_
    simp [readLine, shapes, isBlank, List.dropPrefix?]
  have hopen : Reads (Line.marks shapes) [.line "\x7b"] [] := by
    refine reads_line (.lit rfl) rfl ?_
    simp [readLine, shapes, isBlank, List.dropPrefix?]
  have hcall : Reads (Line.marks shapes) [.line "private::dispatch(self, input)"] [] := by
    refine reads_line (.lit rfl) rfl ?_
    simp [readLine, shapes, isBlank, List.dropPrefix?]
  have hbody := ((((((((hcomment.append hhandlers).append
    ((reads_blank readLine_nil).append hcomment')).append hsenders).append
    (hdoc'.append (hdispatch.append hwhere))).append (reads_nested hsized)).append hopen).append
    (reads_nested hcall)).append reads_brace)
  refine (hdoc.append (reads_block []
    (((Spells.lit rfl).append (.var (isClean_traitName h))).append (.lit rfl))
    ?_ readLine_closing hbody)).of_eq ?_
  · simp [readLine, shapes, isBlank, List.dropPrefix?]
  · simp [List.map_eq_flatMap]

theorem reads_privateLayout :
    Reads (Line.marks shapes) (privateLayout plan)
      (plan.incoming.flatMap naming.readerPart ++
        ([.defines "dispatch", .reads "opcode"] ++ plan.incoming.flatMap naming.armPart)) := by
  have htrait := isClean_traitName h
  have hcomment : Reads (Line.marks shapes)
      [.comment "//" "Generated plumbing, not meant to be called directly."] [] :=
    reads_comment readLine_slash (.lit rfl)
  have huse : Reads (Line.marks shapes)
      [.line ("use super::" ++ traitName plan.interface.name plan.role ++ ";")] [] := by
    refine reads_line (((Spells.lit rfl).append (.var htrait)).append (.lit rfl)) rfl ?_
    simp [readLine, shapes, isBlank, List.dropPrefix?]
  have huse' : Reads (Line.marks shapes)
      [.line "use ::ipcgen_wire::\x7bCursor, Decode, DecodeError, DispatchError\x7d;"] [] := by
    refine reads_line (.lit rfl) rfl ?_
    simp [readLine, shapes, isBlank, List.dropPrefix?]
  have hreaders : Reads (Line.marks shapes)
      (plan.incoming.flatMap fun message =>
        reader (traitName plan.interface.name plan.role) message ++ [.blank]) _ :=
    Reads.flatMap fun message hmessage =>
      (reads_reader (h.incoming hmessage) htrait).append (reads_blank readLine_nil)
  have hbody := ((huse.append (huse'.append (reads_blank readLine_nil))).append hreaders).append
    (reads_dispatcher htrait fun message hmessage => h.incoming hmessage)
  refine (hcomment.append (reads_block [] (.lit rfl) ?_ readLine_closing hbody)).of_eq ?_
  · simp [readLine, shapes, isBlank, List.dropPrefix?]
  · simp

theorem reads_moduleLayout :
    Reads (Line.marks shapes) (moduleLayout plan) (frame.outline plan) := by
  have hattribute : Reads (Line.marks shapes) [.line "#[allow(clippy::all, unused)]"] [] := by
    refine reads_line (.lit rfl) rfl ?_
    simp [readLine, shapes, isBlank, List.dropPrefix?]
  have huse : Reads (Line.marks shapes)
      [.line ("use ::ipcgen_wire::\x7bDispatchError, EncodeError, Endpoint, " ++
        "MessageBuilder\x7d;")] [] := by
    refine reads_line ((Spells.lit rfl).append (.lit rfl)) rfl ?_
    simp [readLine, shapes, isBlank, List.dropPrefix?]
  have hbody := (((huse.append (reads_blank readLine_nil)).append (reads_traitLayout h)).append
    (reads_blank readLine_nil)).append (reads_privateLayout h)
  refine (hattribute.append (reads_block []
    ((Spells.lit rfl).append (.var (isClean_moduleName h))) ?_ readLine_closing hbody)).of_eq ?_
  · simp [readLine, shapes, isBlank, List.dropPrefix?]
  · simp [Frame.outline_eq, frame]

/-- **Rust modules.** The module for a plan can always be written, and it has the plan's outline. -/
theorem outlineOf_moduleLayout :
    ∃ text, render? Target.rust.indentation none (moduleLayout plan) = some text ∧
      outlineOf shapes text = frame.outline plan :=
  outlineOf_of_reads (reads_moduleLayout h) (Spells.clean (.lit rfl)) rfl

end Modules

end Bindery.Rust
