import Bindery.Proofs.Passages
import Bindery.Target.RustModule

/-!
# Routines of Rust modules

A Rust module has routines of three kinds: some send a message, some read one, and one dispatches.
The body of a routine is a list of statements, and a statement has a text of its own.

**Code.** The steps of a routine write an opening line, its statements one level deeper and a brace
(`braced`): see `draws_sender`, `draws_reader` and `draws_dispatcher`.

**Places.** Each routine for a message of a plan occurs in the module for the plan, so its lines are
a passage of the text: see `passage_sender`, `passage_reader` and `passage_dispatcher`.
-/

namespace Bindery.Rust

open Layout Text

/-- An opening line, what is inside one level deeper, and a brace. -/
def braced (opening : String) (body : List Line) : List Line :=
  [⟨0, opening⟩] ++ body.map Line.deeper ++ [⟨0, "\x7d"⟩]

/-! ## Routines that send -/

/-- A statement of a routine that sends. -/
inductive SendStatement where
  /-- Starts a message with this opcode. -/
  | start (opcode : Opcode)
  /-- Puts the parameter of this name into the message, and ends the routine if that fails. -/
  | put (byReference : Bool) (name : String)
  /-- Hands the message over to the endpoint. -/
  | handOver
  /-- Ends the routine with success. -/
  | succeed
  deriving DecidableEq, Repr

namespace SendStatement

def text : SendStatement → String
  | .start opcode => "let mut message = MessageBuilder::new(" ++ opcode.digits ++ ");"
  | .put byReference name => "message.put(" ++ (if byReference then "" else "&") ++ name ++ ")?;"
  | .handOver => "self.send(message.finish());"
  | .succeed => "Ok(())"

theorem isBlankText_text (statement : SendStatement) : isBlankText statement.text = false := by
  cases statement with
  | start opcode => exact isBlankText_append_right rfl
  | put byReference name => exact isBlankText_append_right rfl
  | handOver => rfl
  | succeed => rfl

end SendStatement

def putStatement (p : Parameter) : SendStatement :=
  .put (dialect.spell p.type).byReference (parameterName p.name)

def senderBody (message : Message) : List SendStatement :=
  .start message.opcode :: message.parameters.map putStatement ++ [.handOver, .succeed]

/-- What the opening line of the routine says. -/
def senderHeader (message : Message) : String :=
  "fn " ++ naming.sender message ++ "(&mut self" ++
    parameterList Spelling.send message.parameters ++ ") -> Result<(), EncodeError>"

/-- The code of the routine that sends a message. -/
def senderLines (message : Message) : List Line :=
  braced (senderHeader message ++ " \x7b")
    ((senderBody message).map fun statement => ⟨0, statement.text⟩)

theorem sender_eq (message : Message) :
    sender message = .block (senderHeader message)
      ((senderBody message).map fun statement => .line statement.text) := by
  refine congrArg (Step.block _) ?_
  rw [senderBody, List.map_append, List.map_cons, List.map_map]
  rfl

theorem draws_sender (message : Message) : Draws [sender message] (senderLines message) := by
  rw [sender_eq]
  exact (draws_lines _ SendStatement.isBlankText_text).block _

/-! ## Routines that read -/

/-- A statement of a routine that reads. -/
inductive ReadStatement where
  /-- Reads a value of this type into a variable, and ends the routine if that fails. -/
  | read (name : String) (type : ParamType)
  /-- Calls a method of the handler with these variables, each by reference or not. -/
  | call (method : String) (arguments : List (Bool × String))
  /-- Ends the routine with success. -/
  | succeed
  deriving DecidableEq, Repr

def ReadStatement.text : ReadStatement → String
  | .read name type => "let " ++ name ++ ": " ++ (dialect.spell type).simple ++
    " = Decode::decode(cursor)?;"
  | .call method arguments => "handler." ++ method ++ "(" ++
    ", ".intercalate (arguments.map fun (reference, name) =>
      (if reference then "&" else "") ++ name) ++ ");"
  | .succeed => "Ok(())"

def readStatement (p : Parameter) : ReadStatement :=
  .read (parameterName p.name) p.type

def callStatement (message : Message) : ReadStatement :=
  .call (naming.handler message)
    (message.parameters.map fun p => ((dialect.spell p.type).byReference, parameterName p.name))

def readerBody (message : Message) : List ReadStatement :=
  message.parameters.map readStatement ++ [callStatement message, .succeed]

def readerOpening (traitName : String) (message : Message) : String :=
  "pub(super) fn " ++ naming.reader message ++ "<H: " ++ traitName ++
    ">(handler: &mut H, cursor: &mut Cursor<'_>) -> Result<(), DecodeError> \x7b"

/-- The code of the routine that reads a message. -/
def readerLines (traitName : String) (message : Message) : List Line :=
  braced (readerOpening traitName message)
    ((readerBody message).map fun statement => ⟨0, statement.text⟩)

theorem draws_reader (traitName : String) (message : Message) :
    Draws (reader traitName message) (readerLines traitName message) := by
  have hopening : Draws [.line (readerOpening traitName message)] _ :=
    draws_line (isBlankText_append_right rfl)
  have hreads : Draws (message.parameters.map readParameter)
      (message.parameters.map fun p => ⟨0, (readStatement p).text⟩) :=
    draws_lines message.parameters fun p => isBlankText_append_right rfl
  have hcall := draws_call (isBlankText_append_right rfl :
    isBlankText ("handler." ++ naming.handler message ++ "(") = false) ", "
    (message.parameters.map handlerArgument) ");"
  have htext : "handler." ++ naming.handler message ++ "(" ++
      ", ".intercalate (message.parameters.map handlerArgument) ++ ");" =
      (callStatement message).text := by
    rw [callStatement, ReadStatement.text, List.map_map]
    rfl
  rw [htext] at hcall
  have hok := draws_line (rfl : isBlankText "Ok(())" = false)
  have hclose := draws_line (rfl : isBlankText "\x7d" = false)
  have hlines := (hopening.append (hreads.append (hcall.append hok)).nested).append hclose
  rw [readerLines, braced, readerBody, List.map_append, List.map_map]
  exact hlines

/-! ## The routine that dispatches -/

/-- A statement of the routine that dispatches. -/
inductive DispatchStatement where
  /-- Puts a cursor at the start of the input. -/
  | start
  /-- Reads the opcode, and ends the routine if that fails. -/
  | readOpcode
  /-- Goes on in the routine that stands with the opcode, and ends this one if that fails or if
  there is none. -/
  | branch (arms : List (Opcode × String))
  /-- Ends the routine with success. -/
  | succeed
  deriving DecidableEq, Repr

def armText (arm : Opcode × String) : String :=
  arm.1.digits ++ " => " ++ arm.2 ++ "(handler, &mut cursor)?,"

def DispatchStatement.lines : DispatchStatement → List Line
  | .start => [⟨0, "let mut cursor = Cursor::new(input);"⟩]
  | .readOpcode => [⟨0, "let opcode: i16 = Decode::decode(&mut cursor)?;"⟩]
  | .branch arms => braced "match opcode \x7b" <|
    arms.map (fun arm => ⟨0, armText arm⟩) ++
    [⟨0, "_ => return Err(DispatchError::UnknownOpcode(opcode)),"⟩]
  | .succeed => [⟨0, "Ok(())"⟩]

def armOf (message : Message) : Opcode × String :=
  (message.opcode, naming.reader message)

def dispatcherBody (messages : List Message) : List DispatchStatement :=
  [.start, .readOpcode, .branch (messages.map armOf), .succeed]

def dispatcherOpening (traitName : String) : String :=
  "pub(super) fn dispatch<H: " ++ traitName ++
    ">(handler: &mut H, input: &[u8]) -> Result<(), DispatchError> \x7b"

/-- The code of the routine that dispatches. -/
def dispatcherLines (traitName : String) (messages : List Message) : List Line :=
  braced (dispatcherOpening traitName)
    ((dispatcherBody messages).flatMap DispatchStatement.lines)

theorem draws_dispatcher (traitName : String) (messages : List Message) :
    Draws (dispatcher traitName messages) (dispatcherLines traitName messages) := by
  have hopening : Draws [.line (dispatcherOpening traitName)] _ :=
    draws_line (isBlankText_append_right rfl)
  have hstart := draws_line (rfl : isBlankText "let mut cursor = Cursor::new(input);" = false)
  have hopcode :=
    draws_line (rfl : isBlankText "let opcode: i16 = Decode::decode(&mut cursor)?;" = false)
  have harms : Draws (messages.map dispatchArm)
      ((messages.map armOf).map fun arm => ⟨0, armText arm⟩) := by
    have hdraws := draws_lines (messages.map armOf) fun arm =>
      (isBlankText_append_right rfl : isBlankText (armText arm) = false)
    rwa [List.map_map] at hdraws
  have hother := draws_line
    (rfl : isBlankText "_ => return Err(DispatchError::UnknownOpcode(opcode))," = false)
  have hok := draws_line (rfl : isBlankText "Ok(())" = false)
  have hclose := draws_line (rfl : isBlankText "\x7d" = false)
  have hmatch := (harms.append hother).block "match opcode"
  have hbody := hstart.append (hopcode.append (hmatch.append hok))
  have hlines := (hopening.append hbody.nested).append hclose
  simp only [dispatcherLines, dispatcherBody, List.flatMap_cons, List.flatMap_nil,
    DispatchStatement.lines, List.append_nil]
  exact hlines

/-- The method of the trait leaves everything to that routine. -/
def providedLines : List Line :=
  [⟨0, "fn dispatch(&mut self, input: &[u8]) -> Result<(), DispatchError>"⟩, ⟨0, "where"⟩,
   ⟨1, "Self: Sized,"⟩] ++ braced "\x7b" [⟨0, "private::dispatch(self, input)"⟩]

/-- The steps that write the method. -/
def provided : List Step :=
  [.line "fn dispatch(&mut self, input: &[u8]) -> Result<(), DispatchError>", .line "where"] ++
  nested [.line "Self: Sized,"] ++
  [.line "\x7b"] ++
  nested [.line "private::dispatch(self, input)"] ++
  [.line "\x7d"]

theorem draws_provided : Draws provided providedLines := by
  have hheader := (draws_line (rfl : isBlankText
    "fn dispatch(&mut self, input: &[u8]) -> Result<(), DispatchError>" = false)).append
    (draws_line (rfl : isBlankText "where" = false))
  have hsized := (draws_line (rfl : isBlankText "Self: Sized," = false)).nested
  have hopen := draws_line (rfl : isBlankText "\x7b" = false)
  have hcall := (draws_line (rfl : isBlankText "private::dispatch(self, input)" = false)).nested
  have hclose := draws_line (rfl : isBlankText "\x7d" = false)
  exact (((hheader.append hsized).append hopen).append hcall).append hclose

/-! ## Places -/

section Places

variable {plan : RolePlan} {message : Message}

theorem occurs_of_trait {part : List Step} (h : Occurs part (traitLayout plan)) :
    Occurs part (moduleLayout plan) :=
  .cons rfl (.block (((h.append_left (endsLine_of_isWhole rfl)).append_right _).append_right _) _)

theorem occurs_of_private {part : List Step} (h : Occurs part (privateLayout plan)) :
    Occurs part (moduleLayout plan) :=
  .cons rfl (.block (h.append_left (endsLine_of_isWhole rfl)) _)

theorem occurs_handler (h : message ∈ plan.incoming) :
    Occurs [handlerDeclaration message] (moduleLayout plan) := by
  have hhandlers : Occurs [handlerDeclaration message] (plan.incoming.map handlerDeclaration) :=
    .map h fun _ _ => rfl
  exact occurs_of_trait (.cons rfl (.block ((((((((hhandlers.append_left
    (endsLine_of_isWhole rfl)).append_right _).append_right _).append_right _).append_right
    _).append_right _).append_right _).append_right _) _))

/-- What stands in front of the routines that send. -/
theorem endsLine_handlers (plan : RolePlan) :
    EndsLine ([.comment "//" "Implement these to handle incoming messages."] ++
      plan.incoming.map handlerDeclaration ++
      [.blank, .comment "//" "Use these to send messages to the peer."]) :=
  endsLine_of_isWhole (by simp [Step.isWhole, handlerDeclaration])

theorem occurs_sender (h : message ∈ plan.outgoing) :
    Occurs [sender message] (moduleLayout plan) := by
  have hsenders : Occurs [sender message] (plan.outgoing.flatMap fun m => [sender m, .blank]) :=
    Occurs.of_append (.flatMap (fun m => [sender m, .blank]) h fun _ _ => endsLine_of_isWhole rfl)
  exact occurs_of_trait (.cons rfl (.block ((((((hsenders.append_left
    (endsLine_handlers plan)).append_right _).append_right _).append_right _).append_right
    _).append_right _) _))

theorem occurs_provided (plan : RolePlan) : Occurs provided (moduleLayout plan) := by
  have hends := ((endsLine_handlers plan).append
    (.flatMap fun m (_ : m ∈ plan.outgoing) => (endsLine_of_isWhole rfl :
      EndsLine [sender m, .blank]))).append (endsLine_of_isWhole rfl :
    EndsLine [.line "/// Decodes one incoming message and calls the matching handler."])
  have hbody := (Occurs.self provided).append_left hends
  refine occurs_of_trait (.cons rfl (.block ?_ _))
  simpa only [provided, List.append_assoc, List.cons_append, List.nil_append] using hbody

theorem occurs_reader (h : message ∈ plan.incoming) :
    Occurs (reader (traitName plan.interface.name plan.role) message) (moduleLayout plan) := by
  have hreaders : Occurs (reader (traitName plan.interface.name plan.role) message ++ [.blank])
      (plan.incoming.flatMap fun m =>
        reader (traitName plan.interface.name plan.role) m ++ [.blank]) :=
    .flatMap (fun m => reader (traitName plan.interface.name plan.role) m ++ [.blank]) h
      fun _ _ => .concat_blank _
  exact occurs_of_private (.cons rfl (.block ((hreaders.of_append.append_left
    (endsLine_of_isWhole rfl)).append_right _) _))

theorem occurs_dispatcher (plan : RolePlan) :
    Occurs (dispatcher (traitName plan.interface.name plan.role) plan.incoming)
      (moduleLayout plan) := by
  have hends : EndsLine ([.line ("use super::" ++ traitName plan.interface.name plan.role ++ ";"),
      .line "use ::ipcgen_wire::\x7bCursor, Decode, DecodeError, DispatchError\x7d;", .blank] ++
      plan.incoming.flatMap fun m =>
        reader (traitName plan.interface.name plan.role) m ++ [.blank]) :=
    .append (endsLine_of_isWhole rfl) (.flatMap fun _ _ => .concat_blank _)
  exact occurs_of_private (.cons rfl (.block ((Occurs.self _).append_left hends) _))

end Places

/-! ## Passages -/

section Passages

variable {plan : RolePlan} {text : String}
  (hrender : render? Target.rust.indentation none (moduleLayout plan) = some text)
include hrender

theorem passage_handler {message : Message} (h : message ∈ plan.incoming) :
    HasPassage Target.rust.indentation text [⟨0, "fn " ++ naming.handler message ++ "(&mut self" ++
      parameterList Spelling.receive message.parameters ++ ");"⟩] :=
  (occurs_handler h).passage (draws_line (isBlankText_append_right rfl)) hrender

theorem passage_sender {message : Message} (h : message ∈ plan.outgoing) :
    HasPassage Target.rust.indentation text (senderLines message) :=
  (occurs_sender h).passage (draws_sender message) hrender

theorem passage_reader {message : Message} (h : message ∈ plan.incoming) :
    HasPassage Target.rust.indentation text
      (readerLines (traitName plan.interface.name plan.role) message) :=
  (occurs_reader h).passage (draws_reader _ message) hrender

theorem passage_dispatcher :
    HasPassage Target.rust.indentation text
      (dispatcherLines (traitName plan.interface.name plan.role) plan.incoming) :=
  (occurs_dispatcher plan).passage (draws_dispatcher _ _) hrender

theorem passage_provided : HasPassage Target.rust.indentation text providedLines :=
  (occurs_provided plan).passage draws_provided hrender

end Passages

end Bindery.Rust
