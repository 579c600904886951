import Bindery.Target.RustNames

/-!
# Rust modules

Every interface becomes one module per role that holds a trait named after the role. Handlers are
required methods, the routines that send and the one that dispatches are provided ones, and the
routines that read messages live in a private submodule.
-/

namespace Bindery

namespace Rust

open Layout

def handlerDeclaration (message : Message) : Step :=
  .line ("fn " ++ naming.handler message ++ "(&mut self" ++
    parameterList Spelling.receive message.parameters ++ ");")

def putParameter (p : Parameter) : Step :=
  let reference := if (dialect.spell p.type).byReference then "" else "&"
  .line ("message.put(" ++ reference ++ parameterName p.name ++ ")?;")

def sender (message : Message) : Step :=
  let header := "fn " ++ naming.sender message ++ "(&mut self" ++
    parameterList Spelling.send message.parameters ++ ") -> Result<(), EncodeError>"
  .block header <|
    [.line ("let mut message = MessageBuilder::new(" ++ message.opcode.digits ++ ");")] ++
    message.parameters.map putParameter ++
    [.line "self.send(message.finish());", .line "Ok(())"]

def traitLayout (plan : RolePlan) : List Step :=
  [.line ("/// " ++ plan.role.label ++ " side of the `" ++ plan.interface.name ++ "` interface."),
   .block ("pub trait " ++ traitName plan.interface.name plan.role ++ ": Endpoint") <|
     [.comment "//" "Implement these to handle incoming messages."] ++
     plan.incoming.map handlerDeclaration ++
     [.blank, .comment "//" "Use these to send messages to the peer."] ++
     plan.outgoing.flatMap (fun message => [sender message, .blank]) ++
     [.line "/// Decodes one incoming message and calls the matching handler.",
      .line "fn dispatch(&mut self, input: &[u8]) -> Result<(), DispatchError>",
      .line "where"] ++
     nested [.line "Self: Sized,"] ++
     [.line "\x7b"] ++
     nested [.line "private::dispatch(self, input)"] ++
     [.line "\x7d"]]

def readParameter (p : Parameter) : Step :=
  .line ("let " ++ parameterName p.name ++ ": " ++ (dialect.spell p.type).simple ++
    " = Decode::decode(cursor)?;")

/-- A parameter as the handler takes it. -/
def handlerArgument (p : Parameter) : String :=
  let reference := if (dialect.spell p.type).byReference then "&" else ""
  reference ++ parameterName p.name

/-- The routine that reads a message and calls its handler. It stops at the first parameter that
cannot be read. -/
def reader (traitName : String) (message : Message) : List Step :=
  [.line ("pub(super) fn " ++ naming.reader message ++ "<H: " ++ traitName ++
    ">(handler: &mut H, cursor: &mut Cursor<'_>) -> Result<(), DecodeError> \x7b")] ++
  nested (
    message.parameters.map readParameter ++
    [.write ("handler." ++ naming.handler message ++ "("),
     .separated ", " false (message.parameters.map handlerArgument),
     .line ");",
     .line "Ok(())"]) ++
  [.line "\x7d"]

def dispatchArm (message : Message) : Step :=
  .line (message.opcode.digits ++ " => " ++ naming.reader message ++ "(handler, &mut cursor)?,")

/-- The routine that reads an opcode and hands the rest to the reader of its message. -/
def dispatcher (traitName : String) (messages : List Message) : List Step :=
  [.line ("pub(super) fn dispatch<H: " ++ traitName ++
    ">(handler: &mut H, input: &[u8]) -> Result<(), DispatchError> \x7b")] ++
  nested
    [.line "let mut cursor = Cursor::new(input);",
     .line "let opcode: i16 = Decode::decode(&mut cursor)?;",
     .block "match opcode" <|
       messages.map dispatchArm ++
       [.line "_ => return Err(DispatchError::UnknownOpcode(opcode)),"],
     .line "Ok(())"] ++
  [.line "\x7d"]

def privateLayout (plan : RolePlan) : List Step :=
  let traitName := traitName plan.interface.name plan.role
  [.comment "//" "Generated plumbing, not meant to be called directly.",
   .block "mod private" <|
     [.line ("use super::" ++ traitName ++ ";"),
      .line "use ::ipcgen_wire::\x7bCursor, Decode, DecodeError, DispatchError\x7d;",
      .blank] ++
     plan.incoming.flatMap (fun message => reader traitName message ++ [.blank]) ++
     dispatcher traitName plan.incoming]

def moduleLayout (plan : RolePlan) : List Step :=
  [.line "#[allow(clippy::all, unused)]",
   .block ("pub mod " ++ moduleName plan.interface.name plan.role) <|
     [.line ("use ::ipcgen_wire::\x7bDispatchError, EncodeError, Endpoint, " ++
        "MessageBuilder\x7d;"),
      .blank] ++
     traitLayout plan ++
     [.blank] ++
     privateLayout plan]

end Rust

def Target.rust : Target where
  naming := Rust.naming
  dialect := Rust.dialect
  indentation := "    "
  checkTogether := Rust.checkModules
  checkNames := Rust.checkNames
  layout := Rust.moduleLayout

end Bindery
