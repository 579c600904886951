import Bindery.Target.CppNames

/-!
# C++ classes

Every interface becomes one class per role, derived from the role's transport class. That class
provides the overloads which move one value to or from a message, and the generated bodies call
them parameter by parameter. Dispatching answers 0, a negative number if the message could not be
read, and another if its opcode is unknown.
-/

namespace Bindery

namespace Cpp

open Layout

/-- What dispatching returns for a message that cannot be read. -/
def decodeFailed : Int := -1

/-- What dispatching returns for an opcode without a handler. -/
def unknownOpcode : Int := -2

def handlerDeclaration (message : Message) : Step :=
  .line ("virtual void " ++ naming.handler message ++ "(" ++
    parameterList Spelling.receive message.parameters ++ ") = 0;")

def sender (message : Message) : Step :=
  let header := "void " ++ naming.sender message ++ "(" ++
    parameterList Spelling.send message.parameters ++ ")"
  .block header <|
    [.line ("EncodeToBuffer(static_cast<int16_t>(" ++ message.opcode.digits ++
      "), SendCursor());")] ++
    message.parameters.map (fun p =>
      .line ("EncodeToBuffer(" ++ parameterName p.name ++ ", SendCursor());")) ++
    [.line "Send();"]

def readParameter (p : Parameter) : List Step :=
  [.line ((dialect.spell p.type).simple ++ " " ++ parameterName p.name ++ ";"),
   .line ("if (!DecodeFromBuffer(cursor, &" ++ parameterName p.name ++ "))")] ++
  nested [.line "return false;"]

/-- The routine that reads a message and calls its handler. It stops at the first parameter that
cannot be read. -/
def reader (message : Message) : Step :=
  .block ("bool " ++ naming.reader message ++ "(OutputCursor* cursor)") <|
    message.parameters.flatMap readParameter ++
    [.write (naming.handler message ++ "("),
     .separated ", " false (message.parameters.map fun p => parameterName p.name),
     .line ");",
     .line "return true;"]

def dispatchCase (message : Message) : List Step :=
  [.line ("case " ++ message.opcode.digits ++ ":")] ++
  nested (
    [.line ("if (!" ++ naming.reader message ++ "(cursor))")] ++
    nested [.line ("return " ++ toString decodeFailed ++ ";")] ++
    [.line "break;", .blank])

/-- The routine that reads an opcode and hands the rest to the reader of its message. -/
def dispatcher (messages : List Message) : Step :=
  .block "int Dispatch(OutputCursor* cursor)" <|
    [.line "int16_t num;", .line "if (!DecodeFromBuffer(cursor, &num))"] ++
    nested [.line ("return " ++ toString decodeFailed ++ ";")] ++
    [.blank,
     .block "switch (num)" <|
       messages.flatMap dispatchCase ++
       [.line "default:"] ++
       nested [.line ("return " ++ toString unknownOpcode ++ ";")],
     .blank,
     .line "return 0;"]

/-- The class for a plan. Access specifiers stand one space in, members one step. -/
def classLayout (plan : RolePlan) : List Step :=
  [.line ("class " ++ className plan.interface.name plan.role ++ " : public " ++
     baseClass plan.role ++ " \x7b"),
   .line " public:"] ++
  nested (
    [.comment "//" "Implement these to handle incoming messages."] ++
    plan.incoming.map handlerDeclaration ++
    [.blank, .comment "//" "Use these to send messages to the peer."] ++
    plan.outgoing.map sender) ++
  [.blank, .line " private:"] ++
  nested (
    [.comment "//" "Generated plumbing, not meant to be called directly."] ++
    plan.incoming.map reader ++
    [.blank,
     .comment "//" ("Decodes one incoming message and calls the matching handler.\n" ++
       "Returns 0 on success, " ++ toString decodeFailed ++
       " if the message could not be decoded and\n" ++
       toString unknownOpcode ++ " if its opcode is unknown."),
     dispatcher plan.incoming]) ++
  [.line "\x7d;"]

end Cpp

def Target.cpp : Target where
  naming := Cpp.naming
  dialect := Cpp.dialect
  indentation := "  "
  checkTogether _ _ := .ok ()
  checkNames := Cpp.checkNames
  layout := Cpp.classLayout

end Bindery
