import Bindery.Plan
import Bindery.Wire.Decode
import Bindery.Wire.Encode

/-!
# Endpoints

What the generated code does when it runs. An endpoint plays one role of an interface: it sends
messages by putting their bytes into an outbox, and it dispatches the bytes it is given to the
handler of the message they hold. A message is its opcode and then its parameters, in order.
-/

namespace Bindery

namespace Wire

/-- Why a message was not handled. -/
inductive DispatchError where
  | decode (cause : DecodeError)
  | unknownOpcode (opcode : Opcode)
  deriving DecidableEq, Repr

namespace DispatchError

def message : DispatchError → String
  | .decode cause => "decode error: " ++ cause.message
  | .unknownOpcode opcode => "unknown opcode " ++ opcode.digits

/-- The faults behind this one, in words. -/
def causes : DispatchError → List String
  | .decode cause => [cause.message]
  | .unknownOpcode _ => []

end DispatchError

/-- The bytes that start a message with this opcode. -/
def header (opcode : Opcode) : Bytes :=
  (encode .i16 opcode.word).bytes

end Wire

/-- The bytes of a message with these arguments. -/
def Message.encode (message : Message) (arguments : Arguments message.types) :
    Except Wire.TooLong Bytes :=
  (Wire.Emission.andThen ⟨Wire.header message.opcode, none⟩
    (Wire.encodeAll message.types arguments)).complete

/-- A call of a handler: the message it is for, and the arguments it gets. -/
structure Call where
  message : Message
  arguments : Arguments message.types

/-- The call that the bytes of a message lead to. Bytes behind the last parameter are not looked
at. -/
def RolePlan.dispatch (plan : RolePlan) (input : Bytes) : Except Wire.DispatchError Call :=
  match Wire.decode .i16 (.start input) with
  | (.error e, _) => .error (.decode e)
  | (.ok word, cursor) =>
    match plan.find? ⟨word⟩ with
    | none => .error (.unknownOpcode ⟨word⟩)
    | some message =>
      match Wire.decodeAll message.types cursor with
      | (.error e, _) => .error (.decode e)
      | (.ok arguments, _) => .ok ⟨message, arguments⟩

/-- A role of an interface at work, with the messages it has sent and the calls of its handlers so
far, oldest first. -/
structure Endpoint where
  plan : RolePlan
  outbox : List Bytes := []
  calls : List Call := []

namespace Endpoint

/-- Sends a message. A message with an argument that is too long is not sent at all. -/
def send (endpoint : Endpoint) (message : Message) (arguments : Arguments message.types) :
    Except Wire.TooLong Unit × Endpoint :=
  match message.encode arguments with
  | .ok bytes => (.ok (), { endpoint with outbox := endpoint.outbox ++ [bytes] })
  | .error e => (.error e, endpoint)

/-- Handles the bytes of a message. -/
def receive (endpoint : Endpoint) (input : Bytes) : Except Wire.DispatchError Unit × Endpoint :=
  match endpoint.plan.dispatch input with
  | .ok call => (.ok (), { endpoint with calls := endpoint.calls ++ [call] })
  | .error e => (.error e, endpoint)

def receiveAll (endpoint : Endpoint) :
    (inputs : List Bytes) → List (Except Wire.DispatchError Unit) × Endpoint
  | [] => ([], endpoint)
  | input :: inputs =>
    let (result, endpoint) := endpoint.receive input
    let (results, endpoint) := endpoint.receiveAll inputs
    (result :: results, endpoint)

end Endpoint

end Bindery
