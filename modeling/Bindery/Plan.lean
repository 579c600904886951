import Bindery.Generate.Error
import Bindery.Schema.Check

/-!
# What each role emits and accepts

A role sees every rpc either as outbound (it sends the request) or as inbound (its peer does).
With that and the question whether the rpc is answered, one rule says which leg the role writes
and which it has to read. The client's view of what an interface sends is the server's view of
what it receives and the other way round, so whatever one role emits, the other accepts.
-/

namespace Bindery

/-- The two sides of an interface. -/
inductive Role where
  | client
  | server
  deriving DecidableEq, Repr

/-- Whether a role starts an rpc or its peer does. -/
inductive Direction where
  | outbound
  | inbound
  deriving DecidableEq, Repr

namespace Role

/-- Both roles, in the order they are generated. -/
def both : List Role := [.client, .server]

def peer : Role → Role
  | .client => .server
  | .server => .client

/-- Whether the role starts the rpcs of a list. -/
def direction : Role → RpcList → Direction
  | .client, .sends | .server, .receives => .outbound
  | .client, .receives | .server, .sends => .inbound

/-- The role's name in messages and file names. -/
def name : Role → String
  | .client => "client"
  | .server => "server"

/-- The role's name as a part of generated names. -/
def label : Role → String
  | .client => "Client"
  | .server => "Server"

end Role

/-- The two messages of an rpc. -/
inductive Leg where
  | request
  | reply
  deriving DecidableEq, Repr

/-- The leg's name as a part of generated names. -/
def Leg.label : Leg → String
  | .request => "Request"
  | .reply => "Reply"

/-- One kind of message of an interface: a leg of an rpc, with the opcode of the rpc's request. -/
structure Message where
  rpc : Rpc
  leg : Leg
  requestOpcode : Opcode
  deriving DecidableEq, Repr

namespace Message

/-- The opcode that starts such a message. -/
def opcode (message : Message) : Opcode :=
  match message.leg with
  | .request => message.requestOpcode
  | .reply => message.requestOpcode.reply

def parameters (message : Message) : List Parameter :=
  match message.leg with
  | .request => message.rpc.request
  | .reply => message.rpc.reply

def types (message : Message) : List ParamType :=
  message.parameters.map Parameter.type

end Message

/-- The legs of one rpc that a role writes and reads. -/
structure Legs where
  outgoing : Option Message
  incoming : Option Message
  deriving DecidableEq, Repr

/-- The legs of an rpc as seen by a role that starts it or does not. -/
def Legs.ofRpc (rpc : Rpc) (opcode : Opcode) (direction : Direction) : Legs :=
  let request : Message := ⟨rpc, .request, opcode⟩
  let reply : Option Message := if rpc.hasReply then some ⟨rpc, .reply, opcode⟩ else none
  match direction with
  | .outbound => ⟨some request, reply⟩
  | .inbound => ⟨reply, some request⟩

/-- Everything one role of an interface emits, and the table by which it accepts messages. -/
structure RolePlan where
  interface : Interface
  role : Role
  outgoing : List Message
  incoming : List Message
  deriving DecidableEq, Repr

namespace RolePlan

/-- The legs of every rpc of a list, as the role sees them. -/
def legs (interface : Interface) (role : Role) (list : RpcList) :
    Except SchemaError (List Legs) := do
  let rpcs ← interface.numbered list
  return rpcs.map fun (opcode, rpc) => Legs.ofRpc rpc opcode (role.direction list)

/-- Plans a role of an interface: first what the interface sends, then what it receives. -/
def ofInterface (interface : Interface) (role : Role) : Except GenerateError RolePlan := do
  interface.check.mapError .schema
  let sends ← (legs interface role .sends).mapError .schema
  let receives ← (legs interface role .receives).mapError .schema
  let all := sends ++ receives
  let incoming := all.filterMap Legs.incoming
  checkDistinct Message.opcode (fun _ => .ok ())
    (fun message => .opcodeCollision interface.name message.opcode) incoming
  return { interface, role, outgoing := all.filterMap Legs.outgoing, incoming }

/-- The message that starts with this opcode, among those the role accepts. -/
def find? (plan : RolePlan) (opcode : Opcode) : Option Message :=
  plan.incoming.find? fun message => message.opcode = opcode

def emittedOpcodes (plan : RolePlan) : List Opcode :=
  plan.outgoing.map Message.opcode

def acceptedOpcodes (plan : RolePlan) : List Opcode :=
  plan.incoming.map Message.opcode

end RolePlan

end Bindery
