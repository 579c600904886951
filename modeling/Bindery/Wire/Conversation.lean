import Bindery.Wire.Endpoint

/-!
# Conversations

A client and a server of one interface, each with messages on the way to the other.
-/

namespace Bindery

/-- The two endpoints of an interface. -/
structure Conversation where
  client : Endpoint
  server : Endpoint

namespace Conversation

/-- The conversation of an interface before anything was said. -/
def start (interface : Interface) : Except GenerateError Conversation := do
  let client ← RolePlan.ofInterface interface .client
  let server ← RolePlan.ofInterface interface .server
  return { client := { plan := client }, server := { plan := server } }

def endpoint (conversation : Conversation) : Role → Endpoint
  | .client => conversation.client
  | .server => conversation.server

def set (conversation : Conversation) (role : Role) (endpoint : Endpoint) : Conversation :=
  match role with
  | .client => { conversation with client := endpoint }
  | .server => { conversation with server := endpoint }

def send (conversation : Conversation) (role : Role) (message : Message)
    (arguments : Arguments message.types) : Except Wire.TooLong Unit × Conversation :=
  let (result, endpoint) := (conversation.endpoint role).send message arguments
  (result, conversation.set role endpoint)

def receive (conversation : Conversation) (role : Role) (input : Bytes) :
    Except Wire.DispatchError Unit × Conversation :=
  let (result, endpoint) := (conversation.endpoint role).receive input
  (result, conversation.set role endpoint)

/-- Delivers all that a role has sent to its peer, oldest first. -/
def deliver (conversation : Conversation) (role : Role) :
    List (Except Wire.DispatchError Unit) × Conversation :=
  let sender := conversation.endpoint role
  let (results, receiver) := (conversation.endpoint role.peer).receiveAll sender.outbox
  (results, (conversation.set role { sender with outbox := [] }).set role.peer receiver)

end Conversation

end Bindery
