import Bindery.Schema.Opcode
import Bindery.Schema.Type

/-!
# Interfaces

An interface joins a client to a server. It lists the rpcs the client starts (`sends`) and those
the server starts (`receives`). An rpc has a request, and a reply if it declares any parameter for
one. The position of an rpc in its list fixes its opcode.
-/

namespace Bindery

/-- A named, typed value in a message. -/
structure Parameter where
  name : String
  type : ParamType
  deriving DecidableEq, Repr

/-- A call between the two sides, with the parameters of its request and of its reply. -/
structure Rpc where
  name : String
  request : List Parameter := []
  reply : List Parameter := []
  deriving DecidableEq, Repr

namespace Rpc

/-- The rpc with one more request parameter. -/
def withRequest (rpc : Rpc) (parameter : Parameter) : Rpc :=
  { rpc with request := rpc.request ++ [parameter] }

/-- The rpc with one more reply parameter. -/
def withReply (rpc : Rpc) (parameter : Parameter) : Rpc :=
  { rpc with reply := rpc.reply ++ [parameter] }

def hasReply (rpc : Rpc) : Bool :=
  !rpc.reply.isEmpty

end Rpc

/-- The two lists of rpcs in an interface. -/
inductive RpcList where
  | sends
  | receives
  deriving DecidableEq, Repr

namespace RpcList

/-- The list's name in a definition. -/
def name : RpcList → String
  | .sends => "sends"
  | .receives => "receives"

/-- The opcode of the request at `index` of the list. -/
def opcode? : RpcList → Nat → Option Opcode
  | .sends => Opcode.forSend?
  | .receives => Opcode.forReceive?

def capacity : RpcList → Nat
  | .sends => Opcode.maxSends
  | .receives => Opcode.maxReceives

end RpcList

/-- What a client and a server can ask of each other. -/
structure Interface where
  name : String
  sends : List Rpc := []
  receives : List Rpc := []
  deriving DecidableEq, Repr

namespace Interface

def rpcs (interface : Interface) : RpcList → List Rpc
  | .sends => interface.sends
  | .receives => interface.receives

/-- The interface with one more rpc at the end of a list. -/
def attach (interface : Interface) (rpc : Rpc) : RpcList → Interface
  | .sends => { interface with sends := interface.sends ++ [rpc] }
  | .receives => { interface with receives := interface.receives ++ [rpc] }

end Interface

end Bindery
