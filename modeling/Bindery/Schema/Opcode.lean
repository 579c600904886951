/-!
# Opcodes

A message starts with a signed 16-bit opcode. Requests have positive opcodes: those of the rpcs an
interface sends count up from 1, those of the rpcs it receives from 0x4000. The reply to a request
carries the request's opcode negated.
-/

namespace Bindery

/-- The number that tells one kind of message of an interface from the others. -/
structure Opcode where
  word : Int16
  deriving DecidableEq, Hashable, Repr

namespace Opcode

def firstSend : Nat := 1

def firstReceive : Nat := 0x4000

/-- How many rpcs an interface can send before their opcodes reach those it receives. -/
def maxSends : Nat := firstReceive - firstSend

/-- How many rpcs an interface can receive before their opcodes leave 16 bits. -/
def maxReceives : Nat := 0x8000 - firstReceive

/-- The opcode of the `index`th rpc an interface sends. -/
def forSend? (index : Nat) : Option Opcode :=
  if index < maxSends then some ⟨Int16.ofNat (firstSend + index)⟩ else none

/-- The opcode of the `index`th rpc an interface receives. -/
def forReceive? (index : Nat) : Option Opcode :=
  if index < maxReceives then some ⟨Int16.ofNat (firstReceive + index)⟩ else none

/-- The opcode of the reply to a request with this opcode. -/
def reply (opcode : Opcode) : Opcode :=
  ⟨-opcode.word⟩

def toInt (opcode : Opcode) : Int :=
  opcode.word.toInt

/-- The opcode in decimal digits, with a minus sign if it is negative. -/
def digits (opcode : Opcode) : String :=
  toString opcode.toInt

end Opcode

end Bindery
