import Bindery.Proofs.Plan
import Bindery.Proofs.RoundTrip
import Bindery.Wire.Endpoint

/-!
# A message arrives as it was sent

The bytes of a message are its opcode and its arguments, each of which is read back exactly. The
peer's table has an entry for every opcode a role writes, and it is the message itself; so the peer
reads the arguments by the types they were written with, and nothing is left over.

Main result: `delivered_intact`, for every message of every interface that passes its check.
-/

namespace Bindery

open Wire

/-! ## The bytes of a message -/

theorem Wire.reads_header (opcode : Opcode) :
    (decode .i16).Reads (header opcode) opcode.word :=
  reads_encode .i16 opcode.word rfl

theorem Message.encode_eq_ok_iff {message : Message} {arguments : Arguments message.types}
    {bytes : Bytes} :
    message.encode arguments = .ok bytes ↔
      (encodeAll message.types arguments).fault = none ∧
        header message.opcode ++ (encodeAll message.types arguments).bytes = bytes :=
  Emission.complete_eq_ok_iff

theorem Message.encode_of_encodable {message : Message} {arguments : Arguments message.types}
    (h : Arguments.Encodable message.types arguments) :
    ∃ bytes, message.encode arguments = .ok bytes :=
  ⟨_, Message.encode_eq_ok_iff.mpr ⟨(fault_encodeAll message.types arguments).mpr h, rfl⟩⟩

/-- The opcode and the arguments are read back to the last byte. -/
theorem Message.decode_of_encode {message : Message} {arguments : Arguments message.types}
    {bytes : Bytes} (h : message.encode arguments = .ok bytes) :
    ∃ cursor after, decode .i16 (.start bytes) = (.ok message.opcode.word, cursor) ∧
      decodeAll message.types cursor = (.ok arguments, after) ∧ after.isEmpty = true := by
  obtain ⟨hfault, rfl⟩ := Message.encode_eq_ok_iff.mp h
  have hopcode := reads_header message.opcode 0 (encodeAll message.types arguments).bytes
  have harguments := reads_encodeAll message.types arguments hfault
    (0 + (header message.opcode).length) []
  rw [List.append_nil] at harguments
  exact ⟨_, _, hopcode, harguments, rfl⟩

/-! ## The peer's entry -/

namespace Interface.WellFormed

variable {interface : Interface} {role : Role} {message : Message}

/-- The peer finds the message that was written under its opcode. -/
theorem find?_peer (h : interface.WellFormed) (hmem : message ∈ (interface.plan role).outgoing) :
    (interface.plan role.peer).find? message.opcode = some message := by
  refine (RolePlan.find?_eq_some_iff (h.nodup_accepted role.peer)).mpr ⟨?_, rfl⟩
  rwa [plan, Role.peer_peer]

/-- Dispatching at the peer makes the call that was sent. -/
theorem dispatch_peer (h : interface.WellFormed) (hmem : message ∈ (interface.plan role).outgoing)
    {arguments : Arguments message.types} {bytes : Bytes}
    (hencode : message.encode arguments = .ok bytes) :
    (interface.plan role.peer).dispatch bytes = .ok ⟨message, arguments⟩ := by
  obtain ⟨cursor, after, hopcode, harguments, -⟩ := Message.decode_of_encode hencode
  simp only [RolePlan.dispatch, hopcode, h.find?_peer hmem, harguments]

end Interface.WellFormed

/-- **End to end.** A message that a role can write, with arguments each of which can be encoded,
is encoded; at the other side its opcode is read, leads to the same leg of the same rpc, and the
arguments are read back to the last byte. -/
theorem delivered_intact {interface : Interface} (h : interface.check = .ok ()) (role : Role) :
    ∃ mine theirs, RolePlan.ofInterface interface role = .ok mine ∧
      RolePlan.ofInterface interface role.peer = .ok theirs ∧
      ∀ message ∈ mine.outgoing, ∀ arguments : Arguments message.types,
        Arguments.Encodable message.types arguments →
        ∃ bytes, message.encode arguments = .ok bytes ∧
          ∃ word cursor, decode .i16 (.start bytes) = (.ok word, cursor) ∧
            theirs.find? ⟨word⟩ = some message ∧
            ∃ after, decodeAll message.types cursor = (.ok arguments, after) ∧
              after.isEmpty = true := by
  have hwf := Interface.check_eq_ok_iff.mp h
  refine ⟨_, _, RolePlan.ofInterface_of_wellFormed hwf role,
    RolePlan.ofInterface_of_wellFormed hwf role.peer, ?_⟩
  intro message hmem arguments hencodable
  obtain ⟨bytes, hencode⟩ := Message.encode_of_encodable hencodable
  obtain ⟨cursor, after, hopcode, harguments, hempty⟩ := Message.decode_of_encode hencode
  exact ⟨bytes, hencode, message.opcode.word, cursor, hopcode, hwf.find?_peer hmem, after,
    harguments, hempty⟩

/-- Three series of readings, one of them empty. -/
def Conformance.sample : Call where
  message := ⟨telemetry.sends[0], .request, ⟨1⟩⟩
  arguments :=
    ((7 : UInt8), ([[1, 2], [], [0xffff]] : List (List UInt16)), (0xdeadbeef : UInt32), ())

open Conformance in
theorem delivered_intact_sample :
    ∃ mine theirs, RolePlan.ofInterface telemetry .client = .ok mine ∧
      RolePlan.ofInterface telemetry .server = .ok theirs ∧ sample.message ∈ mine.outgoing ∧
      ∃ bytes, sample.message.encode sample.arguments = .ok bytes ∧
        ∃ word cursor, decode .i16 (.start bytes) = (.ok word, cursor) ∧
          theirs.find? ⟨word⟩ = some sample.message ∧
          ∃ after, decodeAll sample.message.types cursor = (.ok sample.arguments, after) ∧
            after.isEmpty = true := by
  have hwf := Conformance.wellFormed telemetry (by decide)
  obtain ⟨mine, theirs, hmine, htheirs, hdelivered⟩ :=
    delivered_intact (Interface.check_eq_ok_iff.mpr hwf) .client
  have hmem : sample.message ∈ mine.outgoing := by
    have hplan := hmine.symm.trans (RolePlan.ofInterface_of_wellFormed hwf .client)
    rw [Except.ok.inj hplan]
    decide
  exact ⟨mine, theirs, hmine, htheirs, hmem, hdelivered sample.message hmem sample.arguments
    ⟨⟨_, rfl⟩, ⟨_, rfl⟩, ⟨_, rfl⟩, trivial⟩⟩

end Bindery
