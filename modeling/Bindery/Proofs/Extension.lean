import Bindery.Proofs.Delivery

/-!
# Interfaces that grow

Rpcs are numbered by their position, so an interface can grow at the end of its lists while peers
that were built for it stay in use. Each list then starts with the numbers it had
(`numbered_of_extends`), and none of them has to do with how long the other list is.

**Old and new peers.** A message of the old interface is a message of the new one, since a place
keeps its rpc and its number (`emitted_of_extends`). A message of the new interface is known to an
old peer exactly if it is a message of the old one: its opcode is in no other use
(`find?_of_extends`). And that depends only on where its rpc stands (`mem_emitted_iff_index`).

Main result: `growth_compatible`.
-/

namespace Bindery

namespace Interface

/-- Each list of the new interface is that of the old one with nothing but further rpcs behind. -/
structure Extends (new old : Interface) : Prop where
  sends : old.sends <+: new.sends
  receives : old.receives <+: new.receives

/-- The message is a leg of the rpc that stands at `index` of a list, under the number which that
position gives it. -/
def Places (interface : Interface) (list : RpcList) (index : Nat) (message : Message) : Prop :=
  ∃ entries, interface.numbered list = .ok entries ∧
    entries[index]? = some (message.requestOpcode, message.rpc)

section Places

variable {interface : Interface} {list : RpcList} {index : Nat} {message : Message}

theorem WellFormed.places_iff (h : interface.WellFormed) :
    interface.Places list index message ↔
      (interface.rpcs list)[index]? = some message.rpc ∧
        message.requestOpcode = list.opcode index := by
  simp only [Places, h.numbered_eq, Except.ok.injEq, exists_eq_left', List.getElem?_map,
    List.getElem?_zipIdx, Option.map_map, Option.map_eq_some_iff, Function.comp_apply,
    Nat.zero_add, Prod.mk.injEq]
  constructor
  · rintro ⟨rpc, hrpc, hopcode, rfl⟩
    exact ⟨hrpc, hopcode.symm⟩
  · rintro ⟨hrpc, hopcode⟩
    exact ⟨message.rpc, hrpc, hopcode.symm, rfl⟩

/-- Every message that is written stands somewhere. -/
theorem WellFormed.exists_places (h : interface.WellFormed) {role : Role}
    (hmessage : message ∈ interface.emitted role) :
    ∃ list index, interface.Places list index message := by
  obtain ⟨place, hplace, -, rfl⟩ := mem_emitted.mp hmessage
  exact ⟨place.list, place.index, h.places_iff.mpr ⟨mem_places.mp hplace, rfl⟩⟩

end Places

/-! ## Places that stay -/

section Growth

variable {old new : Interface} {role : Role} {message : Message} (h : new.Extends old)
include h

theorem Extends.rpcs (list : RpcList) : old.rpcs list <+: new.rpcs list := by
  cases list with
  | sends => exact h.sends
  | receives => exact h.receives

theorem Extends.getElem? {list : RpcList} {index : Nat} (hindex : index < (old.rpcs list).length) :
    (new.rpcs list)[index]? = (old.rpcs list)[index]? := by
  obtain ⟨added, hadded⟩ := h.rpcs list
  rw [← hadded, List.getElem?_append_left hindex]

theorem places_of_extends {place : Place} (hplace : place ∈ old.places) : place ∈ new.places := by
  have hrpc := mem_places.mp hplace
  obtain ⟨hindex, -⟩ := List.getElem?_eq_some_iff.mp hrpc
  rw [mem_places, h.getElem? hindex]
  exact hrpc

/-- Growing takes no message away. -/
theorem emitted_of_extends (hmessage : message ∈ old.emitted role) :
    message ∈ new.emitted role := by
  obtain ⟨place, hplace, hhas, rfl⟩ := mem_emitted.mp hmessage
  exact mem_emitted.mpr ⟨place, places_of_extends h hplace, hhas, rfl⟩

/-- **Numbers.** The old numbers come first, and the new rpcs are numbered behind them. -/
theorem numbered_of_extends (hold : old.WellFormed) (hnew : new.WellFormed) (list : RpcList) :
    ∃ entries added, old.numbered list = .ok entries ∧
      new.numbered list = .ok (entries ++ added) := by
  obtain ⟨rpcs, hrpcs⟩ := h.rpcs list
  have hnumbered := hnew.numbered_eq list
  rw [← hrpcs, List.zipIdx_append, List.map_append] at hnumbered
  exact ⟨_, _, hold.numbered_eq list, hnumbered⟩

variable (hnew : new.WellFormed) (hmessage : message ∈ new.emitted role)
include hnew hmessage

/-- A message of the new interface is one of the old exactly if its rpc stands where the old list
reached. -/
theorem mem_emitted_iff_index {list : RpcList} {index : Nat}
    (hplaces : new.Places list index message) :
    message ∈ old.emitted role ↔ index < (old.rpcs list).length := by
  obtain ⟨hrpc, hopcode⟩ := hnew.places_iff.mp hplaces
  have hplace : ⟨list, index, message.rpc⟩ ∈ new.places := mem_places.mpr hrpc
  -- The number of the request leads back to the position.
  have hsame : ∀ place ∈ new.places, message.requestOpcode = place.list.opcode place.index →
      place.list = list ∧ place.index = index := by
    intro place hmem heq
    have hrequests : (place.message .request).opcode =
        (Place.message ⟨list, index, message.rpc⟩ .request).opcode := heq.symm.trans hopcode
    exact (Place.opcode_message_inj (hnew.index_lt hmem) (hnew.index_lt hplace) hrequests).1
  constructor
  · intro hold
    obtain ⟨place, hmem, -, rfl⟩ := mem_emitted.mp hold
    obtain ⟨rfl, rfl⟩ := hsame place (places_of_extends h hmem) rfl
    exact (List.getElem?_eq_some_iff.mp (mem_places.mp hmem)).1
  · intro hindex
    obtain ⟨place, hmem, hhas, rfl⟩ := mem_emitted.mp hmessage
    obtain ⟨rfl, rfl⟩ := hsame place hmem rfl
    refine mem_emitted.mpr ⟨place, ?_, hhas, rfl⟩
    rw [mem_places, ← h.getElem? hindex]
    exact mem_places.mp hmem

/-- **Old peers.** Of the messages of the new interface an old peer knows those of the old one. -/
theorem find?_of_extends (hold : old.WellFormed) :
    (old.plan role.peer).find? message.opcode =
      if message ∈ old.emitted role then some message else none := by
  split
  · rename_i hmem
    exact hold.find?_peer hmem
  · rename_i hnot
    refine Option.eq_none_iff_forall_ne_some.mpr fun found hfound => hnot ?_
    obtain ⟨hmem, hopcode⟩ := (RolePlan.find?_eq_some_iff (hold.nodup_accepted role.peer)).mp hfound
    simp only [plan, Role.peer_peer] at hmem
    -- What the peer finds is a message of the new interface too, and no two share an opcode.
    have hfound' := emitted_of_extends h hmem
    rwa [← List.inj_on_of_nodup_map (hnew.nodup_emitted role) hfound' hmessage hopcode]

end Growth

end Interface

namespace RolePlan

/-- A peer without an entry for a message reports its opcode. -/
theorem dispatch_of_find?_none {plan : RolePlan} {message : Message}
    (h : plan.find? message.opcode = none) {arguments : Arguments message.types} {bytes : Bytes}
    (hencode : message.encode arguments = .ok bytes) :
    plan.dispatch bytes = .error (.unknownOpcode message.opcode) := by
  obtain ⟨cursor, -, hopcode, -⟩ := Message.decode_of_encode hencode
  simp only [dispatch, hopcode, h]

/-- How the plans of a role and of its peer before and after an interface grew work together. -/
structure Compatible (old oldPeer new newPeer : RolePlan) : Prop where
  /-- A new peer finds what an old role writes. -/
  upward : ∀ message ∈ old.outgoing, newPeer.find? message.opcode = some message
  /-- What a new role writes has its place in a list. -/
  placed : ∀ message ∈ new.outgoing, ∃ list index, new.interface.Places list index message
  /-- An old peer finds it if its rpc was there before. -/
  downward : ∀ message ∈ new.outgoing, ∀ list index, new.interface.Places list index message →
    index < (old.interface.rpcs list).length → oldPeer.find? message.opcode = some message
  /-- An old peer has no entry for it if its rpc was added, and says so when it gets one. -/
  unknown : ∀ message ∈ new.outgoing, ∀ list index, new.interface.Places list index message →
    (old.interface.rpcs list).length ≤ index →
      oldPeer.find? message.opcode = none ∧
      ∀ arguments bytes, message.encode arguments = .ok bytes →
        oldPeer.dispatch bytes = .error (.unknownOpcode message.opcode)

end RolePlan

open Interface RolePlan in
theorem compatible_of_extends {old new : Interface} (hold : old.WellFormed)
    (hnew : new.WellFormed) (h : new.Extends old) (role : Role) :
    Compatible (old.plan role) (old.plan role.peer) (new.plan role) (new.plan role.peer) where
  upward message hmessage := hnew.find?_peer (emitted_of_extends h hmessage)
  placed message hmessage := hnew.exists_places hmessage
  downward message hmessage list index hplaces hindex := by
    have hmem := (mem_emitted_iff_index h hnew hmessage hplaces).mpr hindex
    rw [find?_of_extends h hnew hmessage hold, if_pos hmem]
  unknown message hmessage list index hplaces hindex := by
    have hnot : message ∉ old.emitted role := fun hmem =>
      Nat.not_lt.mpr hindex ((mem_emitted_iff_index h hnew hmessage hplaces).mp hmem)
    have hnone : (old.plan role.peer).find? message.opcode = none := by
      rw [find?_of_extends h hnew hmessage hold, if_neg hnot]
    exact ⟨hnone, fun _ _ hencode => dispatch_of_find?_none hnone hencode⟩

/-- **Growth.** If an interface grows at the end of its lists, the old numbers stay and each side
can be replaced by itself: a new peer finds every message of an old role under its opcode, an old
peer finds those messages of a new role whose rpcs it knows, and it takes none of the others for
something else. -/
theorem growth_compatible {old new : Interface} (hold : old.check = .ok ())
    (hnew : new.check = .ok ()) (h : new.Extends old) :
    (∀ list, ∃ entries added, old.numbered list = .ok entries ∧
      new.numbered list = .ok (entries ++ added)) ∧
    ∀ role, ∃ mine theirs mine' theirs',
      RolePlan.ofInterface old role = .ok mine ∧ RolePlan.ofInterface old role.peer = .ok theirs ∧
      RolePlan.ofInterface new role = .ok mine' ∧ RolePlan.ofInterface new role.peer = .ok theirs' ∧
      RolePlan.Compatible mine theirs mine' theirs' := by
  have hold' := Interface.check_eq_ok_iff.mp hold
  have hnew' := Interface.check_eq_ok_iff.mp hnew
  refine ⟨Interface.numbered_of_extends h hold' hnew', fun role => ?_⟩
  exact ⟨_, _, _, _, RolePlan.ofInterface_of_wellFormed hold' role,
    RolePlan.ofInterface_of_wellFormed hold' role.peer,
    RolePlan.ofInterface_of_wellFormed hnew' role,
    RolePlan.ofInterface_of_wellFormed hnew' role.peer, compatible_of_extends hold' hnew' h role⟩

/-- The daemon answers a question that so far only clients did, and may shut clients down. -/
def Conformance.grownController : Interface :=
  (daemonController.attach ⟨"GetParameterFromUser", [texts "name"], [texts "value"]⟩ .sends).attach
    ⟨"Shutdown", [], []⟩ .receives

open Conformance in
/-- A client that has grown asks under a new opcode, and answers under the old one. -/
theorem growth_compatible_grownController :
    daemonController.check = .ok () ∧ grownController.check = .ok () ∧
    grownController.Extends daemonController ∧
    ∃ mine theirs mine' theirs',
      RolePlan.ofInterface daemonController .client = .ok mine ∧
      RolePlan.ofInterface daemonController .server = .ok theirs ∧
      RolePlan.ofInterface grownController .client = .ok mine' ∧
      RolePlan.ofInterface grownController .server = .ok theirs' ∧
      RolePlan.Compatible mine theirs mine' theirs' ∧
      mine'.emittedOpcodes.map Opcode.toInt = [1, 2, 3, -16384] ∧
      (theirs.find? ⟨3⟩, (theirs'.find? ⟨3⟩).map (·.rpc.name)) =
        (none, some "GetParameterFromUser") := by
  have hold := Interface.check_eq_ok_iff.mpr
    (Conformance.wellFormed daemonController (by decide))
  have hnew : grownController.check = .ok () := Interface.check_eq_ok_iff.mpr (by decide)
  have hgrown : grownController.Extends daemonController :=
    ⟨List.prefix_append _ _, List.prefix_append _ _⟩
  obtain ⟨mine, theirs, mine', theirs', hmine, htheirs, hmine', htheirs', hcompatible⟩ :=
    (growth_compatible hold hnew hgrown).2 .client
  have hold' := Interface.check_eq_ok_iff.mp hold
  have hnew' := Interface.check_eq_ok_iff.mp hnew
  refine ⟨hold, hnew, hgrown, mine, theirs, mine', theirs', hmine, htheirs, hmine', htheirs',
    hcompatible, ?_, ?_⟩
  · rw [← Except.ok.inj ((RolePlan.ofInterface_of_wellFormed hnew' _).symm.trans hmine')]
    decide
  · rw [← Except.ok.inj ((RolePlan.ofInterface_of_wellFormed hold' _).symm.trans htheirs),
      ← Except.ok.inj ((RolePlan.ofInterface_of_wellFormed hnew' _).symm.trans htheirs')]
    decide

end Bindery
