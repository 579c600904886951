import Bindery.Plan
import Bindery.Proofs.Check
import Mathlib.Data.List.Nodup

/-!
# The plans of the two roles

A plan is built by a check, two numberings and a search for colliding opcodes, each of which can
fail. For a well-formed interface none does, and the result has a short description.

**Places.** An rpc stands at an index of one of the two lists; this gives the number of its request
(`toInt_opcode_message`), with no 16-bit operation leaving its range. Two legs at different places,
or the two legs at one place, have different numbers (`opcode_message_inj`).

**Emissions.** Of each list a role writes one leg only, the one its peer does not write
(`Role.emits`). What a role emits is therefore a list `Interface.emitted` that does not mention the
peer, and what it accepts is the list its peer emits (`ofInterface_of_wellFormed`).

Main results: `roles_complementary` and `plan_exact`.
-/

namespace Bindery

/-- An item is found by a key of its own. -/
theorem find?_of_nodup_map {α κ : Type} [DecidableEq κ] {key : α → κ} {items : List α}
    (h : (items.map key).Nodup) {a : α} (ha : a ∈ items) :
    (items.find? fun b => key b = key a) = some a := by
  obtain ⟨found, hfound⟩ : ∃ found, (items.find? fun b => key b = key a) = some found :=
    Option.isSome_iff_exists.mp (List.find?_isSome.mpr ⟨a, ha, decide_eq_true rfl⟩)
  have hsame : key found = key a := by simpa using List.find?_some hfound
  rw [hfound, List.inj_on_of_nodup_map h (List.mem_of_find?_eq_some hfound) ha hsame]

/-! ## Numbers of opcodes -/

namespace RpcList

def first : RpcList → Nat
  | .sends => Opcode.firstSend
  | .receives => Opcode.firstReceive

/-- The opcode of the request at `index`, whether or not the list can grow that long. -/
def opcode (list : RpcList) (index : Nat) : Opcode :=
  ⟨Int16.ofNat (list.first + index)⟩

theorem opcode?_of_lt {list : RpcList} {index : Nat} (h : index < list.capacity) :
    list.opcode? index = some (list.opcode index) := by
  cases list <;> exact if_pos h

theorem toInt_opcode {list : RpcList} {index : Nat} (h : index < list.capacity) :
    (list.opcode index).toInt = list.first + index := by
  -- Each capacity ends where the next list begins, the last one at the highest number.
  have hfits : list.first + index < 2 ^ 15 := by
    cases list <;> simp only [first, capacity, Opcode.maxSends, Opcode.maxReceives,
      Opcode.firstSend, Opcode.firstReceive] at h ⊢ <;> omega
  rw [opcode, Opcode.toInt, Int16.toInt_ofNat_of_lt hfits, Int.natCast_add]

end RpcList

/-- Only the lowest of all numbers has no negation. -/
theorem Opcode.toInt_reply {opcode : Opcode} (h : opcode.toInt ≠ -0x8000) :
    opcode.reply.toInt = -opcode.toInt := by
  have hlow := opcode.word.le_toInt
  have hhigh := opcode.word.toInt_lt
  simp only [Opcode.toInt, Opcode.reply, Int16.toInt_neg] at h ⊢
  rw [Int.bmod_eq_of_le] <;> omega

theorem Opcode.toInt_inj {a b : Opcode} (h : a.toInt = b.toInt) : a = b := by
  cases a; cases b
  exact congrArg Opcode.mk (Int16.toInt_inj.mp h)

/-! ## Places -/

/-- A place in an interface, and the rpc that stands there. -/
structure Place where
  list : RpcList
  index : Nat
  rpc : Rpc

namespace Place

/-- A leg of the rpc at a place, whether or not the rpc has it. -/
def message (place : Place) (leg : Leg) : Message :=
  ⟨place.rpc, leg, place.list.opcode place.index⟩

def number (place : Place) : Int :=
  place.list.first + place.index

def signed (place : Place) : Leg → Int
  | .request => place.number
  | .reply => -place.number

theorem number_pos (place : Place) : 0 < place.number := by
  unfold number
  cases place.list <;> simp only [RpcList.first, Opcode.firstSend, Opcode.firstReceive] <;> omega

theorem toInt_opcode_message {place : Place} (h : place.index < place.list.capacity) (leg : Leg) :
    (place.message leg).opcode.toInt = place.signed leg := by
  have hnumber : (place.list.opcode place.index).toInt = place.number := RpcList.toInt_opcode h
  have hpos := place.number_pos
  have hnegates : (place.list.opcode place.index).toInt ≠ -0x8000 := by omega
  cases leg with
  | request => exact hnumber
  | reply => exact (Opcode.toInt_reply hnegates).trans (congrArg _ hnumber)

/-- The numbers below `firstReceive` are those of one list, the others those of the other. -/
theorem number_inj {p q : Place} (hp : p.index < p.list.capacity) (hq : q.index < q.list.capacity)
    (h : p.number = q.number) : p.list = q.list ∧ p.index = q.index := by
  obtain ⟨plist, pindex, _⟩ := p
  obtain ⟨qlist, qindex, _⟩ := q
  cases plist <;> cases qlist <;>
    simp only [number, RpcList.first, RpcList.capacity, Opcode.maxSends, Opcode.maxReceives,
      Opcode.firstSend, Opcode.firstReceive, reduceCtorEq, false_and, true_and] at hp hq h ⊢ <;>
    omega

/-- **Opcodes tell legs apart.** Legs with the same opcode stand at the same place. -/
theorem opcode_message_inj {p q : Place} {leg leg' : Leg} (hp : p.index < p.list.capacity)
    (hq : q.index < q.list.capacity) (h : (p.message leg).opcode = (q.message leg').opcode) :
    (p.list = q.list ∧ p.index = q.index) ∧ leg = leg' := by
  have hint := congrArg Opcode.toInt h
  rw [toInt_opcode_message hp, toInt_opcode_message hq] at hint
  have hppos := p.number_pos
  have hqpos := q.number_pos
  -- Requests are positive and replies negative, so the legs agree.
  cases leg <;> cases leg' <;> simp only [signed] at hint
  · exact ⟨number_inj hp hq hint, rfl⟩
  · omega
  · omega
  · exact ⟨number_inj hp hq (Int.neg_inj.mp hint), rfl⟩

end Place

namespace Interface

def placesIn (interface : Interface) (list : RpcList) : List Place :=
  (interface.rpcs list).zipIdx.map fun (rpc, index) => ⟨list, index, rpc⟩

/-- All places of an interface: first those of the rpcs it sends. -/
def places (interface : Interface) : List Place :=
  interface.placesIn .sends ++ interface.placesIn .receives

theorem mem_placesIn {interface : Interface} {list : RpcList} {place : Place} :
    place ∈ interface.placesIn list ↔
      place.list = list ∧ (interface.rpcs list)[place.index]? = some place.rpc := by
  obtain ⟨plist, index, rpc⟩ := place
  simp only [placesIn, List.mem_map, Prod.exists, List.mk_mem_zipIdx_iff_getElem?, Place.mk.injEq]
  constructor
  · rintro ⟨_, _, h, rfl, rfl, rfl⟩
    exact ⟨rfl, h⟩
  · rintro ⟨rfl, h⟩
    exact ⟨rpc, index, h, rfl, rfl, rfl⟩

theorem mem_places {interface : Interface} {place : Place} :
    place ∈ interface.places ↔ (interface.rpcs place.list)[place.index]? = some place.rpc := by
  rw [places, List.mem_append, mem_placesIn, mem_placesIn]
  cases h : place.list <;> simp

theorem pairwise_placesIn (interface : Interface) (list : RpcList) :
    (interface.placesIn list).Pairwise fun p q => ¬(p.list = q.list ∧ p.index = q.index) := by
  rw [placesIn, List.pairwise_map]
  have hindices : ((interface.rpcs list).zipIdx.map Prod.snd).Nodup := by
    rw [List.zipIdx_map_snd]
    exact List.nodup_range'
  exact (List.pairwise_map.mp hindices).imp fun hne h => hne h.2

theorem pairwise_places (interface : Interface) :
    interface.places.Pairwise fun p q => ¬(p.list = q.list ∧ p.index = q.index) := by
  refine List.pairwise_append.mpr ⟨interface.pairwise_placesIn _, interface.pairwise_placesIn _, ?_⟩
  intro p hp q hq h
  rw [(mem_placesIn.mp hp).1, (mem_placesIn.mp hq).1] at h
  exact RpcList.noConfusion h.1

theorem WellFormed.index_lt {interface : Interface} (h : interface.WellFormed) {place : Place}
    (hplace : place ∈ interface.places) : place.index < place.list.capacity := by
  obtain ⟨hlt, -⟩ := List.getElem?_eq_some_iff.mp (mem_places.mp hplace)
  exact Nat.lt_of_lt_of_le hlt (h.length_le place.list)

end Interface

/-! ## Emissions -/

/-- Whether the rpc has a leg: it always has a request. -/
def Rpc.has (rpc : Rpc) : Leg → Bool
  | .request => true
  | .reply => rpc.hasReply

/-- The leg a role writes of the rpcs of a list. -/
def Role.emits (role : Role) (list : RpcList) : Leg :=
  match role.direction list with
  | .outbound => .request
  | .inbound => .reply

theorem Role.peer_peer (role : Role) : role.peer.peer = role := by
  cases role <;> rfl

theorem Role.eq_or_eq_peer (role other : Role) : other = role ∨ other = role.peer := by
  cases role <;> cases other <;> decide

/-- Each leg of an rpc is written by one role only. -/
theorem Role.emits_peer_ne (role : Role) (list : RpcList) :
    role.emits list ≠ role.peer.emits list := by
  cases role <;> cases list <;> decide

/-- The message a role writes for the rpc at a place, if any. -/
def Place.emission (role : Role) (place : Place) : Option Message :=
  if place.rpc.has (role.emits place.list) then some (place.message (role.emits place.list))
  else none

theorem Place.emission_eq_some_iff {role : Role} {place : Place} {message : Message} :
    place.emission role = some message ↔
      place.rpc.has (role.emits place.list) = true ∧
        message = place.message (role.emits place.list) := by
  by_cases h : place.rpc.has (role.emits place.list) = true
  · rw [emission, if_pos h]
    exact ⟨fun he => ⟨h, (Option.some.inj he).symm⟩, fun he => congrArg some he.2.symm⟩
  · rw [emission, if_neg h]
    simp [h]

/-- The legs of the rpc at a place, as a role sees them. -/
def Place.legs (role : Role) (place : Place) : Legs :=
  Legs.ofRpc place.rpc (place.list.opcode place.index) (role.direction place.list)

theorem Place.outgoing_legs (role : Role) (place : Place) :
    (place.legs role).outgoing = place.emission role := by
  obtain ⟨list, _, _⟩ := place
  cases role <;> cases list <;> rfl

theorem Place.incoming_legs (role : Role) (place : Place) :
    (place.legs role).incoming = place.emission role.peer := by
  obtain ⟨list, _, _⟩ := place
  cases role <;> cases list <;> rfl

namespace Interface

variable {interface : Interface} {role : Role} {message : Message}

def emitted (interface : Interface) (role : Role) : List Message :=
  interface.places.filterMap (Place.emission role)

/-- The plan of a role, if there is no fault. -/
def plan (interface : Interface) (role : Role) : RolePlan where
  interface := interface
  role := role
  outgoing := interface.emitted role
  incoming := interface.emitted role.peer

theorem mem_emitted :
    message ∈ interface.emitted role ↔
      ∃ place ∈ interface.places, place.rpc.has (role.emits place.list) = true ∧
        message = place.message (role.emits place.list) := by
  simp only [emitted, List.mem_filterMap, Place.emission_eq_some_iff]

theorem WellFormed.nodup_emitted (h : interface.WellFormed) (role : Role) :
    ((interface.emitted role).map Message.opcode).Nodup := by
  rw [List.nodup_iff_pairwise_ne, List.pairwise_map, emitted, List.pairwise_filterMap]
  refine interface.pairwise_places.imp_of_mem ?_
  intro p q hp hq hne m hm m' hm' heq
  rw [(Place.emission_eq_some_iff.mp hm).2, (Place.emission_eq_some_iff.mp hm').2] at heq
  exact hne (Place.opcode_message_inj (h.index_lt hp) (h.index_lt hq) heq).1

theorem WellFormed.opcode_ne (h : interface.WellFormed) {m m' : Message}
    (hm : m ∈ interface.emitted role) (hm' : m' ∈ interface.emitted role.peer) :
    m.opcode ≠ m'.opcode := by
  obtain ⟨p, hp, -, rfl⟩ := mem_emitted.mp hm
  obtain ⟨q, hq, -, rfl⟩ := mem_emitted.mp hm'
  intro heq
  obtain ⟨⟨hlist, -⟩, hleg⟩ := Place.opcode_message_inj (h.index_lt hp) (h.index_lt hq) heq
  rw [← hlist] at hleg
  exact role.emits_peer_ne p.list hleg

/-! ## Plans -/

theorem WellFormed.numbered_eq (h : interface.WellFormed) (list : RpcList) :
    interface.numbered list = .ok ((interface.rpcs list).zipIdx.map fun (rpc, index) =>
      (list.opcode index, rpc)) := by
  refine mapM_eq_ok fun (rpc, index) hmem => ?_
  have hlt := (List.mem_zipIdx' hmem).1
  simp only [RpcList.opcode?_of_lt (Nat.lt_of_lt_of_le hlt (h.length_le list))]

theorem WellFormed.legs_eq (h : interface.WellFormed) (role : Role) (list : RpcList) :
    RolePlan.legs interface role list = .ok ((interface.placesIn list).map (Place.legs role)) := by
  rw [RolePlan.legs, h.numbered_eq list, placesIn, List.map_map]
  show Except.ok _ = _
  rw [List.map_map]
  rfl

/-- A choice of one leg per place that agrees with a role's emissions gives all of them. -/
theorem filterMap_legs (interface : Interface) {role other : Role} {choose : Legs → Option Message}
    (h : ∀ place : Place, choose (place.legs role) = place.emission other) :
    ((interface.placesIn .sends).map (Place.legs role) ++
      (interface.placesIn .receives).map (Place.legs role)).filterMap choose =
        interface.emitted other := by
  rw [← List.map_append, List.filterMap_map]
  exact List.filterMap_congr fun place _ => h place

end Interface

namespace RolePlan

variable {interface : Interface} {role : Role}

/-- **The plan of a well-formed interface.** Planning succeeds; the role writes its emissions and
reads those of its peer. -/
theorem ofInterface_of_wellFormed (h : interface.WellFormed) (role : Role) :
    ofInterface interface role = .ok (interface.plan role) := by
  have hcheck := Interface.check_eq_ok_iff.mpr h
  have houtgoing := Interface.filterMap_legs interface (Place.outgoing_legs role)
  have hincoming := Interface.filterMap_legs interface (Place.incoming_legs role)
  -- The table is searched for collisions only after both lists are numbered, and has none.
  have hdistinct : checkDistinct Message.opcode (fun _ => .ok ())
      (fun message => GenerateError.opcodeCollision interface.name message.opcode)
      (interface.emitted role.peer) = .ok () :=
    checkDistinct_eq_ok_iff.mpr ⟨fun _ _ => rfl, h.nodup_emitted role.peer⟩
  simp only [ofInterface, hcheck, h.legs_eq, Except.mapError, bind, Except.bind, houtgoing,
    hincoming, hdistinct, pure, Except.pure, Interface.plan]

theorem ofInterface_of_check_error {e : SchemaError} (h : interface.check = .error e)
    (role : Role) : ofInterface interface role = .error (.schema e) := by
  simp only [ofInterface, h, Except.mapError, bind, Except.bind]

/-- **The roles complement each other.** What one role of an interface writes is, message by
message and in the same order, what the other reads, in both directions. -/
theorem roles_complementary (h : interface.check = .ok ()) (role : Role) :
    ∃ mine theirs, ofInterface interface role = .ok mine ∧
      ofInterface interface role.peer = .ok theirs ∧
      mine.outgoing = theirs.incoming ∧ theirs.outgoing = mine.incoming := by
  have hwf := Interface.check_eq_ok_iff.mp h
  refine ⟨_, _, ofInterface_of_wellFormed hwf role, ofInterface_of_wellFormed hwf role.peer,
    ?_, rfl⟩
  simp only [Interface.plan, Role.peer_peer]

theorem roles_complementary_telemetry :
    Conformance.telemetry.check = .ok () ∧
    ∃ mine theirs, ofInterface Conformance.telemetry .server = .ok mine ∧
      ofInterface Conformance.telemetry .client = .ok theirs ∧
      mine.outgoing = theirs.incoming ∧ theirs.outgoing = mine.incoming :=
  have hcheck := Interface.check_eq_ok_iff.mpr
    (Conformance.wellFormed Conformance.telemetry (by decide))
  ⟨hcheck, roles_complementary hcheck .server⟩

/-! ## Tables -/

theorem find?_eq_some_iff {plan : RolePlan} (h : plan.acceptedOpcodes.Nodup) {opcode : Opcode}
    {message : Message} :
    plan.find? opcode = some message ↔ message ∈ plan.incoming ∧ message.opcode = opcode := by
  constructor
  · intro hfind
    exact ⟨List.mem_of_find?_eq_some hfind, by simpa using List.find?_some hfind⟩
  · rintro ⟨hmem, rfl⟩
    exact find?_of_nodup_map h hmem

end RolePlan

/-- The table of a role, entry by entry: the number, and the leg it stands for. -/
inductive Interface.Accepts (interface : Interface) : Role → Int → Rpc → Leg → Prop
  | clientReply {k : Nat} {rpc : Rpc} : 1 ≤ k → interface.sends[k - 1]? = some rpc →
      rpc.hasReply = true → interface.Accepts .client (-k) rpc .reply
  | clientRequest {j : Nat} {rpc : Rpc} : interface.receives[j]? = some rpc →
      interface.Accepts .client (16384 + j) rpc .request
  | serverRequest {k : Nat} {rpc : Rpc} : 1 ≤ k → interface.sends[k - 1]? = some rpc →
      interface.Accepts .server k rpc .request
  | serverReply {j : Nat} {rpc : Rpc} : interface.receives[j]? = some rpc →
      rpc.hasReply = true → interface.Accepts .server (-(16384 + j)) rpc .reply

/-- The entries are the emissions of the peer. -/
theorem Interface.accepts_iff {interface : Interface} {role : Role} {number : Int} {rpc : Rpc}
    {leg : Leg} :
    interface.Accepts role number rpc leg ↔
      ∃ place ∈ interface.places, place.rpc = rpc ∧ role.peer.emits place.list = leg ∧
        rpc.has leg = true ∧ number = place.signed leg := by
  constructor
  · intro h
    cases h with
    | @clientReply k _ hk hrpc hreply =>
      refine ⟨⟨.sends, k - 1, rpc⟩, mem_places.mpr hrpc, rfl, rfl, hreply, ?_⟩
      simp only [Place.signed, Place.number, RpcList.first, Opcode.firstSend]
      omega
    | @clientRequest j _ hrpc =>
      exact ⟨⟨.receives, j, rpc⟩, mem_places.mpr hrpc, rfl, rfl, rfl, rfl⟩
    | @serverRequest k _ hk hrpc =>
      refine ⟨⟨.sends, k - 1, rpc⟩, mem_places.mpr hrpc, rfl, rfl, rfl, ?_⟩
      simp only [Place.signed, Place.number, RpcList.first, Opcode.firstSend]
      omega
    | @serverReply j _ hrpc hreply =>
      exact ⟨⟨.receives, j, rpc⟩, mem_places.mpr hrpc, rfl, rfl, hreply, rfl⟩
  · rintro ⟨⟨list, index, rpc⟩, hplace, rfl, rfl, hhas, rfl⟩
    have hrpc := mem_places.mp hplace
    -- The number of a send counts from 1.
    have hnext : ((1 : Nat) : Int) + index = ((index + 1 : Nat) : Int) := by omega
    cases role <;> cases list
    · show interface.Accepts .client (-(((1 : Nat) : Int) + index)) rpc .reply
      rw [hnext]
      exact .clientReply (Nat.le_add_left 1 index) hrpc hhas
    · exact .clientRequest hrpc
    · show interface.Accepts .server (((1 : Nat) : Int) + index) rpc .request
      rw [hnext]
      exact .serverRequest (Nat.le_add_left 1 index) hrpc
    · exact .serverReply hrpc hhas

theorem Message.ext_opcode {m m' : Message} (hrpc : m.rpc = m'.rpc) (hleg : m.leg = m'.leg)
    (hopcode : m.opcode = m'.opcode) : m = m' := by
  obtain ⟨rpc, leg, ⟨word⟩⟩ := m
  obtain ⟨rpc', leg', ⟨word'⟩⟩ := m'
  obtain rfl : rpc = rpc' := hrpc
  obtain rfl : leg = leg' := hleg
  cases leg with
  | request => exact congrArg (Message.mk rpc .request) hopcode
  | reply =>
    have hneg : -word = -word' := congrArg Opcode.word hopcode
    rw [Int16.neg_inj.mp hneg]

namespace Interface.WellFormed

variable {interface : Interface} {role : Role}

theorem mem_emitted_peer_iff (h : interface.WellFormed) {message : Message} :
    message ∈ interface.emitted role.peer ↔
      interface.Accepts role message.opcode.toInt message.rpc message.leg := by
  rw [mem_emitted, accepts_iff]
  constructor
  · rintro ⟨place, hplace, hhas, rfl⟩
    exact ⟨place, hplace, rfl, rfl, hhas, Place.toInt_opcode_message (h.index_lt hplace) _⟩
  · rintro ⟨place, hplace, hrpc, hleg, hhas, hnumber⟩
    rw [← Place.toInt_opcode_message (h.index_lt hplace)] at hnumber
    rw [← hleg, ← hrpc] at hhas
    refine ⟨place, hplace, hhas, Message.ext_opcode hrpc.symm hleg.symm ?_⟩
    rw [hleg]
    exact Opcode.toInt_inj hnumber

theorem nodup_accepted (h : interface.WellFormed) (role : Role) :
    (interface.plan role).acceptedOpcodes.Nodup :=
  h.nodup_emitted role.peer

theorem nodup_opcodes (h : interface.WellFormed) (role : Role) :
    ((interface.plan role).emittedOpcodes ++ (interface.plan role).acceptedOpcodes).Nodup := by
  refine List.nodup_append.mpr ⟨h.nodup_emitted role, h.nodup_emitted role.peer, ?_⟩
  intro a ha b hb
  obtain ⟨m, hm, rfl⟩ := List.mem_map.mp ha
  obtain ⟨m', hm', rfl⟩ := List.mem_map.mp hb
  exact h.opcode_ne hm hm'

/-- Neither zero nor the number without a negation is ever used. -/
theorem toInt_opcode_ne (h : interface.WellFormed) {message : Message}
    (hmem : message ∈ interface.emitted role) :
    message.opcode.toInt ≠ 0 ∧ message.opcode.toInt ≠ -0x8000 := by
  obtain ⟨place, hplace, -, rfl⟩ := mem_emitted.mp hmem
  have hpos := place.number_pos
  have hrequest := Place.toInt_opcode_message (h.index_lt hplace) .request
  have hhigh := (place.message .request).opcode.word.toInt_lt
  rw [Place.toInt_opcode_message (h.index_lt hplace)]
  simp only [Opcode.toInt, Place.signed] at hrequest
  cases role.emits place.list <;> simp only [Place.signed] <;> omega

end Interface.WellFormed

namespace RolePlan

variable {interface : Interface} {role : Role}

/-- The plan uses every opcode for one thing at most, and for the right one. -/
structure Exact (plan : RolePlan) : Prop where
  /-- The table holds what the role has to accept, and nothing else. -/
  lookup : ∀ opcode message, plan.find? opcode = some message ↔
    message.opcode = opcode ∧
      plan.interface.Accepts plan.role opcode.toInt message.rpc message.leg
  /-- No opcode has two uses. -/
  nodup : (plan.emittedOpcodes ++ plan.acceptedOpcodes).Nodup
  /-- Zero and the lowest number have none. -/
  bounds : ∀ opcode ∈ plan.emittedOpcodes ++ plan.acceptedOpcodes,
    opcode.toInt ≠ 0 ∧ opcode.toInt ≠ -32768
  /-- The role does not accept what it writes. -/
  own : ∀ message ∈ plan.outgoing, plan.find? message.opcode = none
  /-- Indices, the numbers of requests and those of replies stay within 16 bits. -/
  numbers : ∀ list index rpc, (plan.interface.rpcs list)[index]? = some rpc →
    ∃ opcode, list.opcode? index = some opcode ∧ (Int16.ofNat index).toInt = index ∧
      opcode.toInt = list.first + index ∧ opcode.reply.toInt = -(list.first + index)

theorem exact_of_wellFormed (h : interface.WellFormed) (role : Role) :
    (interface.plan role).Exact where
  lookup opcode message := by
    rw [find?_eq_some_iff (h.nodup_accepted role), and_comm]
    refine and_congr_right fun hopcode => ?_
    rw [← hopcode]
    exact h.mem_emitted_peer_iff
  nodup := h.nodup_opcodes role
  bounds := by
    intro opcode hmem
    rcases List.mem_append.mp hmem with hmem | hmem <;>
      obtain ⟨message, hmessage, rfl⟩ := List.mem_map.mp hmem <;>
      exact h.toInt_opcode_ne hmessage
  own message hmem := by
    refine Option.eq_none_iff_forall_ne_some.mpr fun found hfound => ?_
    obtain ⟨hfound, hopcode⟩ := (find?_eq_some_iff (h.nodup_accepted role)).mp hfound
    exact h.opcode_ne hmem hfound hopcode.symm
  numbers list index rpc hrpc := by
    have hplace : ⟨list, index, rpc⟩ ∈ interface.places := Interface.mem_places.mpr hrpc
    have hlt : index < list.capacity := h.index_lt hplace
    have hrequest := RpcList.toInt_opcode hlt
    have hreply := Place.toInt_opcode_message (h.index_lt hplace) .reply
    have hhigh := (list.opcode index).word.toInt_lt
    refine ⟨_, RpcList.opcode?_of_lt hlt, Int16.toInt_ofNat_of_lt ?_, hrequest, hreply⟩
    rw [Opcode.toInt] at hrequest
    omega

/-- **Planning is exact.** A role can be planned exactly if the interface passes its check, a
failure is the fault that the check found, and opcodes never collide. -/
theorem plan_exact (interface : Interface) (role : Role) :
    ((∃ plan, ofInterface interface role = .ok plan) ↔ interface.check = .ok ()) ∧
    (∀ e, interface.check = .error e → ofInterface interface role = .error (.schema e)) ∧
    (∀ name opcode, ofInterface interface role ≠ .error (.opcodeCollision name opcode)) ∧
    (∀ plan, ofInterface interface role = .ok plan →
      plan.interface = interface ∧ plan.role = role ∧ plan.Exact) := by
  cases hcheck : interface.check with
  | error e =>
    rw [ofInterface_of_check_error hcheck role]
    refine ⟨⟨fun ⟨_, hok⟩ => (nomatch hok), nofun⟩, ?_, nofun, nofun⟩
    intro e' he
    rw [Except.error.inj he]
  | ok u =>
    have hwf := Interface.check_eq_ok_iff.mp hcheck
    rw [ofInterface_of_wellFormed hwf role]
    refine ⟨⟨fun _ => rfl, fun _ => ⟨_, rfl⟩⟩, nofun, nofun, ?_⟩
    intro plan hok
    obtain rfl := Except.ok.inj hok
    exact ⟨rfl, rfl, exact_of_wellFormed hwf role⟩

/-- The client's table of an interface with both kinds of entry, and a name that is refused. -/
theorem plan_exact_daemonController :
    (Conformance.daemonController.check = .ok () ∧
      ∃ plan, ofInterface Conformance.daemonController .client = .ok plan ∧ plan.Exact ∧
        (plan.find? ⟨-2⟩).map (fun m => (m.rpc.name, m.leg)) =
          some ("ServerShowClients", .reply) ∧
        (plan.find? ⟨16384⟩).map (fun m => (m.rpc.name, m.leg)) =
          some ("GetParameterFromUser", .request) ∧
        plan.find? ⟨-1⟩ = none) ∧
    (Interface.check ⟨"Get Value", [], []⟩ = .error (.invalidIdentifier "Get Value") ∧
      ofInterface ⟨"Get Value", [], []⟩ .client =
        .error (.schema (.invalidIdentifier "Get Value"))) := by
  have hcheck := Interface.check_eq_ok_iff.mpr
    (Conformance.wellFormed Conformance.daemonController (by decide))
  have hplan := ofInterface_of_wellFormed (Interface.check_eq_ok_iff.mp hcheck) .client
  have hrefused : Interface.check ⟨"Get Value", [], []⟩ = .error (.invalidIdentifier "Get Value") :=
    rfl
  exact ⟨⟨hcheck, _, hplan, ((plan_exact _ .client).2.2.2 _ hplan).2.2, by decide, by decide,
    by decide⟩, hrefused, (plan_exact _ .client).2.1 _ hrefused⟩

end RolePlan

end Bindery
