import Bindery.Proofs.Delivery

/-!
# More bytes change nothing, fewer are noticed

**Built decoders** (`Decoder.Built`). Every decoder here is put together from taking bytes,
refusing what is not UTF-8, and doing one thing after the other. What holds of these pieces and
passes from the parts of a sequence to the whole therefore holds of all of them.

**Settled reads** (`Built.settled`). A read either asks for more bytes than are left, or its outcome
is settled: it stays the same when bytes are added behind. A cut anywhere in an encoding falls
under the first case. Were the read settled, then adding the rest of the encoding back would leave
that rest unread, whereas reading an encoding leaves nothing (`Built.truncated_of_reads`); so no
case distinction over the place of the cut is needed.

Main result: `prefix_behaviour`, for values, for arguments, and for messages cut short.
-/

namespace Bindery

open Wire

namespace Wire

/-- The cursor with more bytes to come. -/
def Cursor.extend (cursor : Cursor) (more : Bytes) : Cursor :=
  ⟨cursor.position, cursor.rest ++ more⟩

namespace Decoder

/-! ## Built decoders -/

/-- The decoder takes bytes and refuses texts, one after the other, and does nothing else. -/
inductive Built : {α : Type} → Decoder α → Prop
  | pure {α : Type} (a : α) : Built (Pure.pure a)
  | take (count : Nat) : Built (take count)
  | refuse {α : Type} : Built fun cursor => ((.error .invalidUtf8 : Except DecodeError α), cursor)
  | bind {α β : Type} {first : Decoder α} {next : α → Decoder β} :
      Built first → (∀ a, Built (next a)) → Built (first >>= next)

variable {α : Type}

theorem built_number (width : Nat) : (number width).Built :=
  .bind (.take width) fun _ => .pure _

theorem built_text (count : Nat) : (text count).Built := by
  refine .bind (.take count) fun bytes => ?_
  cases ofUtf8? bytes with
  | none => exact .refuse
  | some s => exact .pure s

theorem built_timesFrom {read : Decoder α} (h : read.Built) (count : Nat) (done : List α) :
    (timesFrom read count done).Built := by
  induction count generalizing done with
  | zero =>
    rw [timesFrom_zero]
    exact .pure done.reverse
  | succ count ih =>
    rw [timesFrom_succ]
    exact .bind h fun a => ih (a :: done)

end Decoder

open Decoder

theorem built_decode (format : Format) : (decode format).Built := by
  induction format with
  | u8 => exact .bind (built_number 1) fun _ => .pure _
  | u16 => exact .bind (built_number 2) fun _ => .pure _
  | u32 => exact .bind (built_number 4) fun _ => .pure _
  | i16 => exact .bind (built_number 2) fun _ => .pure _
  | text => exact .bind (built_number 2) built_text
  | repeated element ih => exact .bind (built_number 2) fun count => built_timesFrom ih count []

theorem built_decodeAll (types : List ParamType) : (decodeAll types).Built := by
  induction types with
  | nil => exact .pure ()
  | cons type types ih => exact .bind (built_decode type.format) fun _ => .bind ih fun _ => .pure _

/-! ## Settled reads -/

/-- The read asked for more bytes than were left. -/
def Decoder.Truncated {α : Type} (read : Decoder α) (cursor : Cursor) : Prop :=
  ∃ needed remaining after,
    read cursor = (.error (.truncated needed remaining), after) ∧ remaining < needed

namespace Decoder

variable {α : Type} {read : Decoder α}

/-- **Settled reads.** Unless bytes are missing, more bytes behind change nothing. -/
theorem Built.settled (h : read.Built) (cursor : Cursor) (more : Bytes) :
    read.Truncated cursor ∨
      read (cursor.extend more) = ((read cursor).1, (read cursor).2.extend more) := by
  induction h generalizing cursor with
  | pure a => exact .inr rfl
  | refuse => exact .inr rfl
  | take count =>
    rcases Nat.lt_or_ge cursor.rest.length count with hlt | hle
    · exact .inl ⟨_, _, _, take_of_lt hlt, hlt⟩
    · have hle' : count ≤ (cursor.extend more).rest.length := by
        rw [Cursor.extend, List.length_append]
        omega
      refine .inr ?_
      rw [take_of_le hle, take_of_le hle']
      simp only [Cursor.extend, List.take_append_of_le_length hle,
        List.drop_append_of_le_length hle]
  | @bind _ _ first next _ _ ihfirst ihnext =>
    rcases hrun : first cursor with ⟨result, middle⟩
    have hfirst := ihfirst cursor
    simp only [Truncated, hrun] at hfirst
    rcases hfirst with ⟨needed, remaining, after, heq, hlt⟩ | hsettled
    · exact .inl ⟨needed, remaining, after, bind_of_error (hrun.trans heq), hlt⟩
    · -- The first read goes the same way with more bytes, so the second starts from the same place.
      cases result with
      | error e =>
        rw [bind_of_error hrun, bind_of_error hsettled]
        exact .inr rfl
      | ok a =>
        simp only [Truncated, bind_of_ok hrun, bind_of_ok hsettled]
        exact ihnext a middle

theorem Built.extend (h : read.Built) {cursor after : Cursor} {result : Except DecodeError α}
    (hread : read cursor = (result, after))
    (hresult : ∀ needed remaining, result ≠ .error (.truncated needed remaining)) (more : Bytes) :
    read (cursor.extend more) = (result, after.extend more) := by
  rcases h.settled cursor more with ⟨needed, remaining, _, htruncated, -⟩ | hsettled
  · exact absurd (congrArg Prod.fst (hread.symm.trans htruncated)) (hresult needed remaining)
  · rwa [hread] at hsettled

/-- **Cuts are noticed.** Of bytes that are read exactly, a part from the front is too short. -/
theorem Built.truncated_of_reads (h : read.Built) {input more : Bytes} {a : α}
    (hreads : read.Reads (input ++ more) a) (hmore : more ≠ []) (position : Nat) :
    read.Truncated ⟨position, input⟩ := by
  refine (h.settled ⟨position, input⟩ more).resolve_right fun hsettled => hmore ?_
  have hwhole := hreads position []
  rw [List.append_nil] at hwhole
  have hcursor := congrArg (fun outcome => outcome.2.rest) (hsettled.symm.trans hwhole)
  exact (List.append_eq_nil_iff.mp hcursor).2

end Decoder

theorem exists_append_of_cut {input bytes : Bytes} (h : input <+: bytes) (hne : input ≠ bytes) :
    ∃ more, more ≠ [] ∧ bytes = input ++ more := by
  obtain ⟨more, rfl⟩ := h
  exact ⟨more, fun hnil => hne (by rw [hnil, List.append_nil]), rfl⟩

/-- How a decoder and an encoder behave when bytes are added or missing at the end. -/
structure PrefixBehaviour {α : Type} (emit : α → Emission) (read : Decoder α) : Prop where
  /-- A value that was read is read again, and as many bytes are consumed. -/
  accepted : ∀ bytes more v after, read (.start bytes) = (.ok v, after) →
    read (.start (bytes ++ more)) = (.ok v, ⟨after.position, after.rest ++ more⟩)
  /-- A text that was refused is refused again. -/
  refused : ∀ bytes more after, read (.start bytes) = (.error .invalidUtf8, after) →
    read (.start (bytes ++ more)) = (.error .invalidUtf8, ⟨after.position, after.rest ++ more⟩)
  /-- An encoding that was cut short is found to be so. -/
  cut : ∀ v bytes, (emit v).complete = .ok bytes → ∀ input, input <+: bytes → input ≠ bytes →
    ∃ needed remaining after,
      read (.start input) = (.error (.truncated needed remaining), after) ∧ remaining < needed

theorem prefixBehaviour_of_built {α : Type} {emit : α → Emission} {read : Decoder α}
    (hbuilt : read.Built)
    (hreads : ∀ v, (emit v).fault = none → read.Reads (emit v).bytes v) :
    PrefixBehaviour emit read where
  accepted _ more _ _ hread := hbuilt.extend hread nofun more
  refused _ more _ hread := hbuilt.extend hread nofun more
  cut v bytes hcomplete input hpart hne := by
    obtain ⟨more, hmore, rfl⟩ := exists_append_of_cut hpart hne
    obtain ⟨hfault, hbytes⟩ := Emission.complete_eq_ok_iff.mp hcomplete
    exact hbuilt.truncated_of_reads (hbytes ▸ hreads v hfault) hmore 0

end Wire

/-! ## Messages cut short -/

namespace Interface.WellFormed

variable {interface : Interface} {role : Role} {message : Message}

/-- The peer finds that bytes of a message are missing, be it in the opcode or in an argument. -/
theorem dispatch_of_cut (h : interface.WellFormed)
    (hmem : message ∈ (interface.plan role).outgoing) {arguments : Arguments message.types}
    {input more : Bytes} (hencode : message.encode arguments = .ok (input ++ more))
    (hmore : more ≠ []) :
    ∃ needed remaining, remaining < needed ∧
      (interface.plan role.peer).dispatch input =
        .error (.decode (.truncated needed remaining)) := by
  obtain ⟨hfault, hbytes⟩ := Message.encode_eq_ok_iff.mp hencode
  have hopcode := reads_header message.opcode 0 (encodeAll message.types arguments).bytes
  rw [hbytes] at hopcode
  rcases (built_decode .i16).settled (.start input) more with
    ⟨needed, remaining, after, hread, hlt⟩ | hsettled
  · exact ⟨needed, remaining, hlt, by simp only [RolePlan.dispatch, hread]⟩
  · -- The opcode is whole, so the cut is in the arguments.
    rcases hread : decode .i16 (.start input) with ⟨result, middle⟩
    rw [hread] at hsettled
    obtain ⟨rfl, hmiddle⟩ := Prod.mk.inj (hsettled.symm.trans hopcode)
    have harguments : middle.rest ++ more = (encodeAll message.types arguments).bytes :=
      congrArg Cursor.rest hmiddle
    have hreads := reads_encodeAll message.types arguments hfault
    rw [← harguments] at hreads
    obtain ⟨needed, remaining, after, hcut, hlt⟩ :=
      (built_decodeAll message.types).truncated_of_reads hreads hmore middle.position
    refine ⟨needed, remaining, hlt, ?_⟩
    simp only [RolePlan.dispatch, hread, h.find?_peer hmem, hcut]

end Interface.WellFormed

namespace Endpoint

variable {endpoint : Endpoint}

theorem receive_of_error {input : Bytes} {e : DispatchError}
    (h : endpoint.plan.dispatch input = .error e) :
    endpoint.receive input = (.error e, endpoint) := by
  rw [receive, h]

theorem send_eq_ok_iff {message : Message} {arguments : Arguments message.types}
    {sent : Endpoint} :
    endpoint.send message arguments = (.ok (), sent) ↔
      ∃ bytes, message.encode arguments = .ok bytes ∧
        sent = { endpoint with outbox := endpoint.outbox ++ [bytes] } := by
  unfold send
  cases message.encode arguments with
  | error e => simp
  | ok bytes => simp [eq_comm]

end Endpoint

/-- Given a message that a role with the first plan sent, but cut short, a role with the second
finds that bytes are missing, and calls no handler. -/
def RolePlan.NoticesCuts (mine theirs : RolePlan) : Prop :=
  ∀ sender sent receiver : Endpoint, sender.plan = mine → receiver.plan = theirs →
    ∀ message ∈ mine.outgoing, ∀ arguments, sender.send message arguments = (.ok (), sent) →
      ∃ bytes, sent.outbox = sender.outbox ++ [bytes] ∧
        ∀ input, input <+: bytes → input ≠ bytes →
          ∃ needed remaining, remaining < needed ∧
            receiver.receive input = (.error (.decode (.truncated needed remaining)), receiver)

theorem Interface.WellFormed.noticesCuts {interface : Interface} (h : interface.WellFormed)
    (role : Role) : (interface.plan role).NoticesCuts (interface.plan role.peer) := by
  intro sender sent receiver _ hreceiver message hmem arguments hsend
  obtain ⟨bytes, hencode, rfl⟩ := Endpoint.send_eq_ok_iff.mp hsend
  refine ⟨bytes, rfl, fun input hpart hne => ?_⟩
  obtain ⟨more, hmore, rfl⟩ := exists_append_of_cut hpart hne
  obtain ⟨needed, remaining, hlt, hdispatch⟩ := h.dispatch_of_cut hmem hencode hmore
  rw [← hreceiver] at hdispatch
  exact ⟨needed, remaining, hlt, Endpoint.receive_of_error hdispatch⟩

/-- **More bytes change nothing, fewer are noticed.** This holds of the values of any parameter
type and of the arguments of a message; and a message of an interface that passes its check, cut
short anywhere, reaches no handler of the peer. -/
theorem prefix_behaviour :
    (∀ type : ParamType, PrefixBehaviour (encode type.format) (decode type.format)) ∧
    (∀ types : List ParamType, PrefixBehaviour (encodeAll types) (decodeAll types)) ∧
    (∀ interface : Interface, interface.check = .ok () → ∀ role,
      ∃ mine theirs, RolePlan.ofInterface interface role = .ok mine ∧
        RolePlan.ofInterface interface role.peer = .ok theirs ∧ mine.NoticesCuts theirs) := by
  refine ⟨fun type => prefixBehaviour_of_built (built_decode _) (reads_encode _),
    fun types => prefixBehaviour_of_built (built_decodeAll _) (reads_encodeAll _), ?_⟩
  intro interface hcheck role
  have hwf := Interface.check_eq_ok_iff.mp hcheck
  exact ⟨_, _, RolePlan.ofInterface_of_wellFormed hwf role,
    RolePlan.ofInterface_of_wellFormed hwf role.peer, hwf.noticesCuts role⟩

open Conformance in
/-- The readings of a sample, cut in the middle of an announced length. -/
theorem prefix_behaviour_sample :
    telemetry.check = .ok () ∧
    Endpoint.send { plan := telemetry.plan .client } sample.message sample.arguments = (.ok (),
      { plan := telemetry.plan .client,
        outbox := [[0, 1, 7, 0, 3, 0, 2, 0, 1, 0, 2, 0, 0, 0, 1, 255, 255, 222, 173, 190, 239]] }) ∧
    ∃ needed remaining, remaining < needed ∧
      Endpoint.receive { plan := telemetry.plan .server } [0, 1, 7, 0, 3, 0] =
        (.error (.decode (.truncated needed remaining)), { plan := telemetry.plan .server }) := by
  have hwf := Conformance.wellFormed telemetry (by decide)
  have hcheck := Interface.check_eq_ok_iff.mpr hwf
  obtain ⟨mine, theirs, hmine, htheirs, hcuts⟩ := prefix_behaviour.2.2 telemetry hcheck .client
  obtain rfl := Except.ok.inj (hmine.symm.trans (RolePlan.ofInterface_of_wellFormed hwf .client))
  obtain rfl := Except.ok.inj (htheirs.symm.trans (RolePlan.ofInterface_of_wellFormed hwf .server))
  refine ⟨hcheck, rfl, ?_⟩
  obtain ⟨bytes, houtbox, hcut⟩ := hcuts { plan := telemetry.plan .client } _
    { plan := telemetry.plan .server } rfl rfl sample.message (by decide) sample.arguments rfl
  obtain rfl := (List.cons.inj houtbox).1
  exact hcut [0, 1, 7, 0, 3, 0] (by decide) (by decide)

end Bindery
