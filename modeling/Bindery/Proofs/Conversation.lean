import Bindery.Proofs.Delivery
import Bindery.Wire.Conversation

/-!
# Conversations lose nothing

Two endpoints talk. Either may call its send helpers at any time, and the oldest message of an
outbox may be delivered at any time; the handler that a delivery reaches may call send helpers in
turn. Nothing is assumed about the order of these actions, their number, or what handlers do.

**Runs** (`Session`). A session is a conversation together with the calls of send helpers made so
far and the results of deliveries. A handler is a `Reaction`: a tree of calls that branches on
their results. Each delivery brings its own handler, so that a handler may depend on anything that
happened before. A point inside a handler is the end of a run whose last handler stops there.

**The invariant** (`Session.Inv`). From each role there is a link to its peer: what the role sent
is what the peer's handlers were called with, followed by what is still in the outbox. Sending
appends at one end of a link (`Link.send`) and delivering moves the border between its two parts
(`Link.deliver`); all else leaves it alone.

Main result: `conversation_safe`.
-/

namespace Bindery

open Wire

/-! ## Runs -/

/-- What a handler does once it is called: it returns, or it calls a send helper of its role and
goes on as the result tells it. -/
inductive Reaction (plan : RolePlan) where
  | done
  | send (call : Call) (planned : call.message ∈ plan.outgoing)
      (next : Except TooLong Unit → Reaction plan)

/-- What can happen in a conversation between roles with these plans. -/
inductive Action (plans : Role → RolePlan) where
  /-- A role calls one of its send helpers. -/
  | send (role : Role) (call : Call) (planned : call.message ∈ (plans role).outgoing)
  /-- The oldest message in a role's outbox is given to its peer, which calls the handler. -/
  | deliver (role : Role) (handler : Call → Reaction (plans role.peer))

/-- A call of a send helper, and what it returned. -/
structure Attempt where
  role : Role
  call : Call
  result : Except TooLong Unit

/-- What a role sent by the call, if anything. -/
def Attempt.sent? (role : Role) (attempt : Attempt) : Option Call :=
  match attempt.result with
  | .ok () => if attempt.role = role then some attempt.call else none
  | .error _ => none

/-- A conversation, the calls of send helpers so far, and the results of deliveries so far, both
oldest first. -/
structure Session where
  conversation : Conversation
  attempts : List Attempt := []
  deliveries : List (Except DispatchError Unit) := []

namespace Session

/-- The calls of a role's send helpers that succeeded. -/
def sent (session : Session) (role : Role) : List Call :=
  session.attempts.filterMap (Attempt.sent? role)

def send (session : Session) (role : Role) (call : Call) : Except TooLong Unit × Session :=
  let (result, conversation) := session.conversation.send role call.message call.arguments
  (result, { session with
    conversation, attempts := session.attempts ++ [⟨role, call, result⟩] })

def react (role : Role) {plan : RolePlan} : Reaction plan → Session → Session
  | .done, session => session
  | .send call _ next, session =>
    let (result, session) := session.send role call
    session.react role (next result)

/-- Delivers the oldest message in a role's outbox, if there is one, and lets the handler that is
called react. -/
def deliver (session : Session) (role : Role) {plan : RolePlan} (handler : Call → Reaction plan) :
    Session :=
  let sender := session.conversation.endpoint role
  match sender.outbox with
  | [] => session
  | input :: outbox =>
    let waiting := session.conversation.set role { sender with outbox }
    let (result, conversation) := waiting.receive role.peer input
    let session := { session with
      conversation, deliveries := session.deliveries ++ [result] }
    match (waiting.endpoint role.peer).plan.dispatch input with
    | .ok call => session.react role.peer (handler call)
    | .error _ => session

variable {plans : Role → RolePlan}

def step (session : Session) : Action plans → Session
  | .send role call _ => (session.send role call).2
  | .deliver role handler => session.deliver role handler

def run (session : Session) (actions : List (Action plans)) : Session :=
  actions.foldl step session

end Session

def Conversation.plan (conversation : Conversation) (role : Role) : RolePlan :=
  (conversation.endpoint role).plan

def Call.encode (call : Call) : Except TooLong Bytes :=
  call.message.encode call.arguments

/-! ## Links -/

/-- The peer handled all that a role sent but what is still in the role's outbox. -/
def Link (plan : RolePlan) (sent handled : List Call) (outbox : List Bytes) : Prop :=
  ∃ pending, sent = handled ++ pending ∧ pending.map Call.encode = outbox.map .ok ∧
    ∀ call ∈ pending, call.message ∈ plan.outgoing

namespace Link

variable {plan : RolePlan} {sent handled : List Call} {outbox : List Bytes} {call : Call}
  {bytes : Bytes}

theorem nil (plan : RolePlan) : Link plan [] [] [] :=
  ⟨[], rfl, rfl, nofun⟩

theorem send (h : Link plan sent handled outbox) (hencode : call.encode = .ok bytes)
    (hplanned : call.message ∈ plan.outgoing) :
    Link plan (sent ++ [call]) handled (outbox ++ [bytes]) := by
  obtain ⟨pending, rfl, hbytes, hall⟩ := h
  refine ⟨pending ++ [call], List.append_assoc .., ?_, ?_⟩
  · simp [hbytes, hencode]
  · intro c hc
    rcases List.mem_append.mp hc with hc | hc
    · exact hall c hc
    · rw [List.mem_singleton.mp hc]
      exact hplanned

/-- The oldest message in the outbox is the first call that was not handled. -/
theorem deliver (h : Link plan sent handled (bytes :: outbox)) :
    ∃ call, call.encode = .ok bytes ∧ call.message ∈ plan.outgoing ∧
      Link plan sent (handled ++ [call]) outbox := by
  obtain ⟨pending, rfl, hbytes, hall⟩ := h
  cases pending with
  | nil => cases hbytes
  | cons call pending =>
    obtain ⟨hfirst, hrest⟩ := List.cons.inj hbytes
    refine ⟨call, hfirst, hall call List.mem_cons_self, pending, by simp, hrest, ?_⟩
    exact fun c hc => hall c (List.mem_cons_of_mem call hc)

end Link

/-! ## Frames -/

namespace Conversation

variable (conversation : Conversation) (role : Role) (endpoint : Endpoint)

@[simp] theorem endpoint_set_self : (conversation.set role endpoint).endpoint role = endpoint := by
  cases role <;> rfl

@[simp] theorem endpoint_set_peer :
    (conversation.set role endpoint).endpoint role.peer = conversation.endpoint role.peer := by
  cases role <;> rfl

@[simp] theorem endpoint_set_of_peer :
    (conversation.set role.peer endpoint).endpoint role = conversation.endpoint role := by
  cases role <;> rfl

@[simp] theorem set_endpoint_self :
    conversation.set role (conversation.endpoint role) = conversation := by
  cases role <;> rfl

variable {conversation role endpoint}

/-- Plans stay what they are as long as endpoints keep theirs. -/
theorem plan_set (h : endpoint.plan = conversation.plan role) :
    (conversation.set role endpoint).plan = conversation.plan := by
  funext other
  cases role <;> cases other
  · exact h
  · rfl
  · rfl
  · exact h

end Conversation

theorem Role.ne_peer (role : Role) : role ≠ role.peer := by
  cases role <;> decide

namespace Session

variable {session : Session} {role : Role} {call : Call}

theorem send_of_ok {bytes : Bytes} (h : call.encode = .ok bytes) :
    session.send role call = (.ok (),
      { session with
        conversation := session.conversation.set role
          { session.conversation.endpoint role with
            outbox := (session.conversation.endpoint role).outbox ++ [bytes] }
        attempts := session.attempts ++ [⟨role, call, .ok ()⟩] }) := by
  rw [Call.encode] at h
  simp only [send, Conversation.send, Endpoint.send, h]

/-- A call that fails leaves no trace but its own record. -/
theorem send_of_error {e : TooLong} (h : call.encode = .error e) :
    session.send role call =
      (.error e, { session with attempts := session.attempts ++ [⟨role, call, .error e⟩] }) := by
  rw [Call.encode] at h
  simp only [send, Conversation.send, Endpoint.send, h, Conversation.set_endpoint_self]

theorem deliver_of_dispatch {plan : RolePlan} {handler : Call → Reaction plan} {input : Bytes}
    {outbox : List Bytes} (houtbox : (session.conversation.endpoint role).outbox = input :: outbox)
    (hdispatch : (session.conversation.plan role.peer).dispatch input = .ok call) :
    session.deliver role handler = Session.react role.peer (handler call)
      { session with
        conversation := (session.conversation.set role
          { session.conversation.endpoint role with outbox }).set role.peer
            { session.conversation.endpoint role.peer with
              calls := (session.conversation.endpoint role.peer).calls ++ [call] }
        deliveries := session.deliveries ++ [.ok ()] } := by
  rw [Conversation.plan] at hdispatch
  simp only [deliver, houtbox, Conversation.receive, Endpoint.receive,
    Conversation.endpoint_set_peer, hdispatch]

/-! ## The invariant -/

variable {plans : Role → RolePlan}

/-- Both links are intact, and no delivery failed. -/
structure Inv (plans : Role → RolePlan) (session : Session) : Prop where
  plan : ∀ role, session.conversation.plan role = plans role
  link : ∀ role, Link (plans role) (session.sent role)
    (session.conversation.endpoint role.peer).calls (session.conversation.endpoint role).outbox
  delivered : ∀ result ∈ session.deliveries, result = .ok ()

theorem inv_start {start : Conversation}
    (h : ∀ role, (start.endpoint role).outbox = [] ∧ (start.endpoint role).calls = []) :
    Inv start.plan ⟨start, [], []⟩ := by
  refine ⟨fun _ => rfl, fun role => ?_, fun _ hresult => absurd hresult List.not_mem_nil⟩
  show Link (start.plan role) [] (start.endpoint role.peer).calls (start.endpoint role).outbox
  rw [(h role).1, (h role.peer).2]
  exact Link.nil _

theorem Inv.send (h : session.Inv plans) (hplanned : call.message ∈ (plans role).outgoing) :
    (session.send role call).2.Inv plans := by
  cases hencode : call.encode with
  | error e =>
    rw [send_of_error hencode]
    refine ⟨h.plan, fun other => ?_, h.delivered⟩
    have hlink := h.link other
    simpa [sent, List.filterMap_cons, Attempt.sent?] using hlink
  | ok bytes =>
    rw [send_of_ok hencode]
    refine ⟨fun other => ?_, fun other => ?_, h.delivered⟩
    · refine (congrFun (Conversation.plan_set ?_) other).trans (h.plan other)
      rfl
    · have hlink := h.link other
      rcases role.eq_or_eq_peer other with rfl | rfl
      · -- The link from the role grows at its end.
        simpa [sent, List.filterMap_cons, Attempt.sent?] using hlink.send hencode hplanned
      · simpa [sent, List.filterMap_cons, Attempt.sent?, Role.ne_peer, Role.peer_peer] using hlink

theorem Inv.react (h : session.Inv plans) (reaction : Reaction (plans role)) :
    (session.react role reaction).Inv plans := by
  -- The induction is on the handler's tree; the session it starts from changes with each call.
  induction reaction generalizing session with
  | done => exact h
  | send call hplanned next ih => exact ih _ (h.send hplanned)

/-- Each role dispatches what the other can send. -/
def Understood (plans : Role → RolePlan) : Prop :=
  ∀ role call bytes, call.message ∈ (plans role).outgoing → call.encode = .ok bytes →
    (plans role.peer).dispatch bytes = .ok call

theorem Inv.deliver (h : session.Inv plans) (hplans : Understood plans)
    (handler : Call → Reaction (plans role.peer)) :
    (session.deliver role handler).Inv plans := by
  have hlink := h.link role
  cases houtbox : (session.conversation.endpoint role).outbox with
  | nil =>
    have hidle : session.deliver role handler = session := by simp only [Session.deliver, houtbox]
    rw [hidle]
    exact h
  | cons input outbox =>
    rw [houtbox] at hlink
    obtain ⟨call, hencode, hplanned, hmoved⟩ := hlink.deliver
    have hdispatch := hplans role call input hplanned hencode
    rw [← h.plan role.peer] at hdispatch
    rw [deliver_of_dispatch houtbox hdispatch]
    refine Inv.react ⟨fun other => ?_, fun other => ?_, ?_⟩ (handler call)
    · rw [← h.plan other, Conversation.plan_set]
      · refine congrFun (Conversation.plan_set ?_) other
        rfl
      · rw [Conversation.plan, Conversation.endpoint_set_peer]
    · have hother := h.link other
      rcases role.eq_or_eq_peer other with rfl | rfl
      · simpa [sent] using hmoved
      · -- The link back has its outbox at the peer and its calls at the role.
        simpa [sent, Role.peer_peer] using hother
    · intro result hresult
      rcases List.mem_append.mp hresult with hresult | hresult
      · exact h.delivered result hresult
      · exact List.mem_singleton.mp hresult

theorem Inv.step (h : session.Inv plans) (hplans : Understood plans) (action : Action plans) :
    (session.step action).Inv plans := by
  cases action with
  | send role call hplanned => exact h.send hplanned
  | deliver role handler => exact h.deliver hplans handler

theorem Inv.run (h : session.Inv plans) (hplans : Understood plans)
    (actions : List (Action plans)) : (session.run actions).Inv plans := by
  induction actions generalizing session with
  | nil => exact h
  | cons action actions ih => exact ih (h.step hplans action)

end Session

/-! ## Conversations of an interface -/

namespace Conversation

/-- The conversation between roles with these plans, before anything was said. -/
def between (plans : Role → RolePlan) : Conversation where
  client := { plan := plans .client }
  server := { plan := plans .server }

theorem plan_between (plans : Role → RolePlan) : (between plans).plan = plans := by
  funext role
  cases role <;> rfl

theorem empty_between (plans : Role → RolePlan) (role : Role) :
    ((between plans).endpoint role).outbox = [] ∧ ((between plans).endpoint role).calls = [] := by
  cases role <;> exact ⟨rfl, rfl⟩

theorem start_of_wellFormed {interface : Interface} (h : interface.WellFormed) :
    start interface = .ok (between interface.plan) := by
  simp only [start, RolePlan.ofInterface_of_wellFormed h, bind, Except.bind, pure, Except.pure,
    between]

end Conversation

theorem Session.understood_of_wellFormed {interface : Interface} (h : interface.WellFormed) :
    Understood interface.plan :=
  fun _ _ _ hplanned hencode => h.dispatch_peer hplanned hencode

/-- Nothing was lost, duplicated, reordered, misrouted or altered so far. -/
structure Session.Safe (session : Session) : Prop where
  /-- No delivery failed. -/
  delivered : ∀ result ∈ session.deliveries, result = .ok ()
  /-- The handlers at the peer of each role were called with what the role sent, in order, up to
  what is in its outbox. -/
  handled : ∀ role, ∃ pending,
    session.sent role = (session.conversation.endpoint role.peer).calls ++ pending ∧
      pending.map Call.encode = (session.conversation.endpoint role).outbox.map .ok
  /-- A send helper that fails sends nothing. -/
  refused : ∀ role call e, (session.send role call).1 = .error e →
    (session.send role call).2.conversation = session.conversation

theorem Session.Inv.safe {session : Session} {plans : Role → RolePlan} (h : session.Inv plans) :
    session.Safe where
  delivered := h.delivered
  handled role := by
    obtain ⟨pending, hsent, hbytes, -⟩ := h.link role
    exact ⟨pending, hsent, hbytes⟩
  refused role call e hresult := by
    cases hencode : call.encode with
    | error e' => rw [send_of_error hencode]
    | ok bytes => rw [send_of_ok hencode] at hresult; cases hresult

/-- **Conversations are safe.** A client and a server of a conformance interface start with
nothing sent and nothing handled. However they send and deliver from there, and whatever their
handlers send meanwhile, the session is safe at every point. -/
theorem conversation_safe (interface : Interface) (h : interface ∈ Conformance.interfaces) :
    ∃ start, Conversation.start interface = .ok start ∧
      (∀ role, (start.endpoint role).outbox = [] ∧ (start.endpoint role).calls = []) ∧
      ∀ actions : List (Action start.plan), (Session.run ⟨start, [], []⟩ actions).Safe := by
  have hwf := Conformance.wellFormed interface h
  have hempty := Conversation.empty_between interface.plan
  refine ⟨_, Conversation.start_of_wellFormed hwf, hempty, fun actions => ?_⟩
  have hunderstood : Session.Understood (Conversation.between interface.plan).plan := by
    rw [Conversation.plan_between]
    exact Session.understood_of_wellFormed hwf
  exact ((Session.inv_start hempty).run hunderstood actions).safe

namespace Conformance

def askRate : Call where
  message := ⟨telemetry.receives[0], .request, ⟨16384⟩⟩
  arguments := ((500 : UInt16), ())

def acceptRate : Call where
  message := ⟨telemetry.receives[0], .reply, ⟨16384⟩⟩
  arguments := ((1 : UInt8), ())

/-- The client answers while it handles the request. -/
def configuration : List (Action (Conversation.between telemetry.plan).plan) :=
  [.send .server askRate (by decide),
    .deliver .server fun _ => .send acceptRate (by decide) fun _ => .done,
    .deliver .client fun _ => .done]

end Conformance

open Conformance in
theorem conversation_safe_configuration :
    telemetry ∈ interfaces ∧
      Conversation.start telemetry = .ok (.between telemetry.plan) ∧
      (Session.run ⟨.between telemetry.plan, [], []⟩ configuration).Safe ∧
      ((Session.run ⟨.between telemetry.plan, [], []⟩ configuration).conversation.server.calls.map
        fun call => (call.message.rpc.name, call.message.leg)) = [("Configure", .reply)] := by
  have hmem : telemetry ∈ interfaces := by decide
  have hstart := Conversation.start_of_wellFormed (Conformance.wellFormed telemetry hmem)
  obtain ⟨start, hsame, -, hsafe⟩ := conversation_safe telemetry hmem
  obtain rfl := Except.ok.inj (hsame.symm.trans hstart)
  exact ⟨hmem, hstart, hsafe configuration, by decide⟩

end Bindery
