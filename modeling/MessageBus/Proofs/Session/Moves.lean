import MessageBus.Session.Step
/-!
# What a step of a session can do

`Session.step` as a relation, with one rule for each thing that a task or the consumer can do. Facts about
all steps are proved by cases on `Move`, and no other proof opens the step functions of the tasks.
-/
namespace MessageBus.Session
set_option autoImplicit false
open Telemetry (Metric)

/-! ## Rules -/

/-- A task gives up handing a broadcast over. -/
inductive GivenUp (s : Session) : Handover → Prop
  | refused (h : s.attached = false) : GivenUp s .refused
  | withdrawn (h : s.cancelled = true) : GivenUp s .withdrawn

inductive DriverMove (s : Session) : DriverEvent → Session → List Metric → Prop
  | opens {target : Endpoint} (h : s.driver = .starting) (ht : s.plan.endpoint.broadcast = .ok target) :
      DriverMove s .started { s with driver := .connecting target } []
  | portless {e : RegistryError} (h : s.driver = .starting) (he : s.plan.endpoint.broadcast = .error e) :
      DriverMove s .started { s with driver := .failing (s.plan.failure (.noBroadcasts e)) }
        (failureMetrics (.noBroadcasts e))
  | connected {target : Endpoint} (h : s.driver = .connecting target) :
      DriverMove s .connected { s with driver := .settling } []
  | unconnected {target : Endpoint} {e : SocketError} (h : s.driver = .connecting target) :
      DriverMove s (.connectFailed e) { s with driver := .failing (s.plan.failure (.connect e)) }
        (failureMetrics (.connect e))
  | overdue {target : Endpoint} (h : s.driver = .connecting target) :
      DriverMove s .connectExpired
        { s with
          driver := .failing
            (s.plan.failure (.connectTimeout target.url s.plan.transport.requestTimeout)) }
        (failureMetrics (.connectTimeout target.url s.plan.transport.requestTimeout))
  | settled (h : s.driver = .settling) :
      DriverMove s .settled
        { s with
          driver := .subscribing (.new s.plan.endpoint s.plan.transport)
            (.start s.plan.subscribeRequest) } []
  | calls {client client' : Client} {call call' : Call} {e : Call.Event} {ms : List Metric}
      (h : s.driver = .subscribing client call)
      (hc : call.step s.cancelled client e = some (.running client' call', ms)) :
      DriverMove s (.subscribe e) { s with driver := .subscribing client' call' } ms
  | subscribed {client client' : Client} {call : Call} {e : Call.Event} {reply : Reply}
      {ms : List Metric} (h : s.driver = .subscribing client call)
      (hc : call.step s.cancelled client e = some (.finished client' (.ok reply), ms)) :
      DriverMove s (.subscribe e) (s.handOver client') ms
  | abandoned {client client' : Client} {call : Call} {e : Call.Event} {service command : String}
      {ms : List Metric} (h : s.driver = .subscribing client call)
      (hc : call.step s.cancelled client e =
        some (.finished client' (.error (.cancelled service command)), ms)) :
      DriverMove s (.subscribe e) { s with driver := .finished } ms
  | unsubscribed {client client' : Client} {call : Call} {e : Call.Event} {why : CallError}
      {ms : List Metric} (h : s.driver = .subscribing client call)
      (hw : ∀ service command, why ≠ .cancelled service command)
      (hc : call.step s.cancelled client e = some (.finished client' (.error why), ms)) :
      DriverMove s (.subscribe e) { s with driver := .failing (s.plan.failure (.handshake why)) }
        (ms ++ failureMetrics (.handshake why))
  | tells {b : Broadcast} (h : s.driver = .failing b) (ha : s.attached = true)
      (hr : s.inbox.length < s.plan.room) :
      DriverMove s (.handed .accepted) { s with inbox := s.inbox ++ [b], driver := .closing } []
  | keepsBack {b : Broadcast} {way : Handover} (h : s.driver = .failing b) (hg : GivenUp s way) :
      DriverMove s (.handed way) { s with driver := .closing } []
  | stopped (h : s.driver = .settling ∨ ∃ target, s.driver = .connecting target)
      (hc : s.cancelled = true) :
      DriverMove s .stopped { s with driver := .finished } []
  | closed (h : s.driver = .closing) :
      DriverMove s .closed { s with cancelled := true, driver := .finished } []
  | followed (h : s.driver = .following) (hr : s.receiver = .finished) :
      DriverMove s .followed { s with cancelled := true, driver := .joining } []
  | joined (h : s.driver = .joining) (hb : s.heartbeat = .finished) :
      DriverMove s .joined { s with driver := .finished } []

inductive HeartbeatMove (s : Session) : HeartbeatEvent → Session → List Metric → Prop
  | begins {client : Client} {clock : Duration} (h : s.heartbeat = .starting client)
      (hb : s.plan.beatsFrom clock = true) :
      HeartbeatMove s (.started clock) { s with heartbeat := .resting client } []
  | breaks {client : Client} {clock : Duration} (h : s.heartbeat = .starting client)
      (hb : s.plan.beatsFrom clock = false) :
      HeartbeatMove s (.started clock) { s with heartbeat := .finished } []
  | ticked {client : Client} (h : s.heartbeat = .resting client) (hc : s.cancelled = false) :
      HeartbeatMove s .ticked
        { s with heartbeat := .beating client (.start s.plan.heartbeatRequest) }
        [.heartbeatSent client.service]
  | calls {client client' : Client} {call call' : Call} {e : Call.Event} {ms : List Metric}
      (h : s.heartbeat = .beating client call)
      (hc : call.step s.cancelled client e = some (.running client' call', ms)) :
      HeartbeatMove s (.beat e) { s with heartbeat := .beating client' call' } ms
  | beaten {client client' : Client} {call : Call} {e : Call.Event} {reply : Reply}
      {ms : List Metric} (h : s.heartbeat = .beating client call)
      (hc : call.step s.cancelled client e = some (.finished client' (.ok reply), ms)) :
      HeartbeatMove s (.beat e) { s with heartbeat := .resting client' } ms
  | abandoned {client client' : Client} {call : Call} {e : Call.Event} {service command : String}
      {ms : List Metric} (h : s.heartbeat = .beating client call)
      (hc : call.step s.cancelled client e =
        some (.finished client' (.error (.cancelled service command)), ms)) :
      HeartbeatMove s (.beat e) { s with heartbeat := .finished } ms
  | unbeaten {client client' : Client} {call : Call} {e : Call.Event} {why : CallError}
      {ms : List Metric} (h : s.heartbeat = .beating client call)
      (hw : ∀ service command, why ≠ .cancelled service command)
      (hc : call.step s.cancelled client e = some (.finished client' (.error why), ms)) :
      HeartbeatMove s (.beat e) { s with heartbeat := .reporting why } ms
  | reported {e : CallError} (h : s.heartbeat = .reporting e) :
      HeartbeatMove s .reported
        { s with
          heartbeat := .finished, control := if s.receiver.running then some e else s.control } []
  | stopped {client : Client} (h : s.heartbeat = .resting client) (hc : s.cancelled = true) :
      HeartbeatMove s .stopped { s with heartbeat := .finished } []

inductive ReceiverMove (s : Session) : ReceiverEvent → Session → List Metric → Prop
  | broken {e : SocketError} (h : s.receiver = .listening) :
      ReceiverMove s (.heard (.error e))
        { s with receiver := .forwarding (s.plan.failure (.socket e)) false }
        (failureMetrics (.socket e))
  | malformed {frame : Frame} {e : EnvelopeError} (h : s.receiver = .listening)
      (hd : Broadcast.decode frame = .error e) :
      ReceiverMove s (.heard (.ok frame))
        { s with receiver := .forwarding (s.plan.failure (.malformed e)) false }
        (failureMetrics (.malformed e))
  | heard {frame : Frame} {b : Broadcast} (h : s.receiver = .listening)
      (hd : Broadcast.decode frame = .ok b) :
      ReceiverMove s (.heard (.ok frame)) { s with receiver := .forwarding b true }
        [.broadcastReceived b.isOk]
  | alerted {e : CallError} (h : s.receiver = .listening) (hc : s.control = some e) :
      ReceiverMove s .alerted
        { s with control := none, receiver := .forwarding (s.plan.failure (.heartbeat e)) false }
        (failureMetrics (.heartbeat e))
  | deserted (h : s.receiver = .listening) (hc : s.control = none) (hb : s.heartbeat = .finished) :
      ReceiverMove s .deserted { s with receiver := .finished } []
  | passes {b : Broadcast} {remote : Bool} (h : s.receiver = .forwarding b remote)
      (ha : s.attached = true) (hr : s.inbox.length < s.plan.room) (hb : b.isOk = true) :
      ReceiverMove s (.handed .accepted)
        { s with inbox := s.inbox ++ [b], receiver := .listening } []
  | tells {b : Broadcast} {remote : Bool} (h : s.receiver = .forwarding b remote)
      (ha : s.attached = true) (hr : s.inbox.length < s.plan.room) (hb : b.isOk = false) :
      ReceiverMove s (.handed .accepted)
        { s with inbox := s.inbox ++ [b], receiver := .finished }
        (if remote then [.subscriptionFailure .remote] else [])
  | keepsBack {b : Broadcast} {remote : Bool} {way : Handover} (h : s.receiver = .forwarding b remote)
      (hg : GivenUp s way) :
      ReceiverMove s (.handed way) { s with receiver := .finished }
        (if !b.isOk && remote then [.subscriptionFailure .remote] else [])
  | stopped (h : s.receiver = .listening) (hc : s.cancelled = true) :
      ReceiverMove s .stopped { s with receiver := .finished } []

inductive ConsumerMove (s : Session) : ConsumerEvent → Session → Prop
  | cancelled : ConsumerMove s .cancelled { s with cancelled := true }
  | detached (hc : s.cancelled = true) :
      ConsumerMove s .detached { s with attached := false, inbox := [] }
  | took {b : Broadcast} {rest : List Broadcast} (ha : s.attached = true) (hi : s.inbox = b :: rest) :
      ConsumerMove s .took { s with inbox := rest }

inductive Move (s : Session) : Event → Session → List Metric → Prop
  | driver {e : DriverEvent} {s' : Session} {ms : List Metric} (h : DriverMove s e s' ms) :
      Move s (.driver e) s' ms
  | heartbeat {e : HeartbeatEvent} {s' : Session} {ms : List Metric} (h : HeartbeatMove s e s' ms) :
      Move s (.heartbeat e) s' ms
  | receiver {e : ReceiverEvent} {s' : Session} {ms : List Metric} (h : ReceiverMove s e s' ms) :
      Move s (.receiver e) s' ms
  | consumer {e : ConsumerEvent} {s' : Session} (h : ConsumerMove s e s') : Move s (.consumer e) s' []

/-! ## Every step is a move -/

section Steps
variable {s s' : Session} {ms : List Metric}

theorem hand_eq_some {b : Broadcast} {way : Handover} (h : s.hand b way = some s') :
    (way = .accepted ∧ s.attached = true ∧ s.inbox.length < s.plan.room ∧
      s' = { s with inbox := s.inbox ++ [b] }) ∨ GivenUp s way ∧ s' = s := by
  cases way with
  | accepted =>
    simp only [hand, Bool.and_eq_true, decide_eq_true_eq] at h
    split at h
    · next hroom =>
      cases h
      exact .inl ⟨rfl, hroom.1, hroom.2, rfl⟩
    · cases h
  | refused =>
    simp only [hand] at h
    split at h
    · cases h
    · next ha =>
      cases h
      exact .inr ⟨.refused (by simpa using ha), rfl⟩
  | withdrawn =>
    simp only [hand] at h
    split at h
    · next hc =>
      cases h
      exact .inr ⟨.withdrawn hc, rfl⟩
    · cases h

theorem GivenUp.forwarded {b : Broadcast} {remote : Bool} {way : Handover} (hg : GivenUp s way) :
    s.forwarded b remote way =
      ({ s with receiver := .finished },
        if !b.isOk && remote then [.subscriptionFailure .remote] else []) := by
  unfold Session.forwarded
  by_cases hb : b.isOk = true
  · cases hg <;> simp [hb]
  · simp [hb]

theorem driver_call_move {client : Client} {call : Call} {e : Call.Event} {p : Call.Progress}
    {ms₀ : List Metric} (hd : s.driver = .subscribing client call)
    (hc : call.step s.cancelled client e = some (p, ms₀)) (h : s.subscribed ms₀ p = (s', ms)) :
    DriverMove s (.subscribe e) s' ms := by
  unfold subscribed at h
  split at h <;> cases h
  · exact .calls hd hc
  · exact .subscribed hd hc
  · exact .abandoned hd hc
  · next hw => exact .unsubscribed hd (fun service command he => hw service command he) hc

theorem driverStep_move {e : DriverEvent} (h : s.driverStep e = some (s', ms)) :
    DriverMove s e s' ms := by
  unfold driverStep at h
  split at h
  · next hd =>
    split at h
    · next ht =>
      cases h
      exact .opens hd ht
    · next he =>
      cases h
      exact .portless hd he
  · next hd =>
    cases h
    exact .connected hd
  · next hd =>
    cases h
    exact .unconnected hd
  · next hd =>
    cases h
    exact .overdue hd
  · next hd =>
    cases h
    exact .settled hd
  · next hd =>
    obtain ⟨⟨p, ms₀⟩, hc, hs⟩ := Option.map_eq_some_iff.mp h
    exact driver_call_move hd hc hs
  · next hd =>
    obtain ⟨s₁, hs, hs'⟩ := Option.map_eq_some_iff.mp h
    cases hs'
    obtain ⟨rfl, ha, hr, rfl⟩ | ⟨hg, rfl⟩ := hand_eq_some hs
    · exact .tells hd ha hr
    · exact .keepsBack hd hg
  · next hd =>
    split at h
    · next hc =>
      cases h
      exact .stopped (.inr ⟨_, hd⟩) hc
    · cases h
  · next hd =>
    split at h
    · next hc =>
      cases h
      exact .stopped (.inl hd) hc
    · cases h
  · next hd =>
    cases h
    exact .closed hd
  · next hd =>
    split at h
    · next hr =>
      cases h
      exact .followed hd hr
    · cases h
  · next hd =>
    split at h
    · next hb =>
      cases h
      exact .joined hd hb
    · cases h
  · cases h

theorem heartbeat_call_move {client : Client} {call : Call} {e : Call.Event} {p : Call.Progress}
    {ms₀ : List Metric} (hb : s.heartbeat = .beating client call)
    (hc : call.step s.cancelled client e = some (p, ms₀)) (h : s.beaten ms₀ p = (s', ms)) :
    HeartbeatMove s (.beat e) s' ms := by
  unfold beaten at h
  split at h <;> cases h
  · exact .calls hb hc
  · exact .beaten hb hc
  · exact .abandoned hb hc
  · next hw => exact .unbeaten hb (fun service command he => hw service command he) hc

theorem heartbeatStep_move {e : HeartbeatEvent} (h : s.heartbeatStep e = some (s', ms)) :
    HeartbeatMove s e s' ms := by
  unfold heartbeatStep at h
  split at h
  · next clock hb =>
    cases hfits : s.plan.beatsFrom clock with
    | true =>
      rw [hfits] at h
      cases h
      exact .begins hb hfits
    | false =>
      rw [hfits] at h
      cases h
      exact .breaks hb hfits
  · next hb =>
    split at h
    · cases h
    · next hc =>
      cases h
      exact .ticked hb (by simpa using hc)
  · next hb =>
    obtain ⟨⟨p, ms₀⟩, hc, hs⟩ := Option.map_eq_some_iff.mp h
    exact heartbeat_call_move hb hc hs
  · next hb =>
    cases h
    exact .reported hb
  · next hb =>
    split at h
    · next hc =>
      cases h
      exact .stopped hb hc
    · cases h
  · cases h

theorem heard_move {r : Except SocketError Frame} (hr : s.receiver = .listening)
    (h : s.heard r = (s', ms)) : ReceiverMove s (.heard r) s' ms := by
  unfold heard at h
  split at h
  · cases h
    exact .broken hr
  · split at h
    · next hd =>
      cases h
      exact .malformed hr hd
    · next hd =>
      cases h
      exact .heard hr hd

theorem receiverStep_move {e : ReceiverEvent} (h : s.receiverStep e = some (s', ms)) :
    ReceiverMove s e s' ms := by
  unfold receiverStep at h
  split at h
  · next hr => exact heard_move hr (Option.some.inj h)
  · next hr =>
    obtain ⟨why, hc, hs⟩ := Option.map_eq_some_iff.mp h
    cases hs
    exact .alerted hr hc
  · next hr =>
    simp only [Bool.and_eq_true, Option.isNone_iff_eq_none, decide_eq_true_eq] at h
    split at h
    · next hc =>
      cases h
      exact .deserted hr hc.1 hc.2
    · cases h
  · next hr =>
    split at h
    · next hc =>
      cases h
      exact .stopped hr hc
    · cases h
  · next b remote way hr =>
    obtain ⟨s₁, hs, hs'⟩ := Option.map_eq_some_iff.mp h
    obtain ⟨rfl, ha, hroom, rfl⟩ | ⟨hg, hs₁⟩ := hand_eq_some hs
    · by_cases hb : b.isOk = true
      · simp only [forwarded, hb, if_true] at hs'
        cases hs'
        exact .passes hr ha hroom hb
      · simp only [forwarded, hb] at hs'
        cases hs'
        exact .tells hr ha hroom (by simpa using hb)
    · rw [hs₁, hg.forwarded] at hs'
      cases hs'
      exact .keepsBack hr hg
  · cases h

theorem consumerStep_move {e : ConsumerEvent} (h : s.consumerStep e = some (s', ms)) :
    ConsumerMove s e s' ∧ ms = [] := by
  cases e with
  | cancelled =>
    cases h
    exact ⟨.cancelled, rfl⟩
  | detached =>
    simp only [consumerStep] at h
    split at h
    · next hc =>
      cases h
      exact ⟨.detached hc, rfl⟩
    · cases h
  | took =>
    simp only [consumerStep] at h
    split at h
    · cases h
    · next hi =>
      split at h
      · next ha =>
        cases h
        exact ⟨.took ha hi, rfl⟩
      · cases h

theorem step_move {e : Event} (h : s.step e = some (s', ms)) : Move s e s' ms := by
  cases e with
  | driver e => exact .driver (driverStep_move h)
  | heartbeat e => exact .heartbeat (heartbeatStep_move h)
  | receiver e => exact .receiver (receiverStep_move h)
  | consumer e =>
    obtain ⟨hm, rfl⟩ := consumerStep_move h
    exact .consumer hm

/-! ## Every move is a step -/

theorem GivenUp.hand {b : Broadcast} {way : Handover} (h : GivenUp s way) : s.hand b way = some s := by
  cases h with
  | refused ha => simp [Session.hand, ha]
  | withdrawn hc => simp [Session.hand, hc]

theorem hand_accepted (b : Broadcast) (ha : s.attached = true) (hr : s.inbox.length < s.plan.room) :
    s.hand b .accepted = some { s with inbox := s.inbox ++ [b] } := by
  simp [hand, ha, hr]

theorem DriverMove.step {e : DriverEvent} (h : DriverMove s e s' ms) :
    s.driverStep e = some (s', ms) := by
  cases h with
  | opens h ht => simp only [driverStep, h, ht]
  | portless h he => simp only [driverStep, h, he, driverFails]
  | connected h => simp only [driverStep, h]
  | unconnected h => simp only [driverStep, h, driverFails]
  | overdue h => simp only [driverStep, h, driverFails]
  | settled h => simp only [driverStep, h]
  | calls h hc => simp only [driverStep, h, hc, Option.map_some, Session.subscribed]
  | subscribed h hc => simp only [driverStep, h, hc, Option.map_some, Session.subscribed]
  | abandoned h hc => simp only [driverStep, h, hc, Option.map_some, Session.subscribed]
  | unsubscribed h hw hc =>
    simp only [driverStep, h, hc, Option.map_some, Session.subscribed, driverFails]
  | tells h ha hr => simp only [driverStep, h, hand_accepted _ ha hr, Option.map_some]
  | keepsBack h hg => simp only [driverStep, h, hg.hand, Option.map_some]
  | stopped h hc =>
    obtain hs | ⟨target, ht⟩ := h
    · simp only [driverStep, hs, if_pos hc]
    · simp only [driverStep, ht, if_pos hc]
  | closed h => simp only [driverStep, h]
  | followed h hr => simp only [driverStep, h, if_pos hr]
  | joined h hb => simp only [driverStep, h, if_pos hb]

theorem HeartbeatMove.step {e : HeartbeatEvent} (h : HeartbeatMove s e s' ms) :
    s.heartbeatStep e = some (s', ms) := by
  cases h with
  | begins h hb => simp only [heartbeatStep, h, hb, if_true]
  | breaks h hb => simp [heartbeatStep, h, hb]
  | ticked h hc => simp [heartbeatStep, h, hc]
  | calls h hc => simp only [heartbeatStep, h, hc, Option.map_some, Session.beaten]
  | beaten h hc => simp only [heartbeatStep, h, hc, Option.map_some, Session.beaten]
  | abandoned h hc => simp only [heartbeatStep, h, hc, Option.map_some, Session.beaten]
  | unbeaten h hw hc => simp only [heartbeatStep, h, hc, Option.map_some, Session.beaten]
  | reported h => simp only [heartbeatStep, h]
  | stopped h hc => simp only [heartbeatStep, h, if_pos hc]

theorem ReceiverMove.step {e : ReceiverEvent} (h : ReceiverMove s e s' ms) :
    s.receiverStep e = some (s', ms) := by
  cases h with
  | broken h => simp only [receiverStep, h, Session.heard, receiverFails]
  | malformed h hd => simp only [receiverStep, h, Session.heard, hd, receiverFails]
  | heard h hd => simp only [receiverStep, h, Session.heard, hd]
  | alerted h hc => simp only [receiverStep, h, hc, Option.map_some, receiverFails]
  | deserted h hc hb => simp [receiverStep, h, hc, hb]
  | passes h ha hr hb =>
    simp only [receiverStep, h, hand_accepted _ ha hr, Option.map_some, forwarded, hb, if_true]
  | tells h ha hr hb => simp [receiverStep, h, hand_accepted _ ha hr, forwarded, hb]
  | keepsBack h hg => simp only [receiverStep, h, hg.hand, Option.map_some, hg.forwarded]
  | stopped h hc => simp only [receiverStep, h, if_pos hc]

theorem ConsumerMove.step {e : ConsumerEvent} (h : ConsumerMove s e s') :
    s.consumerStep e = some (s', []) := by
  cases h with
  | cancelled => rfl
  | detached hc => simp only [consumerStep, if_pos hc]
  | took ha hi => simp only [consumerStep, hi, if_pos ha]

theorem step_iff_move {e : Event} : s.step e = some (s', ms) ↔ Move s e s' ms := by
  constructor
  · exact step_move
  · intro h
    cases h with
    | driver h => exact h.step
    | heartbeat h => exact h.step
    | receiver h => exact h.step
    | consumer h => exact h.step

end Steps
end MessageBus.Session
