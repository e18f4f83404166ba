import MessageBus.Proofs.Envelope.RoundTrip
import MessageBus.Proofs.Session.OneFailure
/-!
# After the signal

Handing over waits for the consumer's queue and for the canceller at once, and either may win when both
are ready. So a session may fail even after its canceller's signal: `fails_after_signal_iff` says in which
states. The source, the sockets and the clock are free to do what it takes; a beat that fails plays no
part, since the receiver can fail by itself whenever it could be told of one.
-/
namespace MessageBus
set_option autoImplicit false
open Telemetry (Metric)

/-! ## Calls -/

/-- Whether a call whose canceller has given its signal may still end with a failure of its own: it is in
the middle of an exchange, or its attempts are used up. -/
def Call.mayFail (client : Client) (call : Call) : Bool :=
  match call.phase with
  | .dialing | .sending | .receiving => true
  | .checking | .pausing => call.exhausted client

/-- A call that may not fail ends as cancelled, or rests until then. -/
theorem Call.step_cancelled {client : Client} {call : Call} {e : Call.Event} {p : Call.Progress}
    {ms : List Metric} (hq : call.mayFail client = false) (h : call.step true client e = some (p, ms)) :
    (∃ client' service command, p = .finished client' (.error (.cancelled service command))) ∨
      ∃ call', p = .running client call' ∧ call'.mayFail client = false := by
  obtain ⟨request, attempts, phase⟩ := call
  cases phase with
  | dialing | sending | receiving => cases hq
  | checking =>
    cases e with
    | begin =>
      have hx : exhausted client ⟨request, attempts, .checking⟩ = false := hq
      simp only [step, begun, hx, Bool.false_eq_true, if_false, if_true, abandoned] at h
      cases h
      exact .inl ⟨_, _, _, rfl⟩
    | _ => cases h
  | pausing =>
    cases e <;> cases h
    · exact .inr ⟨_, rfl, hq⟩
    · exact .inl ⟨_, _, _, rfl⟩

namespace Session

/-! ## Which sessions may still fail -/

/-- Whether a session may fail after its canceller's signal. -/
def mayFail (s : Session) : Bool :=
  match s.driver with
  | .starting | .connecting _ | .failing _ => true
  | .settling => s.plan.transport.maxAttempts = some 0
  | .subscribing client call => call.mayFail client
  | .following => s.receiver.running
  | .closing | .joining | .finished => false

/-- Nothing that fails will be enqueued any more. -/
def Silent (s : Session) : Prop :=
  s.cancelled = true ∧ (s.attached = false ∨ s.mayFail = false)

section Silence
variable {s s' : Session} {e : Event} {ms : List Metric}

theorem mayFail_of_running (hst : Staged s) (hr : s.receiver.running = true) : s.mayFail = true := by
  simp only [mayFail, hst.following hr, hr]

theorem start_mayFail (plan : Plan) :
    (Call.start plan.subscribeRequest).mayFail (.new plan.endpoint plan.transport) =
      decide (plan.transport.maxAttempts = some 0) := by
  unfold Call.mayFail Call.exhausted
  simp only [Call.start, Client.new]
  cases plan.transport.maxAttempts <;> simp

/-- A session that may not fail stays so. -/
theorem mayFail_driver {e : DriverEvent} (hc : s.cancelled = true) (hq : s.mayFail = false)
    (hm : DriverMove s e s' ms) : s'.mayFail = false := by
  cases hm with
  | opens hd | portless hd | connected hd | unconnected hd | overdue hd | tells hd | keepsBack hd =>
    simp [mayFail, hd] at hq
  | settled hd =>
    simp only [mayFail, hd] at hq
    simp only [mayFail, start_mayFail, hq]
  | calls hd hcall =>
    simp only [mayFail, hd] at hq
    rw [hc] at hcall
    obtain ⟨_, _, _, hp⟩ | ⟨call', hp, hq'⟩ := Call.step_cancelled hq hcall
    · cases hp
    · cases hp
      simp only [mayFail, hq']
  | subscribed hd hcall =>
    simp only [mayFail, hd] at hq
    rw [hc] at hcall
    obtain ⟨_, _, _, hp⟩ | ⟨_, hp, _⟩ := Call.step_cancelled hq hcall <;> cases hp
  | abandoned | stopped | closed | followed | joined => rfl
  | unsubscribed hd hw hcall =>
    simp only [mayFail, hd] at hq
    rw [hc] at hcall
    obtain ⟨_, _, _, hp⟩ | ⟨_, hp, _⟩ := Call.step_cancelled hq hcall
    · cases hp
      exact absurd rfl (hw _ _)
    · cases hp

theorem Silent.next (hst : Staged s) (h : Silent s) (hm : Move s e s' ms) : Silent s' := by
  obtain ⟨hc, hq⟩ := h
  cases hm with
  | driver hm =>
    have hc' : s'.cancelled = true := by cases hm <;> first | exact hc | rfl
    have ha : s'.attached = s.attached := by cases hm <;> rfl
    exact ⟨hc', hq.imp (ha ▸ ·) (mayFail_driver hc · hm)⟩
  | heartbeat hm => cases hm <;> exact ⟨hc, hq⟩
  | receiver hm =>
    have ha : s'.attached = s.attached := by cases hm <;> rfl
    have hc' : s'.cancelled = s.cancelled := by cases hm <;> rfl
    refine ⟨hc'.trans hc, .inl (ha.trans (hq.resolve_right fun hq => ?_))⟩
    rw [mayFail_of_running hst hm.running] at hq
    cases hq
  | consumer hm =>
    cases hm with
    | cancelled => exact ⟨rfl, hq⟩
    | detached => exact ⟨hc, .inl rfl⟩
    | took => exact ⟨hc, hq⟩

/-- A silent session enqueues nothing. -/
theorem Silent.enqueues_none (hst : Staged s) (h : Silent s) (hm : Move s e s' ms) :
    Transition.enqueued? ⟨s, e, s', ms⟩ = none := by
  cases move_flow hm with
  | still he _ _ _ | leaves he _ _ _ _ | dropped he _ _ => exact he
  | enters he _ _ ha _ =>
    have hq : s.mayFail = false := h.2.resolve_left (by simpa using ha)
    obtain ⟨-, -, hd | ⟨remote, hr⟩⟩ := move_enqueues hst hm he
    · simp [mayFail, hd] at hq
    · rw [mayFail_of_running hst (by rw [hr]; rfl)] at hq
      cases hq

theorem Silent.steps {trace : List Transition} (hst : Staged s) (h : Silent s)
    (hs : Steps s trace s') : Staged s' ∧ Silent s' ∧ enqueued trace = [] := by
  induction hs with
  | none => exact ⟨hst, h, rfl⟩
  | step _ hs ih =>
    obtain ⟨hst', h', hnone⟩ := ih
    have hm := step_move hs
    refine ⟨staged_move hst' hm, h'.next hst' hm, ?_⟩
    rw [enqueued_none (h'.enqueues_none hst' hm), hnone]

end Silence

/-! ## How they fail -/

/-- Some way on from a state in which something failing is enqueued. -/
def CanFail (s : Session) : Prop :=
  ∃ trace s', Steps s trace s' ∧ ∃ b ∈ enqueued trace, b.isOk = false

section Ways
variable {s s' : Session}

theorem CanFail.of_steps {trace : List Transition} (h : Steps s trace s') (hf : CanFail s') :
    CanFail s := by
  obtain ⟨more, s'', hs, b, hb, hbad⟩ := hf
  refine ⟨trace ++ more, s'', h.trans hs, b, ?_, hbad⟩
  rw [enqueued, List.filterMap_append]
  exact List.mem_append_right _ hb

theorem CanFail.of_move {e : Event} {ms : List Metric} (hm : Move s e s' ms) (hf : CanFail s') :
    CanFail s :=
  hf.of_steps (Steps.none.step (step_iff_move.mpr hm))

theorem CanFail.of_enqueued {e : Event} {ms : List Metric} {b : Broadcast} (hm : Move s e s' ms)
    (he : Transition.enqueued? ⟨s, e, s', ms⟩ = some b) (hb : b.isOk = false) : CanFail s :=
  ⟨_, _, Steps.none.step (step_iff_move.mpr hm), b, by rw [enqueued_some he]; simp, hb⟩

/-- The consumer takes all that waits for it. -/
theorem steps_drained (ha : s.attached = true) : ∃ trace, Steps s trace { s with inbox := [] } := by
  generalize hn : s.inbox = waiting
  induction waiting generalizing s with
  | nil =>
    have hs : { s with inbox := [] } = s := by rw [← hn]
    exact ⟨[], hs ▸ .none⟩
  | cons b rest ih =>
    have hm : Move s (.consumer .took) { s with inbox := rest } [] := .consumer (.took ha hn)
    obtain ⟨trace, hs⟩ := ih (s := { s with inbox := rest }) ha rfl
    exact ⟨_, (Steps.none.step (step_iff_move.mpr hm)).trans hs⟩

theorem Plan.room_pos (p : Plan) : 0 < p.room :=
  Nat.lt_of_lt_of_le Nat.one_pos (Nat.le_max_right ..)

theorem canFail_of_failing {b : Broadcast} (ha : s.attached = true) (hd : s.driver = .failing b)
    (hb : b.isOk = false) : CanFail s := by
  obtain ⟨trace, hs⟩ := steps_drained ha
  refine .of_steps hs (.of_enqueued (.driver (.tells hd ha s.plan.room_pos)) ?_ hb)
  simp only [Transition.enqueued?, hd]

theorem canFail_of_forwarding {b : Broadcast} {remote : Bool} (ha : s.attached = true)
    (hr : s.receiver = .forwarding b remote) (hb : b.isOk = false) : CanFail s := by
  obtain ⟨trace, hs⟩ := steps_drained ha
  refine .of_steps hs (.of_enqueued (.receiver (.tells hr ha s.plan.room_pos hb)) ?_ hb)
  simp only [Transition.enqueued?, hr]

/-- The source fails. -/
theorem canFail_of_listening (ha : s.attached = true) (hr : s.receiver = .listening) : CanFail s :=
  .of_move (.receiver (.broken (e := .closed) hr)) (canFail_of_forwarding ha rfl rfl)

theorem canFail_of_running (ha : s.attached = true) (hr : s.receiver.running = true) : CanFail s := by
  cases hs : s.receiver with
  | absent | finished =>
    rw [hs] at hr
    cases hr
  | listening => exact canFail_of_listening ha hs
  | forwarding b remote =>
    cases hb : b.isOk with
    | false => exact canFail_of_forwarding ha hs hb
    | true =>
      obtain ⟨trace, hd⟩ := steps_drained ha
      have hm := ReceiverMove.passes (s := { s with inbox := [] }) hs ha s.plan.room_pos hb
      exact .of_steps hd (.of_move (.receiver hm) (canFail_of_listening ha rfl))

/-- A handshake ends with a failure. -/
theorem canFail_of_unsubscribed {client client' : Client} {call : Call} {e : Call.Event}
    {why : CallError} {ms : List Metric} (ha : s.attached = true)
    (hd : s.driver = .subscribing client call) (hw : ∀ service command, why ≠ .cancelled service command)
    (hc : call.step s.cancelled client e = some (.finished client' (.error why), ms)) : CanFail s :=
  .of_move (.driver (.unsubscribed hd hw hc)) (canFail_of_failing ha rfl rfl)

theorem canFail_of_calls {client client' : Client} {call call' : Call} {e : Call.Event}
    {ms : List Metric} (hd : s.driver = .subscribing client call)
    (hc : call.step s.cancelled client e = some (.running client' call', ms))
    (hf : CanFail { s with driver := .subscribing client' call' }) : CanFail s :=
  .of_move (.driver (.calls hd hc)) hf

theorem canFail_of_exhausted {client : Client} {request : Request} {k : Nat} (ha : s.attached = true)
    (hd : s.driver = .subscribing client ⟨request, k, .checking⟩)
    (hx : Call.exhausted client ⟨request, k, .checking⟩ = true) : CanFail s := by
  have hstep : Call.step s.cancelled client ⟨request, k, .checking⟩ .begin =
      some (.finished client (.error (.retriesExhausted client.service request.command k)), []) := by
    simp only [Call.step, Call.begun, hx, if_true]
  exact canFail_of_unsubscribed ha hd (fun _ _ h => by cases h) hstep

/-- The service answers with a rejection. -/
theorem canFail_of_receiving {client : Client} {request : Request} {k : Nat} (ha : s.attached = true)
    (hd : s.driver = .subscribing client ⟨request, k, .receiving⟩) : CanFail s := by
  have hreply : Reply.decode (Reply.fail "").encode = .ok (.fail "") :=
    Reply.decode_carried Params.carried_empty
  have hstep : Call.step s.cancelled client ⟨request, k, .receiving⟩
      (.received (Reply.fail "").encode) =
        some (.finished client (.error (.application client.service request.command "")),
          [.applicationFailure client.service request.command]) := by
    simp only [Call.step, Call.answered, hreply]
    rfl
  exact canFail_of_unsubscribed ha hd (fun _ _ h => by cases h) hstep

theorem canFail_of_subscribing {client : Client} {call : Call} (ha : s.attached = true)
    (hd : s.driver = .subscribing client call) (hq : call.mayFail client = true) : CanFail s := by
  obtain ⟨request, k, phase⟩ := call
  have hsent {s : Session} {client : Client} (ha : s.attached = true)
      (hd : s.driver = .subscribing client ⟨request, k, .sending⟩) : CanFail s :=
    canFail_of_calls (e := .sent) hd rfl (canFail_of_receiving ha rfl)
  cases phase with
  | checking => exact canFail_of_exhausted ha hd hq
  | pausing => exact canFail_of_calls (e := .expired) hd rfl (canFail_of_exhausted ha rfl hq)
  | dialing => exact canFail_of_calls (e := .dialed 0) hd rfl (hsent ha rfl)
  | sending => exact hsent ha hd
  | receiving => exact canFail_of_receiving ha hd

theorem canFail_of_connecting {target : Endpoint} (ha : s.attached = true)
    (hd : s.driver = .connecting target) : CanFail s :=
  .of_move (.driver (.unconnected (e := .closed) hd)) (canFail_of_failing ha rfl rfl)

/-- A session that may fail has a way to do so. -/
theorem canFail_of_mayFail (ha : s.attached = true) (hf : ∀ b, s.driver = .failing b → b.isOk = false)
    (hq : s.mayFail = true) : CanFail s := by
  cases hd : s.driver with
  | starting =>
    cases ht : s.plan.endpoint.broadcast with
    | ok target => exact .of_move (.driver (.opens hd ht)) (canFail_of_connecting ha rfl)
    | error e => exact .of_move (.driver (.portless hd ht)) (canFail_of_failing ha rfl rfl)
  | connecting target => exact canFail_of_connecting ha hd
  | settling =>
    simp only [mayFail, hd] at hq
    exact .of_move (.driver (.settled hd))
      (canFail_of_subscribing ha rfl ((start_mayFail s.plan).trans hq))
  | subscribing client call =>
    simp only [mayFail, hd] at hq
    exact canFail_of_subscribing ha hd hq
  | failing b => exact canFail_of_failing ha hd (hf b hd)
  | following =>
    simp only [mayFail, hd] at hq
    exact canFail_of_running ha hq
  | closing | joining | finished => simp [mayFail, hd] at hq

end Ways

/-- After its canceller's signal a session can still enqueue something that fails just if the consumer is
there and a task is at a point where its failure races with the signal. -/
theorem fails_after_signal_iff {plan : Plan} {trace : List Transition} {s : Session}
    (h : Run plan trace s) (hc : s.cancelled = true) :
    CanFail s ↔ s.attached = true ∧ s.mayFail = true := by
  constructor
  · rintro ⟨more, s', hs, b, hb, -⟩
    by_cases ha : s.attached = true
    · refine ⟨ha, ?_⟩
      cases hq : s.mayFail with
      | true => rfl
      | false =>
        obtain ⟨-, -, hnone⟩ := Silent.steps (Run.staged h) ⟨hc, .inr hq⟩ hs
        rw [hnone] at hb
        cases hb
    · obtain ⟨-, -, hnone⟩ := Silent.steps (Run.staged h) ⟨hc, .inl (by simpa using ha)⟩ hs
      rw [hnone] at hb
      cases hb
  · rintro ⟨ha, hq⟩
    refine canFail_of_mayFail ha (fun b hb => ?_) hq
    obtain ⟨f, rfl⟩ := (Run.handing h).failing b hb
    exact plan.failure_isOk f

end Session
end MessageBus
