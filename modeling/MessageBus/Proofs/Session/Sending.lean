import MessageBus.Proofs.Session.Requests
/-!
# What a session sends

`subscribes_then_beats`: a session sends its subscribe request, perhaps several times, and only after one of
them was acknowledged its heartbeat request. It sends nothing before its source is connected and nothing
after a failed handshake, and after the canceller's signal at most the frame of an attempt that had begun.
Each part is an invariant of the steps: `Counted` for the order, `Founded` for what must have come first,
`Driver.leaving` for the end, and `unsent` for what the signal leaves to be sent.
-/
namespace MessageBus
set_option autoImplicit false
open Telemetry (Metric)

/-! ## Calls -/

namespace Call

/-- When a frame counts as sent. -/
inductive Stage
  /-- It is given to a socket. -/
  | given
  /-- The socket has taken it. -/
  | taken

def Stage.phase : Stage → Phase
  | .given => .sending
  | .taken => .receiving

/-- Whether the frame of an attempt is sent by now. -/
def Stage.reached : Stage → Phase → Bool
  | .given, .sending | .given, .receiving | .taken, .receiving => true
  | _, _ => false

/-- The frame that a call sends by coming to this. -/
def Progress.frame? (stage : Stage) : Progress → Option Frame
  | .running _ call => if call.phase = stage.phase then some call.request.encode else none
  | .finished _ _ => none

/-- What a call can send without beginning another attempt. -/
def unsent (stage : Stage) (call : Call) : List Frame :=
  match stage, call.phase with
  | .given, .dialing | .taken, .dialing | .taken, .sending => [call.request.encode]
  | _, _ => []

section Moves
variable {stage : Stage} {fired : Bool} {c c' : Client} {call call' : Call} {e : Event} {ms : List Metric}

theorem Progress.frame?_some {p : Progress} {frame : Frame} (h : p.frame? stage = some frame) :
    ∃ c call, p = .running c call ∧ call.phase = stage.phase ∧ frame = call.request.encode := by
  cases p with
  | running c call =>
    simp only [Progress.frame?] at h
    split at h
    · next hp => exact ⟨c, call, rfl, hp, (Option.some.inj h).symm⟩
    · cases h
  | finished => cases h

theorem Move.frame_eq {p : Progress} (h : Move fired c call e p ms) {frame : Frame}
    (hf : p.frame? stage = some frame) : frame = call.request.encode := by
  obtain ⟨c', call', rfl, -, rfl⟩ := Progress.frame?_some hf
  rw [h.request]

/-- A call whose frame is sent has sent it now, or had before. -/
theorem Move.reached (h : Move fired c call e (.running c' call') ms)
    (hr : stage.reached call'.phase = true) :
    (Progress.running c' call').frame? stage = some call.request.encode ∨
      stage.reached call.phase = true := by
  have hphase : call'.phase = .sending ∨ call'.phase = .receiving := by
    revert hr
    cases stage <;> cases call'.phase <;> simp [Stage.reached]
  cases h with
  | reuses | dialed =>
    cases stage with
    | given => exact .inl rfl
    | taken => cases hr
  | sent hp =>
    cases stage with
    | given => exact .inr (by rw [hp]; rfl)
    | taken => exact .inl rfl
  | dials | undialed | rested | failed => simp at hphase

theorem Move.checking {p : Progress} (h : Move fired c call .begin p ms) : call.phase = .checking := by
  cases h with
  | exhausted hp | forestalled hp | reuses hp | dials hp => exact hp
  | undialed hp he =>
    obtain he | ⟨why, he⟩ := he
    · cases he
    · cases he
  | failed he =>
    revert he
    cases call.phase <;> exact nofun

theorem Move.acknowledged {reply : Reply} (h : Move fired c call e (.finished c' (.ok reply)) ms) :
    call.phase = .receiving ∧ ∃ frame, e = .received frame ∧ Reply.decode frame = .ok reply ∧
      reply.isOk = true := by
  generalize hp : Progress.finished c' (.ok reply) = p at h
  cases h with
  | answered hphase =>
    refine ⟨hphase, _, rfl, ?_⟩
    have hverdict : verdict c call.request _ = .ok reply := (Progress.finished.inj hp).2.symm
    unfold verdict at hverdict
    split at hverdict
    · cases hverdict
    · next hd =>
      split at hverdict
      · next hok =>
        cases hverdict
        exact ⟨hd, hok⟩
      · cases hverdict
  | exhausted | forestalled | abandoned => cases hp
  | reuses | dials | dialed | undialed | rested | sent | failed => cases hp

/-- After the signal a call sends at most what it has yet to send. -/
theorem Move.unsent (h : Move true c call e (.running c' call') ms) :
    (((Progress.running c' call').frame? stage).toList ++ call'.unsent stage).Sublist
      (call.unsent stage) := by
  cases h with
  | reuses _ _ hf | dials _ _ hf => cases hf
  | dialed hp =>
    have hunsent : call.unsent stage = [call.request.encode] := by cases stage <;> simp [Call.unsent, hp]
    rw [hunsent]
    cases stage <;> exact List.Sublist.refl _
  | sent hp => cases stage <;> simp [Call.unsent, Progress.frame?, Stage.phase, hp]
  | undialed | rested | failed => cases stage <;> exact List.nil_sublist _

theorem unsent_of_checking (hp : call.phase = .checking) : call.unsent stage = [] := by
  cases stage <;> simp [Call.unsent, hp]

theorem length_unsent : (call.unsent stage).length ≤ 1 := by
  unfold Call.unsent
  split <;> simp

theorem mem_unsent {frame : Frame} (h : frame ∈ call.unsent stage) :
    (call.phase = .dialing ∨ call.phase = .sending) ∧ frame = call.request.encode := by
  unfold Call.unsent at h
  split at h
  · next hp => exact ⟨.inl hp, List.mem_singleton.mp h⟩
  · next hp => exact ⟨.inl hp, List.mem_singleton.mp h⟩
  · next hp => exact ⟨.inr hp, List.mem_singleton.mp h⟩
  · cases h

end Moves
end Call

namespace Session

/-! ## Frames -/

namespace Transition

/-- The frame that a transition sends. -/
def sent? (stage : Call.Stage) (t : Transition) : Option Frame :=
  match t.event, t.after.driver, t.after.heartbeat with
  | .driver (.subscribe _), .subscribing client call, _ => (Call.Progress.running client call).frame? stage
  | .heartbeat (.beat _), _, .beating client call => (Call.Progress.running client call).frame? stage
  | _, _, _ => none

/-- A subscribe request is answered with a good reply. -/
def Acknowledged (t : Transition) : Prop :=
  ∃ client call frame reply, t.before.driver = .subscribing client call ∧
    t.event = .driver (.subscribe (.received frame)) ∧ Reply.decode frame = .ok reply ∧ reply.isOk = true

/-- How the handshake fails. -/
def handshakeError? (t : Transition) : Option CallError :=
  match t.event, t.before.driver with
  | .driver (.subscribe e), .subscribing client call =>
    match call.step t.before.cancelled client e with
    | some (.finished _ (.error why), _) => some why
    | _ => none
  | _, _ => none

/-- A call comes to the check before an attempt. -/
def checks (t : Transition) : Prop :=
  t.event = .driver (.subscribe .begin) ∨ t.event = .heartbeat (.beat .begin)

end Transition

/-- Every frame that a session sent, oldest first. -/
def sent (stage : Call.Stage) (trace : List Transition) : List Frame :=
  trace.filterMap (Transition.sent? stage)

/-- What a session can send without beginning another attempt. -/
def unsent (stage : Call.Stage) (s : Session) : List Frame :=
  match s.call? with
  | some (_, call) => call.unsent stage
  | none => []

section Sent
variable {stage : Call.Stage} {plan : Plan} {trace : List Transition} {t : Transition} {frame : Frame}
  {s s' : Session} {e : Event} {ms : List Metric}

theorem sent_concat : sent stage (trace ++ [t]) = sent stage trace ++ (t.sent? stage).toList :=
  filterMap_concat ..

theorem sent_cons : sent stage (t :: trace) = (t.sent? stage).toList ++ sent stage trace := by
  cases h : t.sent? stage with
  | none => simp [sent, h]
  | some frame => simp [sent, h]

theorem driver_sent {e : DriverEvent} (hm : DriverMove s e s' ms)
    (hf : Transition.sent? stage ⟨s, .driver e, s', ms⟩ = some frame) :
    ∃ client call client' call' ce, s.driver = .subscribing client call ∧
      s' = { s with driver := .subscribing client' call' } ∧
      Call.Move s.cancelled client call ce (.running client' call') ms ∧
      (Call.Progress.running client' call').frame? stage = some frame := by
  cases hm with
  | calls hd hc => exact ⟨_, _, _, _, _, hd, rfl, Call.step_move hc, hf⟩
  | _ => cases hf

theorem heartbeat_sent {e : HeartbeatEvent} (hm : HeartbeatMove s e s' ms)
    (hf : Transition.sent? stage ⟨s, .heartbeat e, s', ms⟩ = some frame) :
    ∃ client call client' call' ce, s.heartbeat = .beating client call ∧
      s' = { s with heartbeat := .beating client' call' } ∧
      Call.Move s.cancelled client call ce (.running client' call') ms ∧
      (Call.Progress.running client' call').frame? stage = some frame := by
  cases hm with
  | calls hb hc =>
    refine ⟨_, _, _, _, _, hb, rfl, Call.step_move hc, ?_⟩
    cases hd : s.driver <;> simpa [Transition.sent?, hd] using hf
  | _ => cases hd : s.driver <;> simp [Transition.sent?] at hf

/-- What a session sends is the request of its plan that the sending task makes. -/
theorem move_sent (ha : Asking s) (hm : Move s e s' ms)
    (hf : Transition.sent? stage ⟨s, e, s', ms⟩ = some frame) :
    (∃ client call, s.driver = .subscribing client call ∧ frame = s.plan.subscribeRequest.encode) ∨
      ∃ client call, s.heartbeat = .beating client call ∧ frame = s.plan.heartbeatRequest.encode := by
  cases hm with
  | driver hm =>
    obtain ⟨client, call, _, _, _, hd, -, hc, hf⟩ := driver_sent hm hf
    refine .inl ⟨client, call, hd, ?_⟩
    rw [hc.frame_eq hf, ha.subscribing hd]
  | heartbeat hm =>
    obtain ⟨client, call, _, _, _, hb, -, hc, hf⟩ := heartbeat_sent hm hf
    refine .inr ⟨client, call, hb, ?_⟩
    rw [hc.frame_eq hf, ha.beating hb]
  | receiver hm => cases hf
  | consumer hm => cases hf

end Sent

/-! ## The order -/

/-- So many subscribe requests were sent, and then so many heartbeat requests. -/
structure Counted (stage : Call.Stage) (plan : Plan) (trace : List Transition) (s : Session) (n m : Nat) :
    Prop where
  frames : sent stage trace =
    List.replicate n plan.subscribeRequest.encode ++ List.replicate m plan.heartbeatRequest.encode
  beating : 0 < m → s.heartbeat ≠ .absent
  subscribed : s.heartbeat ≠ .absent → 0 < n
  reached : ∀ {client call}, s.driver = .subscribing client call → stage.reached call.phase = true → 0 < n

section Order
variable {stage : Call.Stage} {plan : Plan} {trace : List Transition} {s s' : Session} {e : Event}
  {ms : List Metric} {n m : Nat}

theorem Staged.heartbeat_absent {client : Client} {call : Call} (h : Staged s)
    (hd : s.driver = .subscribing client call) : s.heartbeat = .absent := by
  rw [Staged, hd] at h
  exact h.1

theorem HeartbeatMove.present {e : HeartbeatEvent} (hm : HeartbeatMove s e s' ms) :
    s.heartbeat ≠ .absent ∧ s'.heartbeat ≠ .absent ∧ s'.driver = s.driver := by
  cases hm with
  | begins hb | breaks hb | ticked hb | calls hb | beaten hb | abandoned hb | unbeaten hb | reported hb
  | stopped hb => exact ⟨by simp [hb], by simp, rfl⟩

theorem Counted.quiet (h : Counted stage plan trace s n m)
    (hf : Transition.sent? stage ⟨s, e, s', ms⟩ = none) (hb : s'.heartbeat ≠ .absent ↔ s.heartbeat ≠ .absent)
    (hd : ∀ client call, s'.driver = .subscribing client call → stage.reached call.phase = true → 0 < n) :
    Counted stage plan (trace ++ [⟨s, e, s', ms⟩]) s' n m where
  frames := by
    rw [sent_concat, hf, h.frames]
    exact List.append_nil _
  beating := fun hpos => hb.mpr (h.beating hpos)
  subscribed := fun ha => h.subscribed (hb.mp ha)
  reached := fun hs => hd _ _ hs

/-- The driver's call goes on. No heartbeat was sent yet. -/
theorem Counted.calls {client client' : Client} {call call' : Call} {ce : Call.Event} (hst : Staged s)
    (h : Counted stage plan trace s n m) (hreq : call.request = plan.subscribeRequest)
    (hd : s.driver = .subscribing client call)
    (hc : Call.Move s.cancelled client call ce (.running client' call') ms) :
    ∃ n m, Counted stage plan
      (trace ++ [⟨s, .driver (.subscribe ce), { s with driver := .subscribing client' call' }, ms⟩])
      { s with driver := .subscribing client' call' } n m := by
  have habsent : s.heartbeat = .absent := hst.heartbeat_absent hd
  cases hf : (Call.Progress.running client' call').frame? stage with
  | none =>
    refine ⟨n, m, h.quiet hf Iff.rfl fun _ _ hd' hr => ?_⟩
    cases hd'
    obtain hsome | hr := hc.reached hr
    · cases hf.symm.trans hsome
    · exact h.reached hd hr
  | some frame =>
    have hm : m = 0 := Nat.eq_zero_of_not_pos fun hpos => h.beating hpos habsent
    have hframe : frame = plan.subscribeRequest.encode := by rw [hc.frame_eq hf, hreq]
    have hsent : Transition.sent? stage
        ⟨s, .driver (.subscribe ce), { s with driver := .subscribing client' call' }, ms⟩ = some frame := hf
    refine ⟨n + 1, 0, ?_, nofun, fun ha => absurd habsent ha, fun _ _ => Nat.succ_pos n⟩
    rw [sent_concat, hsent, h.frames, hm, hframe, List.replicate_succ']
    simp

theorem counted_driver {e : DriverEvent} (hst : Staged s) (ha : Asking s) (hp : s.plan = plan)
    (h : Counted stage plan trace s n m) (hm : DriverMove s e s' ms) :
    ∃ n m, Counted stage plan (trace ++ [⟨s, .driver e, s', ms⟩]) s' n m := by
  cases hm with
  | calls hd hc => exact h.calls hst (hp ▸ ha.subscribing hd) hd (Call.step_move hc)
  | settled hd =>
    refine ⟨n, m, h.quiet rfl Iff.rfl fun _ _ hd' hr => ?_⟩
    cases hd'
    cases stage <;> cases hr
  | subscribed hd hc =>
    -- The heartbeat task begins, and the call that was answered had been sent.
    obtain ⟨hphase, -⟩ := (Call.step_move hc).acknowledged
    have hpos : 0 < n := h.reached hd (by cases stage <;> rw [hphase] <;> rfl)
    have habsent : s.heartbeat = .absent := hst.heartbeat_absent hd
    have hm : m = 0 := Nat.eq_zero_of_not_pos fun hbeat => h.beating hbeat habsent
    subst hm
    refine ⟨n, 0, ?_, nofun, fun _ => hpos, fun _ _ => hpos⟩
    rw [sent_concat, h.frames]
    exact List.append_nil _
  | _ => exact ⟨n, m, h.quiet rfl Iff.rfl fun _ _ hd => by cases hd⟩

theorem counted_heartbeat {e : HeartbeatEvent} (ha : Asking s) (hp : s.plan = plan)
    (h : Counted stage plan trace s n m) (hm : HeartbeatMove s e s' ms) :
    ∃ n m, Counted stage plan (trace ++ [⟨s, .heartbeat e, s', ms⟩]) s' n m := by
  obtain ⟨hbefore, hafter, hd⟩ := hm.present
  have hpos : 0 < n := h.subscribed hbefore
  cases hf : Transition.sent? stage ⟨s, .heartbeat e, s', ms⟩ with
  | none => exact ⟨n, m, h.quiet hf ⟨fun _ => hbefore, fun _ => hafter⟩ fun _ _ _ _ => hpos⟩
  | some frame =>
    have hframe : frame = plan.heartbeatRequest.encode := by
      obtain ⟨_, _, _, _, _, hb, -, hc, hf⟩ := heartbeat_sent hm hf
      rw [hc.frame_eq hf, ha.beating hb, hp]
    refine ⟨n, m + 1, ?_, fun _ => hafter, fun _ => hpos, fun _ _ => hpos⟩
    rw [sent_concat, hf, h.frames, hframe, List.replicate_succ' (n := m)]
    simp

theorem counted_move (hst : Staged s) (ha : Asking s) (hp : s.plan = plan)
    (h : Counted stage plan trace s n m) (hm : Move s e s' ms) :
    ∃ n m, Counted stage plan (trace ++ [⟨s, e, s', ms⟩]) s' n m := by
  cases hm with
  | driver hm => exact counted_driver hst ha hp h hm
  | heartbeat hm => exact counted_heartbeat ha hp h hm
  | receiver hm => cases hm <;> exact ⟨n, m, h.quiet rfl Iff.rfl fun _ _ => h.reached⟩
  | consumer hm => cases hm <;> exact ⟨n, m, h.quiet rfl Iff.rfl fun _ _ => h.reached⟩

theorem Run.counted (stage : Call.Stage) (h : Run plan trace s) : ∃ n m, Counted stage plan trace s n m := by
  induction h with
  | none => exact ⟨0, 0, rfl, nofun, fun h => absurd rfl h, nofun⟩
  | step h hs ih =>
    obtain ⟨n, m, hc⟩ := ih
    exact counted_move (Run.staged h) (Run.asking h) (Run.plan_eq h) hc (step_move hs)

end Order

/-! ## What came first -/

def Driver.connected : Driver → Bool
  | .settling | .subscribing _ _ | .following | .joining => true
  | .starting | .connecting _ | .failing _ | .closing | .finished => false

/-- What a task does rests on: the driver's calls on a connection, the tasks after the hand-over on a good
reply. -/
structure Founded (trace : List Transition) (s : Session) : Prop where
  connected : s.driver.connected = true → ∃ u ∈ trace, u.event = .driver .connected
  acknowledged : s.heartbeat ≠ .absent → ∃ u ∈ trace, u.Acknowledged

section Founded
variable {plan : Plan} {trace : List Transition} {s s' : Session} {e : Event} {ms : List Metric}

theorem exists_append {P : Transition → Prop} (t : Transition) (h : ∃ u ∈ trace, P u) :
    ∃ u ∈ trace ++ [t], P u := by
  obtain ⟨u, hu, hp⟩ := h
  exact ⟨u, List.mem_append_left _ hu, hp⟩

theorem exists_last {P : Transition → Prop} {t : Transition} (h : P t) : ∃ u ∈ trace ++ [t], P u :=
  ⟨t, List.mem_append_right _ List.mem_cons_self, h⟩

theorem founded_driver {e : DriverEvent} (h : Founded trace s) (hm : DriverMove s e s' ms) :
    Founded (trace ++ [⟨s, .driver e, s', ms⟩]) s' := by
  have hbefore (hd : s.driver.connected = true) := exists_append ⟨s, .driver e, s', ms⟩ (h.connected hd)
  have hafter (ha : s.heartbeat ≠ .absent) := exists_append ⟨s, .driver e, s', ms⟩ (h.acknowledged ha)
  cases hm with
  | connected => exact ⟨fun _ => exists_last rfl, hafter⟩
  | settled hd | calls hd | followed hd => exact ⟨fun _ => hbefore (by rw [hd]; rfl), hafter⟩
  | subscribed hd hc =>
    obtain ⟨-, frame, rfl, hreply⟩ := (Call.step_move hc).acknowledged
    exact ⟨fun _ => hbefore (by rw [hd]; rfl), fun _ => exists_last ⟨_, _, frame, _, hd, rfl, hreply⟩⟩
  | _ => exact ⟨nofun, hafter⟩

theorem founded_move (h : Founded trace s) (hm : Move s e s' ms) :
    Founded (trace ++ [⟨s, e, s', ms⟩]) s' := by
  cases hm with
  | driver hm => exact founded_driver h hm
  | heartbeat hm =>
    obtain ⟨hbefore, -, hd⟩ := hm.present
    exact ⟨fun hc => exists_append _ (h.connected (hd ▸ hc)), fun _ => exists_append _ (h.acknowledged hbefore)⟩
  | receiver hm =>
    cases hm <;> exact ⟨fun hc => exists_append _ (h.connected hc), fun ha => exists_append _ (h.acknowledged ha)⟩
  | consumer hm =>
    cases hm <;> exact ⟨fun hc => exists_append _ (h.connected hc), fun ha => exists_append _ (h.acknowledged ha)⟩

theorem Run.founded (h : Run plan trace s) : Founded trace s := by
  induction h with
  | none => exact ⟨nofun, fun h => absurd rfl h⟩
  | step h hs ih => exact founded_move ih (step_move hs)

/-- A task that sends has its source, or is there only because the driver has. -/
theorem Founded.of_sent {stage : Call.Stage} (hst : Staged s) (ha : Asking s) (h : Founded trace s)
    (hm : Move s e s' ms) (hf : (Transition.sent? stage ⟨s, e, s', ms⟩).isSome = true) :
    ∃ u ∈ trace, u.event = .driver .connected := by
  obtain ⟨frame, hf⟩ := Option.isSome_iff_exists.mp hf
  apply h.connected
  obtain ⟨client, call, hd, -⟩ | ⟨client, call, hb, -⟩ := move_sent ha hm hf
  · rw [hd]
    rfl
  · obtain hd | ⟨hd, -⟩ := hst.waiting (by simp [hb]) (by simp [hb])
    · rw [hd]
      rfl
    · rw [hd]
      rfl

theorem requests_ne (plan : Plan) : plan.subscribeRequest.encode ≠ plan.heartbeatRequest.encode := by
  intro h
  have hdecoded := congrArg Request.decode h
  rw [Plan.subscribeRequest, Plan.heartbeatRequest, Request.decode_subscribe, Request.decode_heartbeat]
    at hdecoded
  have hcommand : "subscribe" = "heartbeat" := congrArg Request.command (Except.ok.inj hdecoded)
  exact absurd hcommand (by decide)

/-- Heartbeats and broadcasts come only after a good reply. -/
theorem Founded.of_present (stage : Call.Stage) (hst : Staged s) (ha : Asking s) (h : Founded trace s)
    (hm : Move s e s' ms)
    (hw : Transition.sent? stage ⟨s, e, s', ms⟩ = some s.plan.heartbeatRequest.encode ∨
      ∃ re, e = .receiver re) : ∃ u ∈ trace, u.Acknowledged := by
  apply h.acknowledged
  obtain hf | ⟨re, rfl⟩ := hw
  · obtain ⟨_, _, -, heq⟩ | ⟨_, _, hb, -⟩ := move_sent ha hm hf
    · exact absurd heq.symm (requests_ne s.plan)
    · simp [hb]
  · cases hm with
    | receiver hm =>
      have hd : s.driver = .following := hst.following hm.running
      rw [Staged, hd] at hst
      exact hst.1

end Founded

/-! ## The end -/

/-- The driver is about to end, or has ended. -/
def Driver.leaving : Driver → Bool
  | .failing _ | .closing | .finished => true
  | .starting | .connecting _ | .settling | .subscribing _ _ | .following | .joining => false

section Mute
variable {stage : Call.Stage} {trace : List Transition} {s s' : Session} {e : Event} {ms : List Metric}

/-- Nothing is sent once the driver is about to end: the heartbeat task ends before it. -/
theorem leaving_move (stage : Call.Stage) (hst : Staged s) (h : s.driver.leaving = true) (hm : Move s e s' ms) :
    s'.driver.leaving = true ∧ Transition.sent? stage ⟨s, e, s', ms⟩ = none := by
  cases hm with
  | driver hm =>
    cases hm with
    | tells | keepsBack | closed | joined | stopped => exact ⟨rfl, rfl⟩
    | opens hd | portless hd | connected hd | unconnected hd | overdue hd | settled hd | calls hd
    | subscribed hd | abandoned hd | unsubscribed hd | followed hd =>
      rw [hd] at h
      cases h
  | heartbeat hm =>
    -- The heartbeat task has not ended, so that the driver waits for it.
    have hfollows : s.driver = .following ∨ s.driver = .joining ∧ s.receiver = .finished := by
      apply hst.waiting hm.present.1
      intro hf
      cases hm with
      | begins hb | breaks hb | ticked hb | calls hb | beaten hb | abandoned hb | unbeaten hb
      | reported hb | stopped hb => cases hf.symm.trans hb
    obtain hd | ⟨hd, -⟩ := hfollows
    · rw [hd] at h
      cases h
    · rw [hd] at h
      cases h
  | receiver hm => cases hm <;> exact ⟨h, rfl⟩
  | consumer hm => cases hm <;> exact ⟨h, rfl⟩

theorem sent_of_leaving (hst : Staged s) (h : s.driver.leaving = true) (hs : Steps s trace s') :
    sent stage trace = [] := by
  have hall : Staged s' ∧ s'.driver.leaving = true ∧ sent stage trace = [] := by
    induction hs with
    | none => exact ⟨hst, h, rfl⟩
    | step _ hs ih =>
      obtain ⟨hst', h', hnone⟩ := ih
      obtain ⟨hnext, hf⟩ := leaving_move stage hst' h' (step_move hs)
      refine ⟨staged_move hst' (step_move hs), hnext, ?_⟩
      rw [sent_concat, hnone, hf]
      rfl
  exact hall.2.2

theorem leaving_of_handshake (stage : Call.Stage) {why : CallError} (hm : Move s e s' ms)
    (hw : Transition.handshakeError? ⟨s, e, s', ms⟩ = some why) :
    s'.driver.leaving = true ∧ Transition.sent? stage ⟨s, e, s', ms⟩ = none := by
  cases hm with
  | driver hm =>
    cases hm with
    | abandoned | unsubscribed => exact ⟨rfl, rfl⟩
    | calls hd hc | subscribed hd hc => simp [Transition.handshakeError?, hd, hc] at hw
    | _ => cases hw
  | heartbeat | receiver | consumer => cases hw

end Mute

/-! ## After the signal -/

section Signal
variable {stage : Call.Stage} {trace : List Transition} {s s' : Session} {e : Event} {ms : List Metric}

theorem unsent_subscribing {client : Client} {call : Call} (hd : s.driver = .subscribing client call) :
    s.unsent stage = call.unsent stage := by
  simp only [Session.unsent, call?, hd]

theorem unsent_beating {client : Client} {call : Call} (hst : Staged s)
    (hb : s.heartbeat = .beating client call) : s.unsent stage = call.unsent stage := by
  obtain hd | ⟨hd, -⟩ := hst.waiting (by simp [hb]) (by simp [hb])
  · simp only [Session.unsent, call?, hd, hb]
  · simp only [Session.unsent, call?, hd, hb]

/-- A session that makes no call sends nothing before it makes one. -/
theorem unsent_none (hd : ∀ client call, s.driver ≠ .subscribing client call)
    (hb : ∀ client call, s.heartbeat ≠ .beating client call) : s.unsent stage = [] := by
  cases hcall : s.call? with
  | none => simp only [Session.unsent, hcall]
  | some made =>
    unfold call? at hcall
    split at hcall
    · next hd' => exact absurd hd' (hd _ _)
    · next hb' _ => exact absurd hb' (hb _ _)
    · cases hcall

/-- Before the hand-over and at its end a session has no call but the driver's. -/
theorem Staged.not_beating (hst : Staged s) (hf : s.driver ≠ .following) (hj : s.driver ≠ .joining)
    (client : Client) (call : Call) : s.heartbeat ≠ .beating client call := by
  intro hb
  obtain hd | ⟨hd, -⟩ := hst.waiting (by simp [hb]) (by simp [hb])
  · exact hf hd
  · exact hj hd

theorem unsent_driver {e : DriverEvent} (hst : Staged s) (hc : s.cancelled = true)
    (hm : DriverMove s e s' ms) :
    ((Transition.sent? stage ⟨s, .driver e, s', ms⟩).toList ++ s'.unsent stage).Sublist
      (s.unsent stage) := by
  have hst' : Staged s' := staged_driver hst hm
  cases hm with
  | calls hd hs =>
    rw [hc] at hs
    rw [unsent_subscribing hd, unsent_subscribing rfl]
    exact (Call.step_move hs).unsent
  | settled hd => cases stage <;> exact List.nil_sublist _
  | @subscribed _ client' =>
    have hnone : (s.handOver client').unsent stage = [] :=
      unsent_none (fun _ _ hd => by cases hd) fun _ _ hb => by cases hb
    rw [hnone]
    exact List.nil_sublist _
  | followed hd => cases hb : s.heartbeat <;> simp [Transition.sent?, Session.unsent, call?, hd, hb]
  | _ =>
    rw [unsent_none (fun _ _ hd => by cases hd) (hst'.not_beating (by simp) (by simp))]
    exact List.nil_sublist _

theorem unsent_heartbeat {e : HeartbeatEvent} (hst : Staged s) (hc : s.cancelled = true)
    (hm : HeartbeatMove s e s' ms) :
    ((Transition.sent? stage ⟨s, .heartbeat e, s', ms⟩).toList ++ s'.unsent stage).Sublist
      (s.unsent stage) := by
  have hst' : Staged s' := staged_heartbeat hst hm
  have hidle (hb : ∀ client call, s'.heartbeat ≠ .beating client call) : s'.unsent stage = [] := by
    refine unsent_none (fun client call hd => ?_) hb
    exact hm.present.2.1 (hst'.heartbeat_absent hd)
  cases hm with
  | calls hb hs =>
    rw [hc] at hs
    rw [unsent_beating hst hb, unsent_beating hst' rfl]
    simp only [Transition.sent?]
    exact (Call.step_move hs).unsent
  | ticked hb hn => cases hc.symm.trans hn
  | begins | breaks | beaten | abandoned | unbeaten | reported | stopped =>
    rw [hidle fun _ _ hb => by cases hb]
    simp [Transition.sent?]

theorem unsent_move (hst : Staged s) (hc : s.cancelled = true) (hm : Move s e s' ms) :
    ((Transition.sent? stage ⟨s, e, s', ms⟩).toList ++ s'.unsent stage).Sublist (s.unsent stage) := by
  cases hm with
  | driver hm => exact unsent_driver hst hc hm
  | heartbeat hm => exact unsent_heartbeat hst hc hm
  | receiver hm => cases hm <;> exact List.Sublist.refl _
  | consumer hm => cases hm <;> exact List.Sublist.refl _

theorem sent_after_signal (hst : Staged s) (hc : s.cancelled = true) (hs : Steps s trace s') :
    (sent stage trace).Sublist (s.unsent stage) := by
  -- What was sent since the signal, with what is yet to be sent, is part of what was to be sent then.
  have hall : Staged s' ∧ s'.cancelled = true ∧
      (sent stage trace ++ s'.unsent stage).Sublist (s.unsent stage) := by
    induction hs with
    | none => exact ⟨hst, hc, List.Sublist.refl _⟩
    | step _ hs ih =>
      obtain ⟨hst', hc', hsub⟩ := ih
      have hm := step_move hs
      refine ⟨staged_move hst' hm, cancelled_mono hm hc', ?_⟩
      rw [sent_concat, List.append_assoc]
      exact ((unsent_move hst' hc' hm).append_left _).trans hsub
  exact (List.sublist_append_left _ _).trans hall.2.2

theorem length_unsent : (s.unsent stage).length ≤ 1 := by
  unfold Session.unsent
  split
  · exact Call.length_unsent
  · exact Nat.zero_le 1

theorem mem_unsent {frame : Frame} (h : frame ∈ s.unsent stage) :
    ∃ client call, s.call? = some (client, call) ∧ (call.phase = .dialing ∨ call.phase = .sending) ∧
      frame = call.request.encode := by
  unfold Session.unsent at h
  split at h
  · next client call hcall => exact ⟨client, call, hcall, Call.mem_unsent h⟩
  · cases h

/-- A session whose call comes to the check before an attempt has nothing to send without it. -/
theorem unsent_of_checks (hst : Staged s) (hm : Move s e s' ms)
    (hk : Transition.checks ⟨s, e, s', ms⟩) : s.unsent stage = [] := by
  obtain rfl | rfl := hk
  · cases hm with
    | driver hm =>
      cases hm with
      | calls hd hs | subscribed hd hs | abandoned hd hs | unsubscribed hd _ hs =>
        rw [unsent_subscribing hd, Call.unsent_of_checking (Call.step_move hs).checking]
  · cases hm with
    | heartbeat hm =>
      cases hm with
      | calls hb hs | beaten hb hs | abandoned hb hs | unbeaten hb _ hs =>
        rw [unsent_beating hst hb, Call.unsent_of_checking (Call.step_move hs).checking]

end Signal

/-! ## The whole life of a session -/

/-- Whether a frame counts as sent when it is given to a socket or when the socket has taken it: a session
sends its subscribe request some number of times and then its heartbeat request some number of times. Each
frame comes after the source was connected, heartbeats and whatever the receiver does after a good reply to
the subscribe request. Nothing is sent after a handshake that failed, and after the signal at most the frame
of the attempt under way, and none if a call is only at the check before an attempt. -/
theorem subscribes_then_beats (stage : Call.Stage) {plan : Plan} {trace : List Transition} {s : Session}
    (h : Run plan trace s) :
    (∃ n m, sent stage trace = List.replicate n plan.subscribeRequest.encode ++
        List.replicate m plan.heartbeatRequest.encode ∧ (0 < m → 0 < n)) ∧
      Request.decode plan.subscribeRequest.encode = .ok (.subscribe plan.address plan.filter) ∧
      Request.decode plan.heartbeatRequest.encode = .ok (.heartbeat plan.address) ∧
      ∀ earlier t later, trace = earlier ++ t :: later →
        ((t.sent? stage).isSome = true → ∃ u ∈ earlier, u.event = .driver .connected) ∧
        (t.sent? stage = some plan.heartbeatRequest.encode ∨ (∃ e, t.event = .receiver e) →
          ∃ u ∈ earlier, u.Acknowledged) ∧
        (∀ why, t.handshakeError? = some why → sent stage (t :: later) = []) ∧
        (t.before.cancelled = true →
          (t.checks → sent stage (t :: later) = []) ∧ (sent stage (t :: later)).length ≤ 1 ∧
          ∀ frame ∈ sent stage (t :: later), ∃ client call, t.before.call? = some (client, call) ∧
            (call.phase = .dialing ∨ call.phase = .sending) ∧ frame = call.request.encode) := by
  obtain ⟨n, m, hcounted⟩ := h.counted stage
  refine ⟨⟨n, m, hcounted.frames, fun hpos => hcounted.subscribed (hcounted.beating hpos)⟩,
    Request.decode_subscribe .., Request.decode_heartbeat .., ?_⟩
  rintro earlier t later rfl
  obtain ⟨hbefore, hs, hafter⟩ := h.split
  have hrun : Run plan earlier t.before := hbefore
  have hm := step_move hs
  refine ⟨hrun.founded.of_sent hrun.staged hrun.asking hm, ?_, fun why hw => ?_, fun hc => ?_⟩
  · have hpresent := hrun.founded.of_present stage hrun.staged hrun.asking hm
    rwa [hrun.plan_eq] at hpresent
  · obtain ⟨hleaving, hnone⟩ := leaving_of_handshake stage hm hw
    rw [sent_cons, sent_of_leaving (staged_move hrun.staged hm) hleaving hafter]
    rw [show t.sent? stage = none from hnone]
    rfl
  · have hlater : Steps t.before (t :: later) s := (Steps.none.step hs).trans hafter
    have hsub : (sent stage (t :: later)).Sublist (t.before.unsent stage) :=
      sent_after_signal hrun.staged hc hlater
    refine ⟨fun hk => ?_, Nat.le_trans hsub.length_le length_unsent, fun frame hf => mem_unsent (hsub.subset hf)⟩
    rw [unsent_of_checks hrun.staged hm hk] at hsub
    exact List.sublist_nil.mp hsub

/-- A session of a subscriber that never gives up. -/
def tireless : Plan where
  endpoint := ⟨"indexer", "memory", 4000, some 4001, none⟩
  address := "sub-2"
  transport := .default
  timing := .default
  filter := .empty

/-- The first request is not answered in time, the first beat fails, and the consumer cancels while a socket
is opened for the next one. -/
def lastBeat : List Event :=
  [.driver .started, .driver .connected, .driver .settled, .driver (.subscribe .begin),
    .driver (.subscribe (.dialed 0)), .driver (.subscribe .sent), .driver (.subscribe .expired),
    .driver (.subscribe .begin), .driver (.subscribe (.dialed 1)), .driver (.subscribe .sent),
    .driver (.subscribe (.received (Reply.ok .empty).encode)), .heartbeat (.started ⟨0⟩),
    .heartbeat .ticked, .heartbeat (.beat .begin), .heartbeat (.beat .sent),
    .heartbeat (.beat (.receiveFailed .closed)), .heartbeat (.beat .begin), .consumer .cancelled,
    .heartbeat (.beat (.dialed 2)), .heartbeat (.beat .cancelled), .receiver .stopped, .driver .followed, .driver .joined]

theorem subscribes_then_beats_interrupted :
    ∃ earlier t later s, Run tireless (earlier ++ t :: later) s ∧ s.done = true ∧
      t.before.cancelled = true ∧ t.sent? .given = some tireless.heartbeatRequest.encode ∧
      (∃ u ∈ earlier, u.event = .driver .connected) ∧ (∃ u ∈ earlier, u.Acknowledged) ∧
      (sent .given (t :: later)).length ≤ 1 ∧
      ∃ n m, sent .given (earlier ++ t :: later) = List.replicate n tireless.subscribeRequest.encode ++
        List.replicate m tireless.heartbeatRequest.encode ∧ n + m = 4 ∧ 0 < n := by
  have hread : (follow Session.step (.start tireless) lastBeat).map
      (fun r => ((sent .given (r.1.map Transition.of)).length,
        (r.1.map Transition.of).any fun t =>
          t.before.cancelled && t.sent? .given = some tireless.heartbeatRequest.encode, r.2.done)) =
      some (4, true, true) := by
    decide +kernel
  obtain ⟨history, s, hrun, -, hread⟩ := Occurs.of_reading hread
  obtain ⟨hlength, hread⟩ := Prod.mk.inj hread
  obtain ⟨hany, hdone⟩ := Prod.mk.inj hread
  obtain ⟨t, hmem, ht⟩ := List.any_eq_true.mp hany
  obtain ⟨hcancelled, hsent⟩ := Bool.and_eq_true_iff.mp ht
  have hsent : t.sent? .given = some tireless.heartbeatRequest.encode := of_decide_eq_true hsent
  obtain ⟨earlier, later, htrace⟩ := List.append_of_mem hmem
  have hrun : Run tireless (earlier ++ t :: later) s := htrace ▸ Steps.of_history hrun
  rw [htrace] at hlength
  obtain ⟨⟨n, m, hframes, hpos⟩, -, -, hwhen⟩ := subscribes_then_beats .given hrun
  obtain ⟨hconnected, hacknowledged, -, hafter⟩ := hwhen earlier t later rfl
  have hcount : n + m = 4 := by simpa [hframes] using hlength
  refine ⟨earlier, t, later, s, hrun, hdone, hcancelled, hsent, hconnected (by rw [hsent]; rfl),
    hacknowledged (.inl hsent), (hafter hcancelled).2.1, n, m, hframes, hcount, ?_⟩
  rcases Nat.eq_zero_or_pos m with rfl | hm
  · omega
  · exact hpos hm

end Session
end MessageBus
