import MessageBus.Proofs.Session.Requests
/-!
# One failure, then the end

What a session hands to its consumer is good broadcasts and then at most one failing one, and a consumer
that neither cancels nor leaves sees the end right after a failing one, unless the beats cannot be timed.
`mayHand` says whether a task may still hand anything over; as long as it does, all that was enqueued is
good, and it never comes back.
-/
namespace MessageBus.Session
set_option autoImplicit false
open Telemetry (Metric)

/-! ## Failing broadcasts -/

theorem Plan.failure_isOk (p : Plan) (f : Failure) : (p.failure f).isOk = false := rfl

/-- Good broadcasts, and then at most one failing one. -/
def OneFailure (bs : List Broadcast) : Prop :=
  ∃ good : List Broadcast, (∀ b ∈ good, b.isOk = true) ∧
    (bs = good ∨ ∃ b, b.isOk = false ∧ bs = good ++ [b])

/-- Good broadcasts, and then one failing one. -/
def FailsLast (bs : List Broadcast) : Prop :=
  ∃ good b, (∀ a ∈ good, a.isOk = true) ∧ b.isOk = false ∧ bs = good ++ [b]

theorem oneFailure_append {bs : List Broadcast} (h : ∀ b ∈ bs, b.isOk = true) (b : Broadcast) :
    OneFailure (bs ++ [b]) := by
  cases hb : b.isOk with
  | true =>
    refine ⟨bs ++ [b], fun a ha => ?_, .inl rfl⟩
    rcases List.mem_append.mp ha with ha | ha
    · exact h a ha
    · rw [List.mem_singleton.mp ha, hb]
  | false => exact ⟨bs, h, .inr ⟨b, hb, rfl⟩⟩

/-- What comes first of good broadcasts and at most one failing one is of that kind, too. -/
theorem OneFailure.of_front {front bs : List Broadcast} (h : OneFailure bs) (hp : front <+: bs) :
    OneFailure front := by
  obtain ⟨good, hgood, rfl | ⟨b, hb, rfl⟩⟩ := h
  · exact ⟨front, fun a ha => hgood a (hp.subset ha), .inl rfl⟩
  · rcases List.prefix_concat_iff.mp hp with rfl | hp
    · exact ⟨good, hgood, .inr ⟨b, hb, by simp⟩⟩
    · exact ⟨front, fun a ha => hgood a (hp.subset ha), .inl rfl⟩

theorem OneFailure.failsLast {bs : List Broadcast} (h : OneFailure bs)
    (hf : ∃ b ∈ bs, b.isOk = false) : FailsLast bs := by
  obtain ⟨good, hgood, rfl | ⟨b, hb, rfl⟩⟩ := h
  · obtain ⟨b, hmem, hb⟩ := hf
    rw [hgood b hmem] at hb
    cases hb
  · exact ⟨good, b, hgood, hb, rfl⟩

/-! ## Handing over -/

/-- Whether a task may still hand a broadcast to the consumer. -/
def mayHand (s : Session) : Bool :=
  match s.driver with
  | .starting | .connecting _ | .settling | .subscribing _ _ | .failing _ => true
  | .following => s.receiver.running
  | .closing | .joining | .finished => false

section Handing
variable {s s' : Session} {e : Event} {ms : List Metric}

theorem mayHand_of_running (hst : Staged s) (hr : s.receiver.running = true) : s.mayHand = true := by
  simp only [mayHand, hst.following hr, hr]

/-- A task that has stopped handing over does not begin again. -/
theorem mayHand_mono (hst : Staged s) (hm : Move s e s' ms) (h : s'.mayHand = true) :
    s.mayHand = true := by
  cases hm with
  | driver hm =>
    cases hm with
    | closed _ | followed _ _ | joined _ _ | tells _ _ _ | keepsBack _ _ | abandoned _ _ | stopped _ _ =>
      cases h
    | opens hd | portless hd | connected hd | unconnected hd | overdue hd | settled hd | calls hd
    | subscribed hd | unsubscribed hd => simp only [mayHand, hd]
  | heartbeat hm => cases hm <;> exact h
  | receiver hm => exact mayHand_of_running hst hm.running
  | consumer hm => cases hm <;> exact h

/-- A broadcast is enqueued by a task that has it in hand, and a failing one is that task's last. -/
theorem move_enqueues {b : Broadcast} (hst : Staged s) (hm : Move s e s' ms)
    (he : Transition.enqueued? ⟨s, e, s', ms⟩ = some b) :
    s.mayHand = true ∧ (s'.mayHand = true → b.isOk = true) ∧
      (s.driver = .failing b ∨ ∃ remote, s.receiver = .forwarding b remote) := by
  cases hm with
  | driver hm =>
    cases hm with
    | tells hd _ _ =>
      simp only [Transition.enqueued?, hd, Option.some.injEq] at he
      subst he
      exact ⟨by simp only [mayHand, hd], (by intro h; cases h), .inl hd⟩
    | keepsBack _ hg => cases hg <;> cases he
    | _ => cases he
  | heartbeat hm => cases he
  | receiver hm =>
    have hmay := mayHand_of_running hst hm.running
    have hd := hst.following hm.running
    cases hm with
    | passes hr _ _ hb =>
      simp only [Transition.enqueued?, hr, Option.some.injEq] at he
      subst he
      exact ⟨hmay, fun _ => hb, .inr ⟨_, hr⟩⟩
    | tells hr _ _ hb =>
      simp only [Transition.enqueued?, hr, Option.some.injEq] at he
      subst he
      exact ⟨hmay, fun h => by simp [mayHand, hd, Receiver.running] at h, .inr ⟨_, hr⟩⟩
    | keepsBack _ hg => cases hg <;> cases he
    | _ => cases he
  | consumer hm => cases he

end Handing

/-- Where a broadcast comes from: the session made it, or the source gave it. -/
def Sourced (plan : Plan) (trace : List Transition) (b : Broadcast) : Prop :=
  (∃ f, b = plan.failure f) ∨ b ∈ heardFrom trace

/-- What holds of the broadcasts that were enqueued or are in the hands of a task. -/
structure Handing (plan : Plan) (trace : List Transition) (s : Session) : Prop where
  good : s.mayHand = true → ∀ b ∈ enqueued trace, b.isOk = true
  once : OneFailure (enqueued trace)
  failing : ∀ b, s.driver = .failing b → ∃ f, b = plan.failure f
  forwarding : ∀ b remote, s.receiver = .forwarding b remote → Sourced plan trace b
  sourced : ∀ b ∈ enqueued trace, Sourced plan trace b

theorem Sourced.append {plan : Plan} {trace : List Transition} {b : Broadcast} {t : Transition}
    (h : Sourced plan trace b) : Sourced plan (trace ++ [t]) b :=
  h.imp_right mem_heardFrom_append

section Runs
variable {plan : Plan} {trace : List Transition} {s s' : Session} {e : Event} {ms : List Metric}

/-- A broadcast that the driver has in hand was made by the session. -/
theorem failing_move (hp : s.plan = plan) (hm : Move s e s' ms)
    (h : ∀ b, s.driver = .failing b → ∃ f, b = plan.failure f) :
    ∀ b, s'.driver = .failing b → ∃ f, b = plan.failure f := by
  intro b hb
  subst hp
  cases hm with
  | driver hm =>
    cases hm with
    | portless | unconnected | overdue | unsubscribed => exact ⟨_, (Driver.failing.inj hb).symm⟩
    | _ => cases hb
  | heartbeat hm => cases hm <;> exact h b hb
  | receiver hm => cases hm <;> exact h b hb
  | consumer hm => cases hm <;> exact h b hb

/-- A broadcast that the receiver has in hand was made by the session or given by the source. -/
theorem forwarding_move (hp : s.plan = plan) (hm : Move s e s' ms)
    (h : ∀ b remote, s.receiver = .forwarding b remote → Sourced plan trace b) :
    ∀ b remote, s'.receiver = .forwarding b remote → Sourced plan (trace ++ [⟨s, e, s', ms⟩]) b := by
  intro b remote hb
  subst hp
  cases hm with
  | driver hm => cases hm <;> first | exact (h b remote hb).append | cases hb
  | heartbeat hm => cases hm <;> exact (h b remote hb).append
  | receiver hm =>
    cases hm with
    | broken | malformed | alerted => exact .inl ⟨_, (Receiver.forwarding.inj hb).1.symm⟩
    | heard _ hd =>
      obtain ⟨rfl, -⟩ := Receiver.forwarding.inj hb
      exact .inr (mem_heardFrom_last (by simp [Transition.heard?, hd, Except.toOption]))
    | _ => cases hb
  | consumer hm => cases hm <;> exact (h b remote hb).append

theorem Handing.next (h : Handing plan trace s) (hp : s.plan = plan) (hst : Staged s)
    (hm : Move s e s' ms) : Handing plan (trace ++ [⟨s, e, s', ms⟩]) s' := by
  have hf := failing_move hp hm h.failing
  have hr := forwarding_move hp hm h.forwarding
  cases he : Transition.enqueued? ⟨s, e, s', ms⟩ with
  | none =>
    have hsame : enqueued (trace ++ [_]) = enqueued trace := enqueued_none he
    exact ⟨fun hmay => hsame ▸ h.good (mayHand_mono hst hm hmay), hsame ▸ h.once, hf, hr,
      fun b hb => (h.sourced b (hsame ▸ hb)).append⟩
  | some b =>
    have hone : enqueued (trace ++ [_]) = enqueued trace ++ [b] := enqueued_some he
    obtain ⟨hmay, hgood, hhand⟩ := move_enqueues hst hm he
    refine ⟨fun hmay' a ha => ?_, hone ▸ oneFailure_append (h.good hmay) b, hf, hr, fun a ha => ?_⟩
    · rcases List.mem_append.mp (hone ▸ ha) with ha | ha
      · exact h.good hmay a ha
      · rw [List.mem_singleton.mp ha, hgood hmay']
    · rcases List.mem_append.mp (hone ▸ ha) with ha | ha
      · exact (h.sourced a ha).append
      · rw [List.mem_singleton.mp ha]
        obtain hd | ⟨remote, hd⟩ := hhand
        · exact .inl (h.failing b hd)
        · exact (h.forwarding b remote hd).append

theorem Run.handing (h : Run plan trace s) : Handing plan trace s := by
  induction h with
  | none =>
    refine ⟨fun _ => ?_, ⟨[], ?_, .inl rfl⟩, ?_, ?_, ?_⟩
    · intro b hb
      cases hb
    · intro b hb
      cases hb
    · intro b hb
      cases hb
    · intro b remote hb
      cases hb
    · intro b hb
      cases hb
  | step h hs ih => exact ih.next (Run.plan_eq h) (Run.staged h) (step_move hs)

end Runs

/-! ## Without a canceller -/

/-- A call ends as cancelled only if its canceller has given its signal. -/
theorem call_fired {fired : Bool} {client client' : Client} {call : Call} {e : Call.Event}
    {service command : String} {ms : List Metric}
    (h : call.step fired client e = some (.finished client' (.error (.cancelled service command)), ms)) :
    fired = true := by
  unfold Call.step at h
  -- Beginning, an answer and the signal in four phases remain.
  split at h <;> try cases h
  · unfold Call.begun at h
    split at h
    · cases h
    · simp only at h
      split at h
      · assumption
      · split at h <;> cases h
  · unfold Call.answered at h
    split at h
    · cases h
    · split at h <;> cases h
  all_goals
    split at h
    · assumption
    · cases h

/-- Whether a receiver may listen again. -/
def Receiver.goesOn : Receiver → Bool
  | .listening => true
  | .forwarding b _ => b.isOk
  | .absent | .finished => false

/-- What holds as long as the consumer neither cancels nor leaves: the session is cancelled only when it
hands nothing over any more, and the receiver does not lose the heartbeat task without a word. -/
structure Undisturbed (trace : List Transition) (s : Session) : Prop where
  uncancelled : s.mayHand = true → s.cancelled = false
  alerted : s.heartbeat = .finished → s.receiver.goesOn = true → s.control.isSome = true
  told : s.mayHand = false → ∃ b ∈ enqueued trace, b.isOk = false

section Untouched
variable {trace : List Transition} {s s' : Session} {e : Event} {ms : List Metric}

theorem Receiver.running_of_goesOn {r : Receiver} (h : r.goesOn = true) : r.running = true := by
  cases r <;> first | rfl | cases h

theorem mayHand_of_goesOn (hst : Staged s) (h : s.receiver.goesOn = true) : s.mayHand = true :=
  mayHand_of_running hst (Receiver.running_of_goesOn h)

theorem move_attached (hm : Move s e s' ms) (he : e ≠ .consumer .detached) :
    s'.attached = s.attached := by
  cases hm with
  | driver hm => cases hm <;> rfl
  | heartbeat hm => cases hm <;> rfl
  | receiver hm => cases hm <;> rfl
  | consumer hm =>
    cases hm with
    | detached => exact absurd rfl he
    | _ => rfl

theorem move_cancelled (hm : Move s e s' ms) (he : e ≠ .consumer .cancelled)
    (h : s'.mayHand = true) : s'.cancelled = s.cancelled := by
  cases hm with
  | driver hm =>
    cases hm with
    | closed | followed => cases h
    | _ => rfl
  | heartbeat hm => cases hm <;> rfl
  | receiver hm => cases hm <;> rfl
  | consumer hm =>
    cases hm with
    | cancelled => exact absurd rfl he
    | _ => rfl

theorem move_alerted (hst : Staged s) (hu : Undisturbed trace s) (hm : Move s e s' ms)
    (ht : ∀ clock, e = .heartbeat (.started clock) → s.plan.beatsFrom clock = true)
    (hb : s'.heartbeat = .finished) (hr : s'.receiver.goesOn = true) : s'.control.isSome = true := by
  cases hm with
  | driver hm =>
    cases hm with
    | subscribed => cases hb
    | _ => exact hu.alerted hb hr
  | heartbeat hm =>
    cases hm with
    | begins | ticked | calls | beaten | unbeaten => cases hb
    | breaks _ hfalse =>
      rw [ht _ rfl] at hfalse
      cases hfalse
    | abandoned _ hc =>
      have hfalse := hu.uncancelled (mayHand_of_goesOn hst hr)
      rw [call_fired hc] at hfalse
      cases hfalse
    | stopped _ hc =>
      have hfalse := hu.uncancelled (mayHand_of_goesOn hst hr)
      rw [hc] at hfalse
      cases hfalse
    | reported hrep =>
      have hrun : s.receiver.running = true := Receiver.running_of_goesOn hr
      simp [hrun]
  | receiver hm =>
    cases hm with
    | broken | malformed | alerted | deserted | tells | keepsBack | stopped => cases hr
    | heard hl => exact hu.alerted hb (by rw [hl]; rfl)
    | passes hl _ _ hok => exact hu.alerted hb (by rw [hl]; exact hok)
  | consumer hm => cases hm <;> exact hu.alerted hb hr

/-- Without a canceller, and with a consumer, a broadcast is handed over. -/
theorem not_givenUp (ha : s.attached = true) (hc : s.cancelled = false) (way : Handover) :
    ¬GivenUp s way := by
  rintro (h | h)
  · rw [ha] at h
    cases h
  · rw [hc] at h
    cases h

theorem driver_tells {e : DriverEvent} (ha : s.attached = true) (hc : s.cancelled = false)
    (hf : ∀ b, s.driver = .failing b → b.isOk = false) (hm : DriverMove s e s' ms)
    (h : s.mayHand = true) (h' : s'.mayHand = false) :
    ∃ b, Transition.enqueued? ⟨s, .driver e, s', ms⟩ = some b ∧ b.isOk = false := by
  cases hm with
  | opens | portless | connected | unconnected | overdue | settled | calls | subscribed
  | unsubscribed => cases h'
  | tells hd => exact ⟨_, by simp only [Transition.enqueued?, hd], hf _ hd⟩
  | abandoned _ hcall =>
    rw [call_fired hcall] at hc
    cases hc
  | keepsBack _ hg => exact absurd hg (not_givenUp ha hc _)
  | stopped _ hs =>
    rw [hs] at hc
    cases hc
  | closed hd | joined hd => simp [mayHand, hd] at h
  | followed hd hr => simp [mayHand, hd, hr, Receiver.running] at h

theorem receiver_tells {e : ReceiverEvent} (hst : Staged s) (ha : s.attached = true)
    (hc : s.cancelled = false)
    (hq : s.heartbeat = .finished → s.receiver.goesOn = true → s.control.isSome = true)
    (hm : ReceiverMove s e s' ms) (h' : s'.mayHand = false) :
    ∃ b, Transition.enqueued? ⟨s, .receiver e, s', ms⟩ = some b ∧ b.isOk = false := by
  have hd := hst.following hm.running
  cases hm with
  | broken | malformed | heard | alerted | passes => simp [mayHand, hd, Receiver.running] at h'
  | deserted hr hnone hb =>
    have hsome := hq hb (by rw [hr]; rfl)
    rw [hnone] at hsome
    cases hsome
  | tells hr _ _ hb => exact ⟨_, by simp only [Transition.enqueued?, hr], hb⟩
  | keepsBack _ hg => exact absurd hg (not_givenUp ha hc _)
  | stopped _ hs =>
    rw [hs] at hc
    cases hc

/-- Handing over ends with a failing broadcast. -/
theorem move_tells (hst : Staged s) (ha : s.attached = true)
    (hf : ∀ b, s.driver = .failing b → b.isOk = false) (hu : Undisturbed trace s) (hm : Move s e s' ms)
    (h : s.mayHand = true) (h' : s'.mayHand = false) :
    ∃ b, Transition.enqueued? ⟨s, e, s', ms⟩ = some b ∧ b.isOk = false := by
  have hc := hu.uncancelled h
  have hkept (hd : s'.driver = s.driver) (hr : s'.receiver = s.receiver) : False := by
    rw [mayHand, hd, hr] at h'
    exact absurd (h.symm.trans h') (by decide)
  cases hm with
  | driver hm => exact driver_tells ha hc hf hm h h'
  | receiver hm => exact receiver_tells hst ha hc hu.alerted hm h'
  | heartbeat hm => cases hm <;> exact (hkept rfl rfl).elim
  | consumer hm => cases hm <;> exact (hkept rfl rfl).elim

theorem Undisturbed.next (hst : Staged s) (ha : s.attached = true)
    (hf : ∀ b, s.driver = .failing b → b.isOk = false) (hu : Undisturbed trace s)
    (he : e ≠ .consumer .cancelled)
    (ht : ∀ clock, e = .heartbeat (.started clock) → s.plan.beatsFrom clock = true) (hm : Move s e s' ms) :
    Undisturbed (trace ++ [⟨s, e, s', ms⟩]) s' where
  uncancelled := fun h => (move_cancelled hm he h).trans (hu.uncancelled (mayHand_mono hst hm h))
  alerted := move_alerted hst hu hm ht
  told := by
    intro h'
    cases h : s.mayHand with
    | true =>
      obtain ⟨b, hb, hbad⟩ := move_tells hst ha hf hu hm h h'
      exact ⟨b, by rw [enqueued_some hb]; simp, hbad⟩
    | false =>
      obtain ⟨b, hb, hbad⟩ := hu.told h
      rw [enqueued, List.filterMap_append]
      exact ⟨b, List.mem_append_left _ hb, hbad⟩

end Untouched

theorem heartbeatInterval_pos {c : SubscriberConfig} (h : c.validate = .ok ()) :
    c.heartbeatInterval.isZero = false := by
  unfold SubscriberConfig.validate at h
  split at h
  · cases h
  · next hz => simpa using hz

/-- The heartbeat task was started so late that its first beat is not due before the clock's end. -/
def Overrun (plan : Plan) (trace : List Transition) : Prop :=
  ∃ t ∈ trace, ∃ clock, t.event = .heartbeat (.started clock) ∧
    Plan.clockEnd.nanos ≤ clock.nanos + plan.timing.heartbeatInterval.nanos

theorem beatsFrom_of_not_overrun {plan : Plan} {trace : List Transition} {t : Transition} {clock : Duration}
    (hv : plan.timing.validate = .ok ()) (ho : ¬Overrun plan trace) (hmem : t ∈ trace)
    (ht : t.event = .heartbeat (.started clock)) : plan.beatsFrom clock = true := by
  have hlt : clock.nanos + plan.timing.heartbeatInterval.nanos < Plan.clockEnd.nanos :=
    Nat.lt_of_not_le fun hle => ho ⟨t, hmem, clock, ht, hle⟩
  simp [Plan.beatsFrom, heartbeatInterval_pos hv, hlt]

theorem Untouched.front {trace : List Transition} {t : Transition} (h : Untouched (trace ++ [t])) :
    Untouched trace := fun _ hmem => h _ (List.mem_append_left _ hmem)

theorem Untouched.last {trace : List Transition} {t : Transition} (h : Untouched (trace ++ [t])) :
    t.event ≠ .consumer .cancelled ∧ t.event ≠ .consumer .detached := h t (by simp)

theorem Run.attached {plan : Plan} {trace : List Transition} {s : Session} (h : Run plan trace s)
    (hu : Untouched trace) : s.attached = true := by
  induction h with
  | none => rfl
  | step _ hs ih => exact (move_attached (step_move hs) hu.last.2).trans (ih hu.front)

theorem Run.undisturbed {plan : Plan} {trace : List Transition} {s : Session}
    (hv : plan.timing.validate = .ok ()) (h : Run plan trace s) (hu : Untouched trace)
    (ho : ¬Overrun plan trace) : Undisturbed trace s := by
  induction h with
  | none => exact ⟨fun _ => rfl, fun h => (by cases h), fun h => (by cases h)⟩
  | @step trace s s' e ms h hs ih =>
    have h : Run plan trace s := h
    have ho₀ : ¬Overrun plan trace := fun ⟨t, ht, hlate⟩ => ho ⟨t, List.mem_append_left _ ht, hlate⟩
    have hf : ∀ b, s.driver = .failing b → b.isOk = false := by
      intro b hb
      obtain ⟨f, rfl⟩ := h.handing.failing b hb
      exact plan.failure_isOk f
    refine (ih hu.front ho₀).next h.staged (h.attached hu.front) hf hu.last.1 (fun clock ht => ?_)
      (step_move hs)
    rw [h.plan_eq]
    exact beatsFrom_of_not_overrun hv ho (t := ⟨s, e, s', ms⟩) (by simp) ht

/-! ## The stream of a session -/

theorem mayHand_of_isOpen {s : Session} (h : s.isOpen = false) : s.mayHand = false := by
  unfold isOpen at h
  unfold mayHand
  cases hd : s.driver <;> simp_all

theorem make_failure (p : Plan) (f : Failure) :
    Broadcast.make (String.ofList (p.filter.key.toList.filter (· ≠ '\x7b'))) (.fail f.message) =
      .ok (p.failure f) :=
  dif_neg p.failureTopic_brace_free

/-- Whatever the tasks, the source, the sockets and the consumer do, a session hands over good broadcasts
and at most one failing one after them, and the consumer takes them in this order. If it neither cancels
nor leaves, the stream ends right after a failing one, or after good ones because the beats could not be
timed. A failure that the session makes is a broadcast under the filter's key without braces. -/
theorem one_failure_then_end {plan : Plan} {trace : List Transition} {s : Session}
    (hv : plan.timing.validate = .ok ()) (h : Run plan trace s) :
    OneFailure (enqueued trace) ∧ OneFailure (taken trace) ∧ taken trace <+: enqueued trace ∧
      (Untouched trace → s.ended = true → taken trace = enqueued trace ∧
        (FailsLast (taken trace) ∨ Overrun plan trace ∧ ∀ b ∈ taken trace, b.isOk = true)) ∧
      (∀ b ∈ enqueued trace, b ∈ heardFrom trace ∨ ∃ f, b = plan.failure f) ∧
      ∀ f, Broadcast.make (String.ofList (plan.filter.key.toList.filter (· ≠ '\x7b')))
        (.fail f.message) = .ok (plan.failure f) := by
  have hh := h.handing
  obtain ⟨horder, hqueue⟩ := h.queue
  refine ⟨hh.once, hh.once.of_front horder, horder, fun hu he => ?_, fun b hb => (hh.sourced b hb).symm,
    make_failure plan⟩
  simp only [ended, Bool.and_eq_true, List.isEmpty_iff, Bool.not_eq_true'] at he
  have htaken : taken trace = enqueued trace := by
    rw [hqueue (h.attached hu), he.1, List.append_nil]
  rw [htaken]
  refine ⟨rfl, ?_⟩
  by_cases ho : Overrun plan trace
  · by_cases hfails : ∃ b ∈ enqueued trace, b.isOk = false
    · exact .inl (hh.once.failsLast hfails)
    · exact .inr ⟨ho, fun b hb => Bool.of_not_eq_false fun hbad => hfails ⟨b, hb, hbad⟩⟩
  · exact .inl (hh.once.failsLast ((h.undisturbed hv hu ho).told (mayHand_of_isOpen he.2)))

/-- A session with a service that does not broadcast. -/
def portless : Plan where
  endpoint := ⟨"dome", "localhost", 7000, none, none⟩
  address := "inproc://console"
  transport := ⟨.ofMillis 50, .ofMillis 10, some 3⟩
  timing := ⟨.ofMillis 200, .ofMillis 10, 8⟩
  filter := ⟨["\x7bsummit"], [], [], [], [], [], []⟩

theorem portless_ends : ∃ trace s, Run portless trace s ∧ Untouched trace ∧ ¬Overrun portless trace ∧
    s.ended = true := by
  have h₁ := Steps.step (@Steps.none (.start portless)) (e := .driver .started) rfl
  have h₂ := Steps.step h₁ (e := .driver (.handed .accepted)) rfl
  have h₃ := Steps.step h₂ (e := .driver .closed) rfl
  have h₄ := Steps.step h₃ (e := .consumer .took) rfl
  refine ⟨_, _, h₄, fun t ht => ?_, fun ⟨t, ht, clock, he, _⟩ => ?_, rfl⟩
  all_goals
    simp only [List.nil_append, List.cons_append, List.mem_cons, List.not_mem_nil, or_false] at ht
    obtain rfl | rfl | rfl | rfl := ht
  all_goals first | exact ⟨nofun, nofun⟩ | cases he

theorem one_failure_then_end_portless :
    portless.timing.validate = .ok () ∧
      ∃ trace s, Run portless trace s ∧ Untouched trace ∧ s.ended = true ∧ FailsLast (taken trace) := by
  obtain ⟨trace, s, h, hu, ho, he⟩ := portless_ends
  obtain hfails | ⟨hover, -⟩ := ((one_failure_then_end rfl h).2.2.2.1 hu he).2
  · exact ⟨rfl, trace, s, h, hu, he, hfails⟩
  · exact absurd hover ho

/-- A session whose beats are as far apart as a configuration can ask for. -/
def unhurried : Plan where
  endpoint := ⟨"indexer", "memory", 4000, some 4001, none⟩
  address := "sub-1"
  transport := .default
  timing := { SubscriberConfig.default with heartbeatInterval := .ofSecs 0xFFFFFFFFFFFFFFFF }
  filter := .empty

/-- The handshake succeeds, and the heartbeat task breaks down at its start. -/
def unbeaten : List Event :=
  [.driver .started, .driver .connected, .driver .settled, .driver (.subscribe .begin),
    .driver (.subscribe (.dialed 0)), .driver (.subscribe .sent),
    .driver (.subscribe (.received (Reply.ok .empty).encode)), .heartbeat (.started ⟨0⟩),
    .receiver .deserted, .driver .followed, .driver .joined]

/-- The consumer neither cancels nor leaves, and the stream ends without a failing broadcast. -/
theorem stream_ends_without_failure :
    unhurried.timing.validate = .ok () ∧ ∃ trace s, Run unhurried trace s ∧ Untouched trace ∧
      s.ended = true ∧ enqueued trace = [] ∧ ¬FailsLast (taken trace) := by
  have hread : (follow Session.step (.start unhurried) unbeaten).map
      (fun r => (enqueued (r.1.map Transition.of), taken (r.1.map Transition.of), r.2.ended)) =
      some ([], [], true) := by
    decide +kernel
  obtain ⟨history, s, hrun, hevents, hread⟩ := Occurs.of_reading hread
  obtain ⟨henqueued, hread⟩ := Prod.mk.inj hread
  obtain ⟨htaken, hended⟩ := Prod.mk.inj hread
  have huntouched : ∀ e ∈ unbeaten, e ≠ .consumer .cancelled ∧ e ≠ .consumer .detached := by
    simp [unbeaten]
  refine ⟨by decide +kernel, _, s, .of_history hrun, Transition.event_of_mem hevents huntouched, hended,
    henqueued, ?_⟩
  rw [htaken]
  rintro ⟨good, b, -, -, hnil⟩
  simp at hnil

end MessageBus.Session
