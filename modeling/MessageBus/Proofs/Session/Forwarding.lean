import MessageBus.Proofs.Session.OneFailure
import MessageBus.Proofs.Session.Requests
/-!
# From the source to the consumer

`forwarded_in_order`: what is enqueued for the consumer is what the source returned, read in order and
each frame once, and at the end perhaps one failure that the session made. All but the last frame were
enqueued, and the last one, too, unless it is in the receiver's hands still or the consumer cancelled the
session. `Stands` ties this to what the receiver is doing.
-/
namespace MessageBus.Session
set_option autoImplicit false
open Telemetry (Metric)

/-! ## What the source returned -/

/-- What the source returns to the receiver. -/
def Transition.given? (t : Transition) : Option (Except SocketError Frame) :=
  match t.event with
  | .receiver (.heard r) => some r
  | _ => none

def given (trace : List Transition) : List (Except SocketError Frame) := trace.filterMap Transition.given?

/-- Why a session fails, and what the source returned last if that was the reason. -/
inductive Cause : List (Except SocketError Frame) → Failure → Prop
  | own (f : Failure) : Cause [] f
  | malformed {frame : Frame} {e : EnvelopeError} (h : Broadcast.decode frame = .error e) :
      Cause [.ok frame] (.malformed e)
  | socket (e : SocketError) : Cause [.error e] (.socket e)

/-- The consumer has cancelled the session, and so the receiver gave a broadcast up. -/
structure Dropped (trace : List Transition) (b : Broadcast) : Prop where
  inHand : ∃ t ∈ trace, (∃ remote, t.before.receiver = .forwarding b remote) ∧
    t.before.cancelled = true ∧ t.enqueued? = none ∧ t.after.receiver = .finished
  signalled : ∃ t ∈ trace, t.event = .consumer .cancelled

/-- What is left of what the source returned besides the frames that were passed on, and the failure that
was enqueued, by what the receiver is doing. -/
inductive Stands (plan : Plan) (trace : List Transition) :
    Receiver → List (Except SocketError Frame) → Option Failure → Prop
  | absent {own : Option Failure} : Stands plan trace .absent [] own
  | listening : Stands plan trace .listening [] none
  | carrying {frame : Frame} {b : Broadcast} (h : Broadcast.decode frame = .ok b) :
      Stands plan trace (.forwarding b true) [.ok frame] none
  | telling {rest : List (Except SocketError Frame)} {f : Failure} {b : Broadcast} (h : Cause rest f)
      (hb : b = plan.failure f) : Stands plan trace (.forwarding b false) rest none
  | ended : Stands plan trace .finished [] none
  | told {rest : List (Except SocketError Frame)} {f : Failure} (h : Cause rest f) :
      Stands plan trace .finished rest (some f)
  | dropped {frame : Frame} {b : Broadcast} (h : Broadcast.decode frame = .ok b) (hl : Dropped trace b) :
      Stands plan trace .finished [.ok frame] none
  | untold {rest : List (Except SocketError Frame)} {f : Failure} (h : Cause rest f)
      (hl : Dropped trace (plan.failure f)) : Stands plan trace .finished rest none

/-- What was passed on, what was not, and the failure that was enqueued. -/
structure Passing (plan : Plan) (trace : List Transition) (s : Session) (frames : List Frame)
    (passed : List Broadcast) (rest : List (Except SocketError Frame)) (own : Option Failure) : Prop where
  given : given trace = frames.map .ok ++ rest
  decoded : frames.map Broadcast.decode = passed.map .ok
  enqueued : enqueued trace = passed ++ (own.map plan.failure).toList
  stands : Stands plan trace s.receiver rest own

section Traces
variable {plan : Plan} {trace : List Transition} {t : Transition} {r : Except SocketError Frame}
  {b : Broadcast}

theorem given_none (h : t.given? = none) : given (trace ++ [t]) = given trace := by
  simp [given, h]

theorem given_some (h : t.given? = some r) : given (trace ++ [t]) = given trace ++ [r] := by
  simp [given, h]

theorem Dropped.append (h : Dropped trace b) (t : Transition) : Dropped (trace ++ [t]) b := by
  obtain ⟨⟨a, ha, hand⟩, c, hc, he⟩ := h
  exact ⟨⟨a, List.mem_append_left _ ha, hand⟩, c, List.mem_append_left _ hc, he⟩

theorem dropped_last {s s' : Session} {e : Event} {ms : List Metric} {remote : Bool}
    (hr : s.receiver = .forwarding b remote) (hc : s.cancelled = true)
    (he : Transition.enqueued? ⟨s, e, s', ms⟩ = none) (hr' : s'.receiver = .finished)
    (hs : ∃ t ∈ trace, t.event = .consumer .cancelled) : Dropped (trace ++ [⟨s, e, s', ms⟩]) b := by
  obtain ⟨t, ht, hsignal⟩ := hs
  exact ⟨⟨_, List.mem_append_right _ List.mem_cons_self, ⟨remote, hr⟩, hc, he, hr'⟩,
    t, List.mem_append_left _ ht, hsignal⟩

theorem Stands.append {receiver : Receiver} {rest : List (Except SocketError Frame)}
    {own : Option Failure} (h : Stands plan trace receiver rest own) (t : Transition) :
    Stands plan (trace ++ [t]) receiver rest own := by
  cases h with
  | absent => exact .absent
  | listening => exact .listening
  | carrying h => exact .carrying h
  | telling h hb => exact .telling h hb
  | ended => exact .ended
  | told h => exact .told h
  | dropped h hl => exact .dropped h (hl.append t)
  | untold h hl => exact .untold h (hl.append t)

theorem Cause.rest_length {rest : List (Except SocketError Frame)} {f : Failure} (h : Cause rest f) :
    rest.length ≤ 1 := by
  cases h with
  | own => exact Nat.zero_le 1
  | malformed | socket => exact Nat.le_refl 1

theorem Cause.not_decoded {rest : List (Except SocketError Frame)} {f : Failure} (h : Cause rest f)
    {frame : Frame} (hmem : .ok frame ∈ rest) : Broadcast.decode frame ≠ .ok b := by
  intro hd
  cases h with
  | own => cases hmem
  | malformed he =>
    cases List.mem_singleton.mp hmem
    cases he.symm.trans hd
  | socket => cases List.mem_singleton.mp hmem

theorem Stands.rest_length {receiver : Receiver} {rest : List (Except SocketError Frame)}
    {own : Option Failure} (h : Stands plan trace receiver rest own) : rest.length ≤ 1 := by
  cases h with
  | absent | listening | ended => exact Nat.zero_le 1
  | carrying | dropped => exact Nat.le_refl 1
  | telling hc | told hc | untold hc => exact hc.rest_length

/-- A good frame that was not passed on is in the receiver's hands, or was dropped. -/
theorem Stands.of_decoded {receiver : Receiver} {rest : List (Except SocketError Frame)}
    {own : Option Failure} (h : Stands plan trace receiver rest own) {frame : Frame}
    (hmem : .ok frame ∈ rest) (hd : Broadcast.decode frame = .ok b) :
    receiver = .forwarding b true ∨ Dropped trace b := by
  cases h with
  | absent | listening | ended => cases hmem
  | carrying hd' =>
    cases List.mem_singleton.mp hmem
    cases hd'.symm.trans hd
    exact .inl rfl
  | dropped hd' hl =>
    cases List.mem_singleton.mp hmem
    cases hd'.symm.trans hd
    exact .inr hl
  | telling hc | told hc | untold hc => exact absurd hd (hc.not_decoded hmem)

end Traces

/-! ## The signal -/

/-- The consumer is gone only after the signal, which it gave itself as long as a task hands over. -/
structure Signalling (trace : List Transition) (s : Session) : Prop where
  detached : s.attached = false → s.cancelled = true
  signalled : s.mayHand = true → s.cancelled = true → ∃ t ∈ trace, t.event = .consumer .cancelled

section Signals
variable {trace : List Transition} {s s' : Session} {e : Event} {ms : List Metric}

theorem Signalling.next (hst : Staged s) (h : Signalling trace s) (hm : Move s e s' ms) :
    Signalling (trace ++ [⟨s, e, s', ms⟩]) s' where
  detached := by
    intro ha
    by_cases he : e = .consumer .detached
    · subst he
      cases hm with
      | consumer hm =>
        cases hm with
        | detached hc => exact hc
    · exact cancelled_mono hm (h.detached (move_attached hm he ▸ ha))
  signalled := by
    intro hmay hc
    by_cases he : e = .consumer .cancelled
    · exact ⟨_, List.mem_append_right _ List.mem_cons_self, he⟩
    · rw [move_cancelled hm he hmay] at hc
      obtain ⟨t, ht, hsignal⟩ := h.signalled (mayHand_mono hst hm hmay) hc
      exact ⟨t, List.mem_append_left _ ht, hsignal⟩

theorem Run.signalling {plan : Plan} (h : Run plan trace s) : Signalling trace s := by
  induction h with
  | none => exact ⟨nofun, fun _ => nofun⟩
  | step h hs ih => exact ih.next (Run.staged h) (step_move hs)

end Signals

/-! ## Passing on -/

theorem Staged.absent_of_subscribing {s : Session} {client : Client} {call : Call} (h : Staged s)
    (hd : s.driver = .subscribing client call) : s.receiver = .absent := by
  rw [Staged, hd] at h
  exact h.2

theorem Staged.absent_of_failing {s : Session} {b : Broadcast} (h : Staged s)
    (hd : s.driver = .failing b) : s.receiver = .absent := by
  rw [Staged, hd] at h
  exact h.2

section Passing
variable {plan : Plan} {trace : List Transition} {s s' : Session} {e : Event} {ms : List Metric}
  {frames : List Frame} {passed : List Broadcast} {rest : List (Except SocketError Frame)}
  {own : Option Failure}

/-- The receiver stops, or begins something new, without a word to the consumer or from the source. -/
theorem Passing.turn {receiver : Receiver} (h : Passing plan trace s frames passed rest own)
    (hg : Transition.given? ⟨s, e, s', ms⟩ = none) (he : Transition.enqueued? ⟨s, e, s', ms⟩ = none)
    (hs : s'.receiver = receiver) (hst : Stands plan (trace ++ [⟨s, e, s', ms⟩]) receiver rest own) :
    Passing plan (trace ++ [⟨s, e, s', ms⟩]) s' frames passed rest own where
  given := (given_none hg).trans h.given
  decoded := h.decoded
  enqueued := (enqueued_none he).trans h.enqueued
  stands := hs ▸ hst

theorem Passing.quiet (h : Passing plan trace s frames passed rest own)
    (hg : Transition.given? ⟨s, e, s', ms⟩ = none) (he : Transition.enqueued? ⟨s, e, s', ms⟩ = none)
    (hr : s'.receiver = s.receiver) :
    Passing plan (trace ++ [⟨s, e, s', ms⟩]) s' frames passed rest own :=
  h.turn hg he hr (h.stands.append _)

/-- A task that may still hand something over has not told of a failure. -/
theorem Passing.own_none (h : Passing plan trace s frames passed rest own)
    (hh : Handing plan trace s) (hmay : s.mayHand = true) : own = none := by
  cases own with
  | none => rfl
  | some f =>
    have hmem : plan.failure f ∈ Session.enqueued trace := by
      rw [h.enqueued]
      exact List.mem_append_right _ List.mem_cons_self
    cases (plan.failure_isOk f).symm.trans (hh.good hmay _ hmem)

theorem Passing.extend {frame : Frame} {b : Broadcast} {remote : Bool}
    (h : Passing plan trace s frames passed [.ok frame] none) (hd : Broadcast.decode frame = .ok b)
    (hr : s.receiver = .forwarding b remote) {receiver : Receiver} (hs : s'.receiver = receiver)
    (hst : Stands plan trace receiver [] none) :
    Passing plan (trace ++ [⟨s, .receiver (.handed .accepted), s', ms⟩]) s' (frames ++ [frame])
      (passed ++ [b]) [] none where
  given := by
    rw [given_none rfl, h.given, List.map_append, List.append_nil]
    rfl
  decoded := by rw [List.map_append, List.map_append, h.decoded, List.map_singleton, hd]; rfl
  enqueued := by
    have he : Transition.enqueued? ⟨s, .receiver (.handed .accepted), s', ms⟩ = some b := by
      simp only [Transition.enqueued?, hr]
    rw [enqueued_some he, h.enqueued]
    simp
  stands := hs ▸ hst.append _

theorem Passing.heard {r : Except SocketError Frame} {receiver : Receiver}
    (h : Passing plan trace s frames passed [] none) (hs : s'.receiver = receiver)
    (hst : Stands plan trace receiver [r] none) :
    Passing plan (trace ++ [⟨s, .receiver (.heard r), s', ms⟩]) s' frames passed [r] none where
  given := by rw [given_some rfl, h.given, List.append_nil]
  decoded := h.decoded
  enqueued := (enqueued_none rfl).trans h.enqueued
  stands := hs ▸ hst.append _

theorem Passing.tell {f : Failure} {receiver : Receiver}
    (h : Passing plan trace s frames passed rest none)
    (hg : Transition.given? ⟨s, e, s', ms⟩ = none)
    (he : Transition.enqueued? ⟨s, e, s', ms⟩ = some (plan.failure f)) (hs : s'.receiver = receiver)
    (hst : Stands plan trace receiver rest (some f)) :
    Passing plan (trace ++ [⟨s, e, s', ms⟩]) s' frames passed rest (some f) where
  given := (given_none hg).trans h.given
  decoded := h.decoded
  enqueued := by
    rw [enqueued_some he, h.enqueued]
    simp
  stands := hs ▸ hst.append _

theorem Passing.of_listening (h : Passing plan trace s frames passed rest own)
    (hr : s.receiver = .listening) : rest = [] ∧ own = none := by
  have hstands := h.stands
  rw [hr] at hstands
  cases hstands with
  | listening => exact ⟨rfl, rfl⟩

theorem Passing.of_absent (h : Passing plan trace s frames passed rest own)
    (hr : s.receiver = .absent) : rest = [] := by
  have hstands := h.stands
  rw [hr] at hstands
  cases hstands with
  | absent => rfl

theorem passing_driver {e : DriverEvent} (hst : Staged s) (hh : Handing plan trace s)
    (h : Passing plan trace s frames passed rest own) (hm : DriverMove s e s' ms) :
    ∃ frames passed rest own,
      Passing plan (trace ++ [⟨s, .driver e, s', ms⟩]) s' frames passed rest own := by
  cases hm with
  | subscribed hd hc =>
    obtain rfl := h.own_none hh (by simp only [mayHand, hd])
    obtain rfl := h.of_absent (hst.absent_of_subscribing hd)
    exact ⟨_, _, _, _, h.turn rfl rfl rfl .listening⟩
  | tells hd ha hroom =>
    have hr := hst.absent_of_failing hd
    obtain rfl := h.own_none hh (by simp only [mayHand, hd])
    obtain rfl := h.of_absent hr
    -- The driver has a failure of the session's own in hand.
    obtain ⟨f, rfl⟩ := hh.failing _ hd
    exact ⟨_, _, _, _, h.tell (f := f) rfl (by simp only [Transition.enqueued?, hd]) hr .absent⟩
  | keepsBack hd hg => exact ⟨_, _, _, _, h.quiet rfl (by cases hg <;> rfl) rfl⟩
  | _ => exact ⟨_, _, _, _, h.quiet rfl rfl rfl⟩

theorem passing_receiver {e : ReceiverEvent} (hp : s.plan = plan) (hst : Staged s)
    (hsig : Signalling trace s) (h : Passing plan trace s frames passed rest own)
    (hm : ReceiverMove s e s' ms) :
    ∃ frames passed rest own,
      Passing plan (trace ++ [⟨s, .receiver e, s', ms⟩]) s' frames passed rest own := by
  have hstands := h.stands
  have hmay := mayHand_of_running hst hm.running
  subst hp
  cases hm with
  | broken hr =>
    obtain ⟨rfl, rfl⟩ := h.of_listening hr
    exact ⟨_, _, _, _, h.heard rfl (.telling (.socket _) rfl)⟩
  | malformed hr hd =>
    obtain ⟨rfl, rfl⟩ := h.of_listening hr
    exact ⟨_, _, _, _, h.heard rfl (.telling (.malformed hd) rfl)⟩
  | heard hr hd =>
    obtain ⟨rfl, rfl⟩ := h.of_listening hr
    exact ⟨_, _, _, _, h.heard rfl (.carrying hd)⟩
  | alerted hr hc =>
    obtain ⟨rfl, rfl⟩ := h.of_listening hr
    exact ⟨_, _, _, _, h.turn rfl rfl rfl (.telling (.own _) rfl)⟩
  | deserted hr | stopped hr =>
    obtain ⟨rfl, rfl⟩ := h.of_listening hr
    exact ⟨_, _, _, _, h.turn rfl rfl rfl .ended⟩
  | passes hr ha hroom hb =>
    rw [hr] at hstands
    cases hstands with
    | carrying hd => exact ⟨_, _, _, _, h.extend hd hr rfl .listening⟩
    | telling hc hf =>
      rw [hf] at hb
      cases hb
  | tells hr ha hroom hb =>
    rw [hr] at hstands
    cases hstands with
    | carrying hd => exact ⟨_, _, _, _, h.extend hd hr rfl .ended⟩
    | telling hc hf =>
      subst hf
      exact ⟨_, _, _, _, h.tell rfl (by simp only [Transition.enqueued?, hr]) rfl (.told hc)⟩
  | @keepsBack b remote way hr hg =>
    have he (s' : Session) (ms : List Metric) :
        Transition.enqueued? ⟨s, .receiver (.handed way), s', ms⟩ = none := by
      cases hg <;> rfl
    have hc : s.cancelled = true := by
      cases hg with
      | refused ha => exact hsig.detached ha
      | withdrawn hc => exact hc
    have hdropped (ms : List Metric) :
        Dropped (trace ++ [⟨s, .receiver (.handed way), { s with receiver := .finished }, ms⟩]) b :=
      dropped_last hr hc (he _ ms) rfl (hsig.signalled hmay hc)
    rw [hr] at hstands
    cases hstands with
    | carrying hd => exact ⟨_, _, _, _, h.turn rfl (he _ _) rfl (.dropped hd (hdropped _))⟩
    | telling hcause hf =>
      subst hf
      exact ⟨_, _, _, _, h.turn rfl (he _ _) rfl (.untold hcause (hdropped _))⟩

theorem passing_move (hp : s.plan = plan) (hst : Staged s) (hh : Handing plan trace s)
    (hsig : Signalling trace s) (h : Passing plan trace s frames passed rest own)
    (hm : Move s e s' ms) :
    ∃ frames passed rest own, Passing plan (trace ++ [⟨s, e, s', ms⟩]) s' frames passed rest own := by
  cases hm with
  | driver hm => exact passing_driver hst hh h hm
  | heartbeat hm => cases hm <;> exact ⟨_, _, _, _, h.quiet rfl rfl rfl⟩
  | receiver hm => exact passing_receiver hp hst hsig h hm
  | consumer hm => cases hm <;> exact ⟨_, _, _, _, h.quiet rfl rfl rfl⟩

theorem Run.passing (h : Run plan trace s) :
    ∃ frames passed rest own, Passing plan trace s frames passed rest own := by
  induction h with
  | none => exact ⟨[], [], [], none, rfl, rfl, rfl, .absent⟩
  | step h hs ih =>
    obtain ⟨_, _, _, _, ih⟩ := ih
    exact passing_move (Run.plan_eq h) (Run.staged h) (Run.handing h) (Run.signalling h) ih (step_move hs)

end Passing

/-! ## After a failure -/

/-- A failing broadcast is enqueued, or something that is not a good broadcast comes from the source. -/
def Transition.fails (t : Transition) : Prop :=
  (∃ b, t.enqueued? = some b ∧ b.isOk = false) ∨
    ∃ r, t.given? = some r ∧ ∀ frame b, r = .ok frame → Broadcast.decode frame = .ok b → b.isOk = false

/-- The receiver will not listen any more. -/
structure Closing (s : Session) : Prop where
  stops : s.receiver.goesOn = false
  never : s.receiver = .absent → s.mayHand = false

section Failing
variable {s s' : Session} {e : Event} {ms : List Metric}

theorem closing_of_present (hs : s.receiver.goesOn = false) (ha : s.receiver ≠ .absent) : Closing s :=
  ⟨hs, fun h => absurd h ha⟩

theorem closing_of_fails (hst : Staged s) (hm : Move s e s' ms)
    (hf : Transition.fails ⟨s, e, s', ms⟩) : Closing s' := by
  cases hm with
  | driver hm =>
    cases hm with
    | tells hd ha hroom => exact ⟨by simp only [hst.absent_of_failing hd, Receiver.goesOn], fun _ => rfl⟩
    | keepsBack hd hg => cases hg <;> simp [Transition.fails, Transition.enqueued?, Transition.given?] at hf
    | _ => simp [Transition.fails, Transition.enqueued?, Transition.given?] at hf
  | heartbeat hm => simp [Transition.fails, Transition.enqueued?, Transition.given?] at hf
  | receiver hm =>
    cases hm with
    | broken | malformed => exact closing_of_present rfl (by simp)
    | heard hr hd =>
      obtain ⟨b, he, -⟩ | ⟨r, hr, hbad⟩ := hf
      · cases he
      · cases hr
        exact closing_of_present (hbad _ _ rfl hd) (by simp)
    | passes hr ha hroom hb =>
      obtain ⟨b', he, hbad⟩ | ⟨r, hr, -⟩ := hf
      · simp only [Transition.enqueued?, hr, Option.some.injEq] at he
        rw [← he, hb] at hbad
        cases hbad
      · cases hr
    | tells | keepsBack => exact closing_of_present rfl (by simp)
    | _ => simp [Transition.fails, Transition.enqueued?, Transition.given?] at hf
  | consumer hm => simp [Transition.fails, Transition.enqueued?, Transition.given?] at hf

theorem Closing.next (hst : Staged s) (h : Closing s) (hm : Move s e s' ms) :
    Closing s' ∧ Transition.given? ⟨s, e, s', ms⟩ = none := by
  have hkept (hr : s'.receiver = s.receiver) : Closing s' := by
    refine ⟨hr ▸ h.stops, fun ha => ?_⟩
    exact (Bool.not_eq_true _).mp fun hmay =>
      absurd ((h.never (hr ▸ ha)).symm.trans (mayHand_mono hst hm hmay)) (by decide)
  cases hm with
  | driver hm =>
    cases hm with
    | subscribed hd =>
      have hmay := h.never (hst.absent_of_subscribing hd)
      simp [mayHand, hd] at hmay
    | _ => exact ⟨hkept rfl, rfl⟩
  | heartbeat hm => cases hm <;> exact ⟨hkept rfl, rfl⟩
  | receiver hm =>
    have hstops := h.stops
    cases hm with
    | broken hr | malformed hr | heard hr | alerted hr | deserted hr | stopped hr =>
      rw [hr] at hstops
      cases hstops
    | passes hr ha hroom hb =>
      rw [hr] at hstops
      cases hb.symm.trans hstops
    | tells | keepsBack => exact ⟨closing_of_present rfl (by simp), rfl⟩
  | consumer hm => cases hm <;> exact ⟨hkept rfl, rfl⟩

theorem Closing.steps {trace : List Transition} (hst : Staged s) (h : Closing s)
    (hs : Steps s trace s') : given trace = [] := by
  have hall : Staged s' ∧ Closing s' ∧ given trace = [] := by
    induction hs with
    | none => exact ⟨hst, h, rfl⟩
    | step _ hs ih =>
      obtain ⟨hst', h', hnone⟩ := ih
      obtain ⟨hnext, hg⟩ := h'.next hst' (step_move hs)
      exact ⟨staged_move hst' (step_move hs), hnext, (given_none hg).trans hnone⟩
  exact hall.2.2

end Failing

/-! ## The stream of a source -/

/-- Whatever the tasks, the consumer and the canceller do, and whatever the source returns: what is
enqueued is what was read from its first frames, in order and each once, and then perhaps one failure of
the session's own. Besides these frames the source returned at most one thing, which is a frame or an
error that ends the session, or a frame in the receiver's hands, or one that was dropped because the
consumer had cancelled the session. After something that fails nothing is taken from the source. -/
theorem forwarded_in_order {plan : Plan} {trace : List Transition} {s : Session}
    (h : Run plan trace s) :
    (∃ frames passed rest own, Passing plan trace s frames passed rest own ∧ rest.length ≤ 1 ∧
      ∀ frame b, .ok frame ∈ rest → Broadcast.decode frame = .ok b →
        s.receiver = .forwarding b true ∨ Dropped trace b) ∧
    ∀ e s' ms more s'', s.step e = some (s', ms) → Transition.fails ⟨s, e, s', ms⟩ →
      Steps s' more s'' → given more = [] := by
  refine ⟨?_, fun e s' ms more s'' hs hf hmore => ?_⟩
  · obtain ⟨frames, passed, rest, own, hp⟩ := h.passing
    exact ⟨frames, passed, rest, own, hp, hp.stands.rest_length, fun frame b hmem hd =>
      hp.stands.of_decoded hmem hd⟩
  · have hm := step_move hs
    exact (closing_of_fails h.staged hm hf).steps (staged_move h.staged hm) hmore

/-- A session with the indexer. -/
def following : Plan where
  endpoint := ⟨"indexer", "memory", 4000, some 4001, none⟩
  address := "sub-1"
  transport := .default
  timing := .default
  filter := .empty

/-- What the indexer publishes of one block. -/
def block (number : String) : Broadcast := ⟨"acme", .ok (Params.empty.insert "block" (.string number)), by decide⟩

/-- Two frames come, and the consumer cancels while it is handed the second one. -/
def interrupted : List Event :=
  [.driver .started, .driver .connected, .driver .settled, .driver (.subscribe .begin),
    .driver (.subscribe (.dialed 0)), .driver (.subscribe .sent),
    .driver (.subscribe (.received (Reply.ok .empty).encode)),
    .receiver (.heard (.ok (block "1").encode)), .receiver (.handed .accepted),
    .receiver (.heard (.ok (block "2").encode)), .consumer .cancelled, .receiver (.handed .withdrawn)]

theorem forwarded_in_order_interrupted :
    ∃ trace s, Run following trace s ∧
      (given trace).map Except.toOption = [some (block "1").encode, some (block "2").encode] ∧
      enqueued trace = [block "1"] ∧ Dropped trace (block "2") := by
  have hread : (follow Session.step (.start following) interrupted).map
      (fun r => ((given (r.1.map Transition.of)).map Except.toOption, enqueued (r.1.map Transition.of),
        r.2.receiver)) =
      some ([some (block "1").encode, some (block "2").encode], [block "1"], .finished) := by
    decide +kernel
  obtain ⟨history, s, hrun, -, hread⟩ := Occurs.of_reading hread
  obtain ⟨hgiven, hread⟩ := Prod.mk.inj hread
  obtain ⟨henqueued, hreceiver⟩ := Prod.mk.inj hread
  obtain ⟨⟨frames, passed, rest, own, hp, hrest, hdropped⟩, -⟩ := forwarded_in_order (.of_history hrun)
  -- One frame was passed on, so that the other one is left.
  have hone : frames.length + rest.length = 2 ∧ passed.length ≤ 1 := by
    have hlength := congrArg List.length henqueued
    rw [hp.enqueued, List.length_append, List.length_singleton] at hlength
    exact ⟨by simpa [hp.given] using congrArg List.length hgiven, by omega⟩
  have hpassed : frames.length = passed.length := by simpa using congrArg List.length hp.decoded
  obtain ⟨r, rfl⟩ := List.length_eq_one_iff.mp (show rest.length = 1 by omega)
  have hlast : r = .ok (block "2").encode := by
    have h : r.toOption = some (block "2").encode := by
      simpa [hp.given] using congrArg List.getLast? hgiven
    cases r with
    | ok frame => exact congrArg Except.ok (Option.some.inj h)
    | error e => cases h
  have hd : Broadcast.decode (block "2").encode = .ok (block "2") := by
    rw [Broadcast.decode_carried ⟨by decide +kernel, by decide +kernel⟩]
  obtain hr | hb := hdropped _ _ (hlast ▸ List.mem_cons_self) hd
  · cases hreceiver.symm.trans hr
  · exact ⟨_, s, .of_history hrun, hgiven, henqueued, hb⟩

end MessageBus.Session
