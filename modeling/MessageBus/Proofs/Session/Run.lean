import MessageBus.Proofs.Session.Moves
/-!
# Runs of a session

A run lists its transitions, oldest first. What was enqueued for the consumer and what the consumer took
are read off the transitions. Every state of a run is `Staged`: heartbeat task and receiver are there only
after the hand-over, and the driver outlives both.
-/
namespace MessageBus.Session
set_option autoImplicit false
open Telemetry (Metric)

/-! ## Runs -/

structure Transition where
  before : Session
  event : Event
  after : Session
  metrics : List Metric

/-- The steps from one state to another. -/
inductive Steps (s₀ : Session) : List Transition → Session → Prop
  | none : Steps s₀ [] s₀
  | step {trace : List Transition} {s s' : Session} {e : Event} {ms : List Metric}
      (h : Steps s₀ trace s) (hs : s.step e = some (s', ms)) : Steps s₀ (trace ++ [⟨s, e, s', ms⟩]) s'

/-- The steps of a session from its start. -/
def Run (plan : Plan) : List Transition → Session → Prop := Steps (.start plan)

theorem Steps.trans {s₀ s s' : Session} {trace more : List Transition} (h : Steps s₀ trace s)
    (h' : Steps s more s') : Steps s₀ (trace ++ more) s' := by
  induction h' with
  | none => rwa [List.append_nil]
  | step _ hs ih =>
    rw [← List.append_assoc]
    exact ih.step hs

/-- Steps can be parted at each of them. -/
theorem Steps.split {s₀ s : Session} {earlier later : List Transition} {t : Transition}
    (h : Steps s₀ (earlier ++ t :: later) s) :
    Steps s₀ earlier t.before ∧ t.before.step t.event = some (t.after, t.metrics) ∧
      Steps t.after later s := by
  generalize htrace : earlier ++ t :: later = trace at h
  induction h generalizing later with
  | none => simp at htrace
  | @step trace s s' e ms h hs ih =>
    -- The last step is the one in question, or it comes later.
    rcases List.eq_nil_or_concat later with rfl | ⟨between, last, hlater⟩
    · obtain ⟨rfl, heq⟩ := List.append_inj' htrace rfl
      cases heq
      exact ⟨h, hs, .none⟩
    · rw [List.concat_eq_append] at hlater
      subst hlater
      have hparted : (earlier ++ t :: between) ++ [last] = trace ++ [⟨s, e, s', ms⟩] := by
        rw [← htrace]
        simp
      obtain ⟨hfront, hlast⟩ := List.append_inj' hparted rfl
      cases hlast
      obtain ⟨hbefore, hstep, hafter⟩ := ih hfront
      exact ⟨hbefore, hstep, hafter.step hs⟩

namespace Transition

/-- The broadcast that a transition enqueues for the consumer. -/
def enqueued? (t : Transition) : Option Broadcast :=
  match t.event, t.before.driver, t.before.receiver with
  | .driver (.handed .accepted), .failing b, _ => some b
  | .receiver (.handed .accepted), _, .forwarding b _ => some b
  | _, _, _ => none

/-- The broadcast that the consumer takes. -/
def taken? (t : Transition) : Option Broadcast :=
  match t.event with
  | .consumer .took => t.before.inbox.head?
  | _ => none

/-- The broadcast that the source gives. -/
def heard? (t : Transition) : Option Broadcast :=
  match t.event with
  | .receiver (.heard (.ok frame)) => (Broadcast.decode frame).toOption
  | _ => none

end Transition

/-- Everything enqueued for the consumer, oldest first. -/
def enqueued (trace : List Transition) : List Broadcast := trace.filterMap Transition.enqueued?

/-- Everything the consumer took, oldest first. -/
def taken (trace : List Transition) : List Broadcast := trace.filterMap Transition.taken?

/-- Every broadcast that the source gave, oldest first. -/
def heardFrom (trace : List Transition) : List Broadcast := trace.filterMap Transition.heard?

/-- The consumer neither cancels nor leaves. -/
def Untouched (trace : List Transition) : Prop :=
  ∀ t ∈ trace, t.event ≠ .consumer .cancelled ∧ t.event ≠ .consumer .detached

section Traces
variable {trace : List Transition} {t : Transition} {b : Broadcast}

theorem enqueued_none (h : t.enqueued? = none) : enqueued (trace ++ [t]) = enqueued trace := by
  simp [enqueued, h]

theorem enqueued_some (h : t.enqueued? = some b) :
    enqueued (trace ++ [t]) = enqueued trace ++ [b] := by
  simp [enqueued, h]

theorem taken_none (h : t.taken? = none) : taken (trace ++ [t]) = taken trace := by
  simp [taken, h]

theorem taken_some (h : t.taken? = some b) : taken (trace ++ [t]) = taken trace ++ [b] := by
  simp [taken, h]

theorem mem_heardFrom_append (h : b ∈ heardFrom trace) : b ∈ heardFrom (trace ++ [t]) := by
  rw [heardFrom, List.filterMap_append]
  exact List.mem_append_left _ h

theorem mem_heardFrom_last (h : t.heard? = some b) : b ∈ heardFrom (trace ++ [t]) := by
  simp [heardFrom, h]

end Traces

/-! ## Stages -/

/-- Which tasks are there, by what the driver is doing. -/
def Staged (s : Session) : Prop :=
  match s.driver with
  | .starting | .connecting _ | .settling | .subscribing _ _ | .failing _ | .closing =>
    s.heartbeat = .absent ∧ s.receiver = .absent
  | .following => s.heartbeat ≠ .absent ∧ s.receiver ≠ .absent
  | .joining => s.heartbeat ≠ .absent ∧ s.receiver = .finished
  | .finished =>
    s.heartbeat = .absent ∧ s.receiver = .absent ∨ s.heartbeat = .finished ∧ s.receiver = .finished

section Staged
variable {s s' : Session} {ms : List Metric}

/-- A receiver that runs is followed by the driver. -/
theorem Staged.following (h : Staged s) (hr : s.receiver.running = true) : s.driver = .following := by
  have ha : s.receiver ≠ .absent := fun ha => by simp [ha, Receiver.running] at hr
  have hf : s.receiver ≠ .finished := fun hf => by simp [hf, Receiver.running] at hr
  cases hd : s.driver with
  | following => rfl
  | joining => simp [Staged, hd, hf] at h
  | _ => simp [Staged, hd, ha, hf] at h

theorem ReceiverMove.running {e : ReceiverEvent} (hm : ReceiverMove s e s' ms) :
    s.receiver.running = true := by
  cases hm with
  | broken hr | malformed hr | heard hr | alerted hr | deserted hr | passes hr | tells hr
  | keepsBack hr | stopped hr => simp only [hr, Receiver.running]

/-- A heartbeat task that runs has a driver that waits for it. -/
theorem Staged.waiting (h : Staged s) (ha : s.heartbeat ≠ .absent) (hf : s.heartbeat ≠ .finished) :
    s.driver = .following ∨ s.driver = .joining ∧ s.receiver = .finished := by
  cases hd : s.driver with
  | following => exact .inl rfl
  | joining => simp_all [Staged]
  | _ => simp [Staged, hd, ha, hf] at h

theorem staged_driver {e : DriverEvent} (h : Staged s) (hm : DriverMove s e s' ms) : Staged s' := by
  cases hm with
  | opens hd | portless hd | connected hd | unconnected hd | overdue hd | settled hd | calls hd
  | unsubscribed hd | tells hd | keepsBack hd =>
    simp only [Staged, hd] at h
    exact h
  | subscribed hd => exact ⟨nofun, nofun⟩
  | abandoned hd =>
    simp only [Staged, hd] at h
    exact .inl h
  | stopped hd =>
    obtain hd | ⟨target, hd⟩ := hd
    · simp only [Staged, hd] at h
      exact .inl h
    · simp only [Staged, hd] at h
      exact .inl h
  | closed hd =>
    simp only [Staged, hd] at h
    exact .inl h
  | followed hd hr =>
    simp only [Staged, hd] at h
    exact ⟨h.1, hr⟩
  | joined hd hb =>
    simp only [Staged, hd] at h
    exact .inr ⟨hb, h.2⟩

theorem staged_heartbeat {e : HeartbeatEvent} (h : Staged s) (hm : HeartbeatMove s e s' ms) :
    Staged s' := by
  have hw : s.driver = .following ∨ s.driver = .joining ∧ s.receiver = .finished := by
    cases hm with
    | begins hb | breaks hb | ticked hb | calls hb | beaten hb | abandoned hb | unbeaten hb
    | reported hb | stopped hb =>
      exact h.waiting (by simp [hb]) (by simp [hb])
  have hkept : s'.driver = s.driver ∧ s'.receiver = s.receiver ∧ s'.heartbeat ≠ .absent := by
    cases hm <;> exact ⟨rfl, rfl, by simp⟩
  obtain ⟨hd, hr, hb⟩ := hkept
  obtain hf | ⟨hj, hrf⟩ := hw
  · simp only [Staged, hd, hf, hr] at h ⊢
    exact ⟨hb, h.2⟩
  · simp only [Staged, hd, hj, hr]
    exact ⟨hb, hrf⟩

theorem staged_receiver {e : ReceiverEvent} (h : Staged s) (hm : ReceiverMove s e s' ms) :
    Staged s' := by
  have hf : s.driver = .following := h.following hm.running
  have hkept : s'.driver = s.driver ∧ s'.heartbeat = s.heartbeat ∧ s'.receiver ≠ .absent := by
    cases hm <;> exact ⟨rfl, rfl, by simp⟩
  obtain ⟨hd, hb, hr⟩ := hkept
  simp only [Staged, hd, hf, hb] at h ⊢
  exact ⟨h.1, hr⟩

theorem staged_move {e : Event} (h : Staged s) (hm : Move s e s' ms) : Staged s' := by
  cases hm with
  | driver hm => exact staged_driver h hm
  | heartbeat hm => exact staged_heartbeat h hm
  | receiver hm => exact staged_receiver h hm
  | consumer hm => cases hm <;> exact h

end Staged

theorem Run.staged {plan : Plan} {trace : List Transition} {s : Session} (h : Run plan trace s) :
    Staged s := by
  induction h with
  | none => exact ⟨rfl, rfl⟩
  | step _ hs ih => exact staged_move ih (step_move hs)

/-! ## The plan -/

theorem move_plan {s s' : Session} {e : Event} {ms : List Metric} (hm : Move s e s' ms) :
    s'.plan = s.plan := by
  cases hm with
  | driver hm => cases hm <;> rfl
  | heartbeat hm => cases hm <;> rfl
  | receiver hm => cases hm <;> rfl
  | consumer hm => cases hm <;> rfl

theorem Run.plan_eq {plan : Plan} {trace : List Transition} {s : Session} (h : Run plan trace s) :
    s.plan = plan := by
  induction h with
  | none => rfl
  | step _ hs ih => exact (move_plan (step_move hs)).trans ih

/-- The signal of the canceller lasts. -/
theorem cancelled_mono {s s' : Session} {e : Event} {ms : List Metric} (hm : Move s e s' ms)
    (h : s.cancelled = true) : s'.cancelled = true := by
  cases hm with
  | driver hm => cases hm <;> first | exact h | rfl
  | heartbeat hm => cases hm <;> exact h
  | receiver hm => cases hm <;> exact h
  | consumer hm => cases hm <;> first | exact h | rfl

/-! ## The queue -/

/-- What a transition does to the consumer and its queue. -/
inductive Flow (t : Transition) : Prop
  | still (he : t.enqueued? = none) (ht : t.taken? = none) (hi : t.after.inbox = t.before.inbox)
      (ha : t.after.attached = t.before.attached)
  | enters {b : Broadcast} (he : t.enqueued? = some b) (ht : t.taken? = none)
      (hi : t.after.inbox = t.before.inbox ++ [b]) (ha : t.before.attached = true)
      (ha' : t.after.attached = true)
  | leaves {b : Broadcast} (he : t.enqueued? = none) (ht : t.taken? = some b)
      (hi : t.before.inbox = b :: t.after.inbox) (ha : t.before.attached = true)
      (ha' : t.after.attached = true)
  | dropped (he : t.enqueued? = none) (ht : t.taken? = none) (ha : t.after.attached = false)

theorem move_flow {s s' : Session} {e : Event} {ms : List Metric} (hm : Move s e s' ms) :
    Flow ⟨s, e, s', ms⟩ := by
  cases hm with
  | driver hm =>
    cases hm with
    | tells hd ha _ => exact .enters (by simp [Transition.enqueued?, hd]) rfl rfl ha ha
    | keepsBack hd hg => exact .still (by cases hg <;> rfl) rfl rfl rfl
    | _ => exact .still rfl rfl rfl rfl
  | heartbeat hm => cases hm <;> exact .still rfl rfl rfl rfl
  | receiver hm =>
    cases hm with
    | passes hr ha _ _ | tells hr ha _ _ =>
      exact .enters (by simp [Transition.enqueued?, hr]) rfl rfl ha ha
    | keepsBack hr hg => exact .still (by cases hg <;> rfl) rfl rfl rfl
    | _ => exact .still rfl rfl rfl rfl
  | consumer hm =>
    cases hm with
    | cancelled => exact .still rfl rfl rfl rfl
    | detached _ => exact .dropped rfl rfl rfl
    | took ha hi => exact .leaves rfl (by simp [Transition.taken?, hi]) hi ha ha

/-- What the consumer took is the front of what was enqueued, and the rest waits for it. -/
theorem Run.queue {plan : Plan} {trace : List Transition} {s : Session} (h : Run plan trace s) :
    taken trace <+: enqueued trace ∧
      (s.attached = true → enqueued trace = taken trace ++ s.inbox) := by
  induction h with
  | none => exact ⟨List.prefix_refl [], fun _ => rfl⟩
  | step _ hs ih =>
    obtain ⟨hp, hq⟩ := ih
    cases move_flow (step_move hs) with
    | still he ht hi ha =>
      rw [enqueued_none he, taken_none ht]
      exact ⟨hp, fun h => hi ▸ hq (ha ▸ h)⟩
    | enters he ht hi ha ha' =>
      rw [enqueued_some he, taken_none ht]
      refine ⟨hp.trans (List.prefix_append ..), fun _ => ?_⟩
      rw [hq ha, List.append_assoc]
      exact congrArg _ hi.symm
    | leaves he ht hi ha ha' =>
      rw [enqueued_none he, taken_some ht]
      have hq' := hq ha
      simp only at hi
      rw [hi, List.append_cons] at hq'
      exact ⟨hq' ▸ List.prefix_append .., fun _ => hq'⟩
    | dropped he ht ha =>
      rw [enqueued_none he, taken_none ht]
      exact ⟨hp, fun h => absurd (ha.symm.trans h) (by decide)⟩

end MessageBus.Session
