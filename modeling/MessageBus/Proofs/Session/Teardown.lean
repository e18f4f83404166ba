import MessageBus.Proofs.Session.OneFailure
import MessageBus.Proofs.Session.Requests
import MessageBus.Session.Clock
/-!
# The end of a cancelled session

`teardown_completes`: once the canceller has given its signal, a session whose consumer does nothing more
comes to its end, whatever its service does. No task waits for anything but another task of the session, and
every step of a task uses up some of its `work`. Neither needs the clock: what the tasks do at once is enough.
`ended_then_cancelled` says when the signal comes, for a stream that has ended.
-/
namespace MessageBus
set_option autoImplicit false
open Telemetry (Metric)

/-! ## Calls -/

namespace Call

/-- At most so many steps are left to a call in this phase after the signal. -/
def Phase.work : Phase → Nat
  | .checking => 1
  | .pausing | .receiving => 2
  | .sending => 3
  | .dialing => 4

theorem Phase.work_pos (phase : Phase) : 0 < phase.work := by
  cases phase <;> decide

/-- After the signal every step brings a call nearer to its end, since it begins no attempt. -/
theorem Move.work_lt {c c' : Client} {call call' : Call} {e : Event} {ms : List Metric}
    (h : Move true c call e (.running c' call') ms) : call'.phase.work < call.phase.work := by
  cases h with
  | reuses _ _ hf | dials _ _ hf => cases hf
  | dialed hp | undialed hp | rested hp | sent hp => simp [hp, Phase.work]
  | failed he =>
    cases hp : call.phase with
    | sending | receiving => simp [Phase.work]
    | checking | dialing | pausing =>
      rw [hp] at he
      cases he

end Call

namespace Session

/-! ## Work -/

def Driver.work : Driver → Nat
  | .starting => 10
  | .connecting _ => 9
  | .settling => 8
  | .subscribing _ call => call.phase.work + 6
  | .failing _ | .following => 2
  | .closing | .joining => 1
  | .finished => 0

def Heartbeat.work : Heartbeat → Nat
  | .starting _ => 2
  | .beating _ call => call.phase.work + 1
  | .resting _ | .reporting _ => 1
  | .absent | .finished => 0

def Receiver.work : Receiver → Nat
  | .listening => 2
  | .forwarding _ _ => 1
  | .absent | .finished => 0

/-- At most so many steps are left to the tasks after the signal. A receiver listens again only after it has
filled a place in the inbox. -/
def work (s : Session) : Nat :=
  s.driver.work + s.heartbeat.work + s.receiver.work + 2 * (s.plan.room - s.inbox.length)

section Work
variable {s s' : Session} {ms : List Metric}

/-- Whatever phase the handshake is in, it outweighs the tasks that may follow it. -/
theorem work_handOver {client client' : Client} {call : Call} (hst : Staged s)
    (hd : s.driver = .subscribing client call) : (s.handOver client').work < s.work := by
  rw [Staged, hd] at hst
  have hpos : 0 < call.phase.work := call.phase.work_pos
  have hbefore : s.work = call.phase.work + 6 + 2 * (s.plan.room - s.inbox.length) := by
    simp only [work, hd, hst.1, hst.2, Driver.work, Heartbeat.work, Receiver.work, Nat.add_zero]
  have hafter : (s.handOver client').work = 2 + 2 + 2 + 2 * (s.plan.room - s.inbox.length) := rfl
  omega

theorem work_driver {e : DriverEvent} (hc : s.cancelled = true) (hst : Staged s)
    (hm : DriverMove s e s' ms) : s'.work < s.work := by
  cases hm with
  | opens hd | portless hd | connected hd | unconnected hd | overdue hd | settled hd | keepsBack hd
  | closed hd | followed hd | joined hd => simp [work, hd, Driver.work, Call.start, Call.Phase.work]
  | calls hd hs =>
    rw [hc] at hs
    have hless := (Call.step_move hs).work_lt
    simp only [work, hd, Driver.work]
    omega
  | subscribed hd => exact work_handOver hst hd
  | abandoned hd | unsubscribed hd =>
    simp only [work, hd, Driver.work]
    omega
  | tells hd ha hr =>
    simp only [work, hd, Driver.work, List.length_append, List.length_singleton]
    omega
  | stopped hd =>
    obtain hd | ⟨target, hd⟩ := hd
    · simp [work, hd, Driver.work]
    · simp [work, hd, Driver.work]

theorem work_heartbeat {e : HeartbeatEvent} (hc : s.cancelled = true) (hm : HeartbeatMove s e s' ms) :
    s'.work < s.work := by
  cases hm with
  | ticked hb hn => cases hc.symm.trans hn
  | calls hb hs =>
    rw [hc] at hs
    have hless := (Call.step_move hs).work_lt
    simp only [work, hb, Heartbeat.work]
    omega
  | @beaten _ _ call _ _ _ hb | @unbeaten _ _ call _ _ _ hb =>
    have hpos : 0 < call.phase.work := call.phase.work_pos
    simp only [work, hb, Heartbeat.work]
    omega
  | begins hb | breaks hb | abandoned hb | reported hb | stopped hb =>
    simp only [work, hb, Heartbeat.work]
    omega

theorem work_receiver {e : ReceiverEvent} (hm : ReceiverMove s e s' ms) : s'.work < s.work := by
  cases hm with
  | broken hr | malformed hr | heard hr | alerted hr | deserted hr | stopped hr | keepsBack hr =>
    simp [work, hr, Receiver.work]
  | passes hr ha hroom | tells hr ha hroom =>
    simp only [work, hr, Receiver.work, List.length_append, List.length_singleton]
    omega

theorem work_move {e : Event} (hc : s.cancelled = true) (hst : Staged s) (he : ∀ c, e ≠ .consumer c)
    (hm : Move s e s' ms) : s'.work < s.work := by
  cases hm with
  | driver hm => exact work_driver hc hst hm
  | heartbeat hm => exact work_heartbeat hc hm
  | receiver hm => exact work_receiver hm
  | consumer hm => exact absurd rfl (he _)

/-- The consumer does nothing. -/
def Unattended (trace : List Transition) : Prop := ∀ t ∈ trace, ∀ e, t.event ≠ .consumer e

theorem work_steps {trace : List Transition} (hc : s.cancelled = true) (hst : Staged s)
    (hs : Steps s trace s') (hu : Unattended trace) :
    s'.cancelled = true ∧ Staged s' ∧ trace.length + s'.work ≤ s.work := by
  -- The signal stays and so does the order of the tasks, so that every step uses up some work.
  induction hs with
  | none => exact ⟨hc, hst, by simp⟩
  | @step trace s₁ s₂ e ms _ hs ih =>
    obtain ⟨hc₁, hst₁, hle⟩ := ih fun t ht => hu t (List.mem_append_left _ ht)
    have hm := step_move hs
    have hless := work_move hc₁ hst₁ (hu _ (List.mem_append_right _ List.mem_cons_self)) hm
    refine ⟨cancelled_mono hm hc₁, staged_move hst₁ hm, ?_⟩
    rw [List.length_append, List.length_singleton]
    omega

end Work

/-! ## What a task does at once -/

section Prompt
variable {s : Session}

theorem hand_way {way : Handover} (h : s.way? = some way) (b : Broadcast) : (s.hand b way).isSome = true := by
  unfold way? at h
  split at h
  · next ha =>
    cases h
    simp only [Bool.not_eq_true'] at ha
    simp [hand, ha]
  · next ha =>
    simp only [Bool.not_eq_true', Bool.not_eq_false] at ha
    split at h
    · next hroom =>
      cases h
      simp [hand, ha, hroom]
    · split at h
      · next hc =>
        cases h
        simp [hand, hc]
      · cases h

theorem promptCall_enabled {call : Call} {e : Call.Event} (h : s.promptCall? call = some e)
    (client : Client) : (call.step s.cancelled client e).isSome = true := by
  unfold promptCall? at h
  split at h
  · next hp =>
    cases h
    simp [Call.step, hp]
  · next hp =>
    split at h
    · next hc =>
      cases h
      cases hphase : call.phase with
      | checking => exact absurd hphase hp
      | dialing | pausing | sending | receiving => simp [Call.step, hphase, hc]
    · cases h

theorem promptDriver_enabled {e : DriverEvent} (h : s.promptDriver? = some e) :
    (s.driverStep e).isSome = true := by
  unfold promptDriver? at h
  split at h
  · next hd =>
    cases h
    simp only [driverStep, hd]
    split <;> rfl
  · next hd =>
    split at h
    · next hc =>
      cases h
      simp [driverStep, hd, hc]
    · cases h
  · next hd =>
    split at h
    · next hc =>
      cases h
      simp [driverStep, hd, hc]
    · cases h
  · next client call hd =>
    obtain ⟨ce, hce, rfl⟩ := Option.map_eq_some_iff.mp h
    simpa [driverStep, hd] using promptCall_enabled hce client
  · next b hd =>
    obtain ⟨way, hw, rfl⟩ := Option.map_eq_some_iff.mp h
    simpa [driverStep, hd] using hand_way hw b
  · next hd =>
    cases h
    simp [driverStep, hd]
  · next hd =>
    split at h
    · next hr =>
      cases h
      simp [driverStep, hd, hr]
    · cases h
  · next hd =>
    split at h
    · next hb =>
      cases h
      simp [driverStep, hd, hb]
    · cases h
  · cases h

theorem promptHeartbeat_enabled {e : HeartbeatEvent} (h : s.promptHeartbeat? = some e) :
    (s.heartbeatStep e).isSome = true := by
  unfold promptHeartbeat? at h
  split at h
  · next hb =>
    cases h
    simp [heartbeatStep, hb]
  · next hb =>
    split at h
    · next hc =>
      cases h
      simp [heartbeatStep, hb, hc]
    · cases h
  · next client call hb =>
    obtain ⟨ce, hce, rfl⟩ := Option.map_eq_some_iff.mp h
    simpa [heartbeatStep, hb] using promptCall_enabled hce client
  · next hb =>
    cases h
    simp [heartbeatStep, hb]
  · cases h
  · cases h

theorem promptReceiver_enabled {e : ReceiverEvent} (h : s.promptReceiver? = some e) :
    (s.receiverStep e).isSome = true := by
  unfold promptReceiver? at h
  split at h
  · next hr =>
    split at h
    · next hc =>
      cases h
      simp [receiverStep, hr, hc]
    · split at h
      · next ha =>
        cases h
        simpa [receiverStep, hr] using ha
      · next ha =>
        split at h
        · next hb =>
          cases h
          simp at ha
          simp [receiverStep, hr, hb, ha]
        · cases h
  · next b _ hr =>
    obtain ⟨way, hw, rfl⟩ := Option.map_eq_some_iff.mp h
    simpa [receiverStep, hr] using hand_way hw b
  · cases h
  · cases h

theorem prompt_enabled {e : Event} (h : s.prompt? = some e) : (s.step e).isSome = true := by
  obtain hd | ⟨-, h⟩ := Option.or_eq_some_iff.mp h
  · obtain ⟨de, hde, rfl⟩ := Option.map_eq_some_iff.mp hd
    exact promptDriver_enabled hde
  · obtain hb | ⟨-, h⟩ := Option.or_eq_some_iff.mp h
    · obtain ⟨be, hbe, rfl⟩ := Option.map_eq_some_iff.mp hb
      exact promptHeartbeat_enabled hbe
    · obtain ⟨re, hre, rfl⟩ := Option.map_eq_some_iff.mp h
      exact promptReceiver_enabled hre

/-! ## Nobody waits -/

theorem way_of_cancelled (hc : s.cancelled = true) : ∃ way, s.way? = some way := by
  unfold way?
  rw [if_pos hc]
  split
  · exact ⟨_, rfl⟩
  · split
    · exact ⟨_, rfl⟩
    · exact ⟨_, rfl⟩

/-- The signal reaches a call in the middle of an exchange. -/
theorem promptCall_of_cancelled (hc : s.cancelled = true) (call : Call) :
    ∃ e, s.promptCall? call = some e := by
  unfold promptCall?
  rw [if_pos hc]
  split
  · exact ⟨_, rfl⟩
  · exact ⟨_, rfl⟩

theorem promptHeartbeat_of_cancelled (hc : s.cancelled = true) (ha : s.heartbeat ≠ .absent)
    (hf : s.heartbeat ≠ .finished) : ∃ e, s.promptHeartbeat? = some e := by
  unfold promptHeartbeat?
  rw [if_pos hc]
  cases hb : s.heartbeat with
  | absent => exact absurd hb ha
  | finished => exact absurd hb hf
  | starting | resting | reporting => exact ⟨_, rfl⟩
  | beating client call =>
    obtain ⟨e, he⟩ := promptCall_of_cancelled hc call
    exact ⟨.beat e, by simp [he]⟩

theorem promptReceiver_of_cancelled (hc : s.cancelled = true) (hr : s.receiver.running = true) :
    ∃ e, s.promptReceiver? = some e := by
  unfold promptReceiver?
  rw [if_pos hc]
  cases hb : s.receiver with
  | absent | finished =>
    rw [hb] at hr
    cases hr
  | listening => exact ⟨_, rfl⟩
  | forwarding b remote =>
    obtain ⟨way, hw⟩ := way_of_cancelled hc
    exact ⟨.handed way, by simp [hw]⟩

/-- The driver waits for nothing but the receiver and then the heartbeat task. -/
theorem promptDriver_of_cancelled (hc : s.cancelled = true) (hst : Staged s) (hf : s.driver ≠ .finished) :
    (∃ e, s.promptDriver? = some e) ∨ s.driver = .following ∧ s.receiver.running = true ∨
      s.driver = .joining ∧ s.heartbeat ≠ .absent ∧ s.heartbeat ≠ .finished := by
  unfold promptDriver?
  simp only [if_pos hc]
  rw [Staged] at hst
  cases hd : s.driver with
  | finished => exact absurd hd hf
  | starting | connecting | settling | closing => exact .inl ⟨_, rfl⟩
  | subscribing client call =>
    obtain ⟨e, he⟩ := promptCall_of_cancelled hc call
    exact .inl ⟨.subscribe e, by simp [he]⟩
  | failing b =>
    obtain ⟨way, hw⟩ := way_of_cancelled hc
    exact .inl ⟨.handed way, by simp [hw]⟩
  | following =>
    rw [hd] at hst
    cases hr : s.receiver with
    | absent => exact absurd hr hst.2
    | finished => exact .inl ⟨.followed, by simp⟩
    | listening | forwarding => exact .inr (.inl ⟨rfl, rfl⟩)
  | joining =>
    rw [hd] at hst
    by_cases hb : s.heartbeat = .finished
    · exact .inl ⟨.joined, by simp [hb]⟩
    · exact .inr (.inr ⟨rfl, hst.1, hb⟩)

/-- After the signal some task goes on, unless all have ended. -/
theorem prompt_of_cancelled (hc : s.cancelled = true) (hst : Staged s) (hn : s.done = false) :
    ∃ e, s.prompt? = some e := by
  have hdriver : s.driver ≠ .finished := by
    intro hd
    rw [Staged, hd] at hst
    obtain ⟨hb, hr⟩ | ⟨hb, hr⟩ := hst
    · simp [done, hd, hb, hr] at hn
    · simp [done, hd, hb, hr] at hn
  rw [← Option.isSome_iff_exists, prompt?, Option.isSome_or, Option.isSome_or, Option.isSome_map,
    Option.isSome_map, Option.isSome_map, Bool.or_eq_true_iff, Bool.or_eq_true_iff]
  obtain he | ⟨-, hr⟩ | ⟨-, ha, hf⟩ := promptDriver_of_cancelled hc hst hdriver
  · exact .inl (Option.isSome_iff_exists.mpr he)
  · exact .inr (.inr (Option.isSome_iff_exists.mpr (promptReceiver_of_cancelled hc hr)))
  · exact .inr (.inl (Option.isSome_iff_exists.mpr (promptHeartbeat_of_cancelled hc ha hf)))

end Prompt

/-! ## The slot -/

/-- Only a heartbeat task that has ended has used the slot. -/
theorem control_move {s s' : Session} {e : Event} {ms : List Metric} (hst : Staged s)
    (h : s.control ≠ none → s.heartbeat = .finished) (hm : Move s e s' ms) :
    s'.control ≠ none → s'.heartbeat = .finished := by
  cases hm with
  | driver hm =>
    cases hm with
    | subscribed hd =>
      intro hslot
      rw [Staged, hd] at hst
      exact absurd ((h hslot).symm.trans hst.1) (by decide)
    | _ => exact h
  | heartbeat hm =>
    cases hm with
    | breaks | abandoned | reported | stopped => exact fun _ => rfl
    | begins hb | ticked hb | calls hb | beaten hb | unbeaten hb =>
      intro hslot
      cases (h hslot).symm.trans hb
  | receiver hm =>
    cases hm with
    | alerted => exact fun hslot => absurd rfl hslot
    | _ => exact h
  | consumer hm => cases hm <;> exact h

theorem Run.control {plan : Plan} {trace : List Transition} {s : Session} (h : Run plan trace s) :
    s.control ≠ none → s.heartbeat = .finished := by
  induction h with
  | none => exact fun hslot => absurd rfl hslot
  | step h hs ih => exact control_move (Run.staged h) ih (step_move hs)

/-! ## The end of the stream -/

theorem stopped_move {s s' : Session} {e : Event} {ms : List Metric}
    (h : s.driver = .joining ∨ s.driver = .finished → s.cancelled = true) (hm : Move s e s' ms) :
    s'.driver = .joining ∨ s'.driver = .finished → s'.cancelled = true := by
  cases hm with
  | driver hm =>
    cases hm with
    | abandoned hd hs => exact fun _ => call_fired hs
    | stopped _ hc => exact fun _ => hc
    | closed | followed => exact fun _ => rfl
    | joined hd => exact fun _ => h (.inl hd)
    | _ => simp [handOver]
  | heartbeat hm => cases hm <;> exact h
  | receiver hm => cases hm <;> exact h
  | consumer hm =>
    cases hm with
    | cancelled => exact fun _ => rfl
    | detached | took => exact h

theorem Run.stopped {plan : Plan} {trace : List Transition} {s : Session} (h : Run plan trace s) :
    s.driver = .joining ∨ s.driver = .finished → s.cancelled = true := by
  induction h with
  | none => simp [start]
  | step _ hs ih => exact stopped_move ih (step_move hs)

/-- A stream that has ended is cancelled, or its receiver has ended just now and what the driver does at once
is to cancel it. -/
theorem ended_then_cancelled {plan : Plan} {trace : List Transition} {s : Session} (h : Run plan trace s)
    (he : s.ended = true) : s.cancelled = true ∨ s.driver = .following ∧ s.receiver = .finished ∧
      s.promptDriver? = some .followed ∧
      s.driverStep .followed = some ({ s with cancelled := true, driver := .joining }, []) := by
  have hclosed : s.isOpen = false := by
    simp only [ended, Bool.and_eq_true, Bool.not_eq_true'] at he
    exact he.2
  have hst : Staged s := h.staged
  rw [Staged] at hst
  cases hd : s.driver with
  | following =>
    rw [hd] at hst
    rw [isOpen, hd] at hclosed
    cases hr : s.receiver with
    | absent => exact absurd hr hst.2
    | listening | forwarding =>
      rw [hr] at hclosed
      cases hclosed
    | finished => exact .inr ⟨rfl, rfl, by simp [promptDriver?, hd, hr], by simp [driverStep, hd, hr]⟩
  | joining => exact .inl (h.stopped (.inl hd))
  | finished => exact .inl (h.stopped (.inr hd))
  | _ => simp [isOpen, hd] at hclosed

/-! ## The end -/

/-- No task of a session waits for anything but another of its tasks: one that is there can go on at once,
or it is the driver and waits for the receiver or, after that, for the heartbeat task. The slot is free when
the heartbeat task comes to use it. -/
structure Unblocked (s : Session) : Prop where
  heartbeat : s.heartbeat ≠ .absent → s.heartbeat ≠ .finished →
    ∃ e, s.promptHeartbeat? = some e ∧ (s.heartbeatStep e).isSome = true
  receiver : s.receiver.running = true →
    ∃ e, s.promptReceiver? = some e ∧ (s.receiverStep e).isSome = true
  driver : s.driver ≠ .finished → (∃ e, s.promptDriver? = some e ∧ (s.driverStep e).isSome = true) ∨
    s.driver = .following ∧ s.receiver.running = true ∨
      s.driver = .joining ∧ s.heartbeat ≠ .absent ∧ s.heartbeat ≠ .finished
  slot : ∀ e, s.heartbeat = .reporting e → s.control = none

theorem Run.unblocked {plan : Plan} {trace : List Transition} {s : Session} (h : Run plan trace s)
    (hc : s.cancelled = true) : Unblocked s where
  heartbeat := by
    intro ha hf
    obtain ⟨e, he⟩ := promptHeartbeat_of_cancelled hc ha hf
    exact ⟨e, he, promptHeartbeat_enabled he⟩
  receiver := by
    intro hr
    obtain ⟨e, he⟩ := promptReceiver_of_cancelled hc hr
    exact ⟨e, he, promptReceiver_enabled he⟩
  driver := by
    intro hf
    obtain ⟨e, he⟩ | hwaits := promptDriver_of_cancelled hc h.staged hf
    · exact .inl ⟨e, he, promptDriver_enabled he⟩
    · exact .inr hwaits
  slot := by
    intro e hb
    cases hslot : s.control with
    | none => rfl
    | some why =>
      have hended : s.heartbeat = .finished := h.control (by simp [hslot])
      cases hended.symm.trans hb

theorem step_of_done {s : Session} (h : s.done = true) {e : Event} (he : ∀ c, e ≠ .consumer c) :
    s.step e = none := by
  have hend : s.driver = .finished ∧ (s.heartbeat = .absent ∨ s.heartbeat = .finished) ∧
      (s.receiver = .absent ∨ s.receiver = .finished) := by
    unfold done at h
    split at h
    · next hd hb hr => exact ⟨hd, .inl hb, .inl hr⟩
    · next hd hb hr => exact ⟨hd, .inr hb, .inr hr⟩
    · cases h
  obtain ⟨hd, hb, hr⟩ := hend
  cases e with
  | driver e => simp [step, driverStep, hd]
  | heartbeat e =>
    obtain hb | hb := hb
    · simp [step, heartbeatStep, hb]
    · simp [step, heartbeatStep, hb]
  | receiver e =>
    obtain hr | hr := hr
    · simp [step, receiverStep, hr]
    · simp [step, receiverStep, hr]
  | consumer c => exact absurd rfl (he c)

theorem prompt_not_consumer {s : Session} {e : Event} (h : s.prompt? = some e) (c : ConsumerEvent) :
    e ≠ .consumer c := by
  rintro rfl
  simp [prompt?, Option.or_eq_some_iff] at h

/-- After the signal, and while the consumer does nothing more, the tasks of a session take only so many
steps as there is work left, whatever sockets, clock and source bring. In every state that they come to some
task can go on at once, without its surroundings, unless all have ended, and where no task can take a step
all have ended. -/
theorem teardown_completes {plan : Plan} {trace more : List Transition} {s s' : Session}
    (h : Run plan trace s) (hc : s.cancelled = true) (hs : Steps s more s') (hu : Unattended more) :
    more.length + s'.work ≤ s.work ∧ Unblocked s' ∧
      (s'.done = false → ∃ e, s'.prompt? = some e ∧ (s'.step e).isSome = true) ∧
      (s'.done = true ↔ ∀ e, (∀ c, e ≠ .consumer c) → s'.step e = none) := by
  obtain ⟨hc', hst', hwork⟩ := work_steps hc h.staged hs hu
  have hrun : Run plan (trace ++ more) s' := h.trans hs
  have hgoes : s'.done = false → ∃ e, s'.prompt? = some e ∧ (s'.step e).isSome = true := by
    intro hn
    obtain ⟨e, he⟩ := prompt_of_cancelled hc' hst' hn
    exact ⟨e, he, prompt_enabled he⟩
  refine ⟨hwork, hrun.unblocked hc', hgoes, fun hd e he => step_of_done hd he, fun hstuck => ?_⟩
  cases hd : s'.done with
  | true => rfl
  | false =>
    obtain ⟨e, he, hsome⟩ := hgoes hd
    rw [hstuck e (prompt_not_consumer he)] at hsome
    cases hsome

/-- A session whose consumer has room for one broadcast. -/
def cramped : Plan where
  endpoint := ⟨"indexer", "memory", 4000, some 4001, none⟩
  address := "sub-3"
  transport := .default
  timing := ⟨.ofSecs 2, .ofMillis 100, 1⟩
  filter := .empty

def idle : Broadcast := ⟨"idle", .ok .empty, by decide⟩

/-- The inbox is full, the receiver has one more broadcast in its hands and the heartbeat task waits for a
reply when the consumer cancels. -/
def crowded : List Event :=
  [.driver .started, .driver .connected, .driver .settled, .driver (.subscribe .begin),
    .driver (.subscribe (.dialed 0)), .driver (.subscribe .sent),
    .driver (.subscribe (.received (Reply.ok .empty).encode)), .receiver (.heard (.ok idle.encode)),
    .receiver (.handed .accepted), .receiver (.heard (.ok idle.encode)), .heartbeat (.started ⟨0⟩),
    .heartbeat .ticked, .heartbeat (.beat .begin), .heartbeat (.beat .sent), .consumer .cancelled]

def leaving : List Event :=
  [.receiver (.handed .withdrawn), .heartbeat (.beat .cancelled), .driver .followed, .driver .joined]

theorem teardown_completes_crowded :
    ∃ trace s more s', Run cramped trace s ∧ s.cancelled = true ∧ s.inbox.length = cramped.room ∧
      s.receiver.running = true ∧ Steps s more s' ∧ Unattended more ∧ more.length = 4 ∧
      more.length + s'.work ≤ s.work ∧ s'.done = true ∧
      ∀ e, (∀ c, e ≠ .consumer c) → s'.step e = none := by
  have hread : ((follow Session.step (.start cramped) crowded).bind fun r =>
      (follow Session.step r.2 leaving).map fun q =>
        (r.2.cancelled, r.2.inbox.length, r.2.receiver.running, q.2.done)) = some (true, 1, true, true) := by
    decide +kernel
  obtain ⟨⟨history, s⟩, hfollow, hread⟩ := Option.bind_eq_some_iff.mp hread
  obtain ⟨⟨ending, s'⟩, hending, hread⟩ := Option.map_eq_some_iff.mp hread
  obtain ⟨hc, hread⟩ := Prod.mk.inj hread
  obtain ⟨hfull, hread⟩ := Prod.mk.inj hread
  obtain ⟨hrunning, hdone⟩ := Prod.mk.inj hread
  have hevents : ending.map Occurrence.event = leaving := follow_events hending
  have hquiet : ∀ e ∈ leaving, ∀ c, e ≠ .consumer c := by simp [leaving]
  have hunattended : Unattended (ending.map Transition.of) := Transition.event_of_mem hevents hquiet
  have hrun : Run cramped (history.map Transition.of) s := Steps.of_history (.of_follow hfollow)
  have hsteps : Steps s (ending.map Transition.of) s' := Steps.of_history (.of_follow hending)
  obtain ⟨hwork, -, -, hstops⟩ := teardown_completes hrun hc hsteps hunattended
  have hlength : (ending.map Transition.of).length = 4 := by
    simpa [leaving] using congrArg List.length hevents
  exact ⟨_, s, _, s', hrun, hc, hfull, hrunning, hsteps, hunattended, hlength, hwork, hdone, hstops.mp hdone⟩

end Session
end MessageBus
