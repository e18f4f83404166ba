import MessageBus.Proofs.Command.Faults
import MessageBus.Proofs.Network.Exchange
import MessageBus.Proofs.Session.Cancelling
import MessageBus.Simulation.Offline
/-!
# Execution of commands

A command with a job makes its call, or follows a session as its consumer: it takes one broadcast after the
other until it has seen enough, the session has ended, or it is interrupted. Dialer, sockets and source do what
they like. `faults_end_commands`: a faulty command ends at once with code 2. A subscription to a service
without broadcasts is no fault of that kind: its session finds out, and the command ends with code 1. One with
more room than a channel can have breaks down. None of these opens a connection, and every other command may.
-/
namespace MessageBus
set_option autoImplicit false

/-- The address that a session is opening a connection to. -/
def Session.contact? (s : Session) : Option String :=
  match s.driver, s.call? with
  | .connecting target, _ => some target.url
  | _, some (client, call) => if call.phase = .dialing then some client.endpoint.url else none
  | _, none => none

namespace Command

inductive Execution
  | calling (client : Client) (call : Call)
  /-- Following a session, of which these broadcasts were taken. -/
  | following (count : Option Nat) (session : Session) (taken : List Broadcast)
  | finished (o : Outcome)
  /-- Broken down before there was a session. -/
  | crashed

namespace Execution

inductive Event
  | call (e : Call.Event)
  /-- A task of the session goes on. -/
  | task (e : Session.Event)
  /-- The command takes the next broadcast. -/
  | took
  /-- The command notices that the session has ended. -/
  | ended
  | interrupted

/-! ## Steps -/

def start : Except Failure Job → Execution
  | .error e => .finished (.ofFailure e)
  | .ok (.print text) => .finished ⟨0, text, []⟩
  | .ok (.call client request) => .calling client (.start request)
  | .ok (.follow plan count) => if plan.fits then .following count (.start plan) [] else .crashed

/-- How a call goes on. -/
def called : Call.Progress → Execution
  | .running client call => .calling client call
  | .finished _ result => .finished (.ofCall result)

/-- The end of a command that followed a session. -/
def concluded (count : Option Nat) (s : Session) (taken : List Broadcast) : Execution :=
  .finished (.ofBroadcasts s.plan.endpoint.name count 0 taken)

/-- Goes on unless the last of the broadcasts failed, or they are as many as were asked for. -/
def received (count : Option Nat) (s : Session) (taken : List Broadcast) (b : Broadcast) : Execution :=
  if !b.isOk || count.any (· ≤ taken.length + 1) then concluded count s (taken ++ [b])
  else .following count s (taken ++ [b])

/-- What an event makes of an execution; `none` if it cannot happen now. -/
def step : Execution → Event → Option (Execution × Unit)
  | .calling client call, .call e => (call.step false client e).map fun r => (called r.1, ())
  | .following _ _ _, .task (.consumer _) => none
  | .following count s taken, .task e => (s.step e).map fun r => (.following count r.1 taken, ())
  | .following count s taken, .took =>
    match s.inbox, s.step (.consumer .took) with
    | b :: _, some (s, _) => some (received count s taken b, ())
    | _, _ => none
  | .following count s taken, .ended => if s.ended then some (concluded count s taken, ()) else none
  | .following count s taken, .interrupted => some (concluded count s taken, ())
  | _, _ => none

abbrev Deed := Occurrence Execution Event Unit

/-- What can happen to a command. -/
def Run (job : Except Failure Job) : List Deed → Execution → Prop := Occurs step (start job)

/-- The address that a connection is being opened to. -/
def contact? : Execution → Option String
  | .calling client call => if call.phase = .dialing then some client.endpoint.url else none
  | .following _ s _ => s.contact?
  | .finished _ | .crashed => none

/-- What a command that is over has left. -/
def outcome? : Execution → Option Outcome
  | .finished o => some o
  | .calling _ _ | .following _ _ _ | .crashed => none

theorem eq_finished_of_outcome? {s : Execution} {o : Outcome} (h : s.outcome? = some o) : s = .finished o := by
  cases s with
  | finished => exact congrArg _ (Option.some.inj h)
  | _ => cases h

/-- A connection was to be opened, if in vain. -/
def Contacts (history : List Deed) : Prop := ∃ o ∈ history, o.after.contact?.isSome = true

/-- What is over stays as it is. -/
theorem run_over {job : Except Failure Job} {history : List Deed} {s s₀ : Execution} (hstart : start job = s₀)
    (hover : ∀ e, s₀.step e = none) (h : Run job history s) : history = [] ∧ s = s₀ := by
  induction h with
  | nothing => exact ⟨rfl, hstart⟩
  | next _ hs ih =>
    rw [ih.2, hover] at hs
    cases hs

theorem start_follow {plan : Session.Plan} (hf : plan.fits = true) (count : Option Nat) :
    start (.ok (.follow plan count)) = .following count (.start plan) [] := if_pos hf

theorem not_contacts_nil : ¬Contacts [] := fun ⟨_, ho, _⟩ => nomatch ho

theorem not_contacts_concat {history : List Deed} {o : Deed} (h : ¬Contacts history)
    (ho : o.after.contact? = none) : ¬Contacts (history ++ [o]) := by
  rintro ⟨o', ho', hcontact⟩
  rcases List.mem_append.mp ho' with hearlier | hlast
  · exact h ⟨o', hearlier, hcontact⟩
  · rw [List.mem_singleton.mp hlast, ho] at hcontact
    cases hcontact

/-! ## Services without broadcasts -/

/-- How following a service that does not broadcast ends. -/
def stranded (service : String) : Outcome :=
  ⟨1, "", ["error: subscription to " ++ service ++ " ended: service '" ++ service ++ "' has no broadcast port"]⟩

section Portless
variable {plan : Session.Plan} {count : Option Nat}

/-- What a session with such a service tells its consumer. -/
def told (plan : Session.Plan) : Broadcast := plan.failure (.noBroadcasts (.noBroadcastPort plan.endpoint.name))

theorem concluded_told (s : Session) (count : Option Nat) :
    concluded count s [told s.plan] = .finished (stranded s.plan.endpoint.name) := by
  simp only [concluded, Outcome.ofBroadcasts, Outcome.ofFailure, Failure.report, told, stranded,
    String.append_assoc]
  rfl

/-- What the driver of such a session is doing after some steps of its tasks, of which they take three. -/
def driverAfter (plan : Session.Plan) : Nat → Session.Driver
  | 0 => .starting
  | 1 => .failing (told plan)
  | 2 => .closing
  | _ => .finished

def sessionAfter (plan : Session.Plan) (steps : Nat) : Session :=
  { Session.start plan with
    driver := driverAfter plan steps
    inbox := if steps < 2 then [] else [told plan]
    cancelled := 2 < steps }

theorem sessionAfter_contact? (plan : Session.Plan) (k : Nat) : (sessionAfter plan k).contact? = none := by
  match k with
  | 0 | 1 | 2 | k + 3 => rfl

theorem sessionAfter_ended (plan : Session.Plan) (k : Nat) : (sessionAfter plan k).ended = false := by
  match k with
  | 0 | 1 | 2 | k + 3 => rfl

theorem broadcast_of_portless (hp : plan.endpoint.broadcastPort = none) :
    plan.endpoint.broadcast = .error (.noBroadcastPort plan.endpoint.name) := by
  rw [Endpoint.broadcast, hp]

theorem driver_next (hp : plan.endpoint.broadcastPort = none) {k : Nat} {d : Session.DriverEvent} {s : Session}
    {metrics : List Telemetry.Metric} (h : Session.DriverMove (sessionAfter plan k) d s metrics) :
    k < 3 ∧ s = sessionAfter plan (k + 1) := by
  match k with
  | 0 =>
    cases h with
    | opens _ ht => cases (broadcast_of_portless hp).symm.trans ht
    | portless _ hfault =>
      cases (broadcast_of_portless hp).symm.trans hfault
      exact ⟨by decide, rfl⟩
    | stopped _ hc => cases hc
    | _ hd => cases hd
  | 1 =>
    cases h with
    | @tells b hd =>
      obtain rfl : told plan = b := Session.Driver.failing.inj hd
      exact ⟨by decide, rfl⟩
    | keepsBack _ hg => cases hg <;> contradiction
    | stopped _ hc => cases hc
    | _ hd => cases hd
  | 2 =>
    cases h with
    | closed => exact ⟨by decide, rfl⟩
    | stopped _ hc => cases hc
    | _ hd => cases hd
  | k + 3 =>
    cases h with
    | stopped hd => rcases hd with hd | ⟨_, hd⟩ <;> cases hd
    | _ hd => cases hd

theorem exists_driver_move (hp : plan.endpoint.broadcastPort = none) {k : Nat} (hk : k < 3) :
    ∃ d s metrics, Session.DriverMove (sessionAfter plan k) d s metrics := by
  match k with
  | 0 => exact ⟨_, _, _, .portless rfl (broadcast_of_portless hp)⟩
  | 1 => exact ⟨_, _, _, .tells rfl rfl plan.room_pos⟩
  | 2 => exact ⟨_, _, _, .closed rfl⟩

/-- Heartbeat task and receiver are not there yet. -/
theorem task_next (hp : plan.endpoint.broadcastPort = none) {k : Nat} {e : Session.Event} {s : Session}
    {metrics : List Telemetry.Metric} (he : ∀ c, e ≠ .consumer c)
    (h : (sessionAfter plan k).step e = some (s, metrics)) : k < 3 ∧ s = sessionAfter plan (k + 1) := by
  cases Session.step_move h with
  | driver hm => exact driver_next hp hm
  | heartbeat hm => cases hm <;> contradiction
  | receiver hm => cases hm <;> contradiction
  | consumer => exact absurd rfl (he _)

theorem step_following (hp : plan.endpoint.broadcastPort = none) {k : Nat} {e : Event} {s : Execution}
    {out : Unit} (h : step (.following count (sessionAfter plan k) []) e = some (s, out)) :
    (k < 3 ∧ s = .following count (sessionAfter plan (k + 1)) []) ∨
      s = .finished (stranded plan.endpoint.name) ∨ e = .interrupted ∧ s = .finished ⟨0, "", []⟩ := by
  cases e with
  | call => cases h
  | task e =>
    have he : ∀ c, e ≠ .consumer c := by
      rintro c rfl
      cases h
    have hs : ((sessionAfter plan k).step e).map (fun r => (following count r.1 [], ())) = some (s, out) := by
      cases e with
      | consumer c => exact absurd rfl (he c)
      | _ => exact h
    obtain ⟨⟨s', metrics⟩, hnext, heq⟩ := Option.map_eq_some_iff.mp hs
    obtain ⟨hk, rfl⟩ := task_next hp he hnext
    cases heq
    exact .inl ⟨hk, rfl⟩
  | took =>
    simp only [step] at h
    split at h
    · next b rest s' metrics hinbox hnext =>
      obtain rfl : told plan = b := by
        simp only [sessionAfter] at hinbox
        split at hinbox
        · cases hinbox
        · exact (List.cons.inj hinbox).1
      have hplan : s'.plan = plan := Session.move_plan (Session.step_move hnext)
      cases h
      refine .inr (.inl ?_)
      rw [← hplan]
      exact concluded_told s' count
    · cases h
  | ended =>
    simp only [step, sessionAfter_ended] at h
    cases h
  | interrupted =>
    cases h
    exact .inr (.inr ⟨rfl, rfl⟩)

/-- How far a command that follows such a session can have come. -/
inductive Stage (plan : Session.Plan) (count : Option Nat) : List Deed → Execution → Prop
  | following {history : List Deed} {k : Nat} (h : history.length = k) (hk : k ≤ 3) :
      Stage plan count history (.following count (sessionAfter plan k) [])
  | stranded {history : List Deed} (h : history.length ≤ 4) :
      Stage plan count history (.finished (stranded plan.endpoint.name))
  | interrupted {history : List Deed} (h : history.length ≤ 4) (hi : ∃ o ∈ history, o.event = .interrupted) :
      Stage plan count history (.finished ⟨0, "", []⟩)

theorem Stage.next (hp : plan.endpoint.broadcastPort = none) {history : List Deed} {s s' : Execution}
    {e : Event} {out : Unit} (h : Stage plan count history s) (hs : step s e = some (s', out)) :
    Stage plan count (history ++ [⟨s, e, s', out⟩]) s' := by
  cases h with
  | @following k h hk =>
    have hlength (o : Deed) : (history ++ [o]).length = k + 1 := List.length_append.trans (congrArg Nat.succ h)
    obtain ⟨hlt, rfl⟩ | rfl | ⟨rfl, rfl⟩ := step_following hp hs
    · exact .following (hlength _) hlt
    · exact .stranded ((hlength _).trans_le (Nat.succ_le_succ hk))
    · exact .interrupted ((hlength _).trans_le (Nat.succ_le_succ hk))
        ⟨_, List.mem_append_right _ (List.mem_singleton_self _), rfl⟩
  | stranded | interrupted => cases hs

theorem Stage.contact? {history : List Deed} {s : Execution} (h : Stage plan count history s) :
    s.contact? = none := by
  cases h with
  | following => exact sessionAfter_contact? ..
  | stranded | interrupted => rfl

theorem Run.stage (hf : plan.fits = true) (hp : plan.endpoint.broadcastPort = none) {history : List Deed}
    {s : Execution} (h : Run (.ok (.follow plan count)) history s) :
    Stage plan count history s ∧ ¬Contacts history := by
  induction h with
  | nothing =>
    rw [start_follow hf]
    exact ⟨.following rfl (Nat.zero_le 3), not_contacts_nil⟩
  | next _ hs ih =>
    have hstage := ih.1.next hp hs
    exact ⟨hstage, not_contacts_concat ih.2 hstage.contact?⟩

/-- Until it has told its consumer such a session goes on, and then the consumer can take what it is told. -/
theorem exists_step (hp : plan.endpoint.broadcastPort = none) (count : Option Nat) (k : Nat) :
    ∃ e, e ≠ .interrupted ∧ (step (.following count (sessionAfter plan k) []) e).isSome = true := by
  by_cases hk : k < 3
  · obtain ⟨d, s, metrics, hm⟩ := exists_driver_move hp hk
    have hstep : (sessionAfter plan k).step (.driver d) = some (s, metrics) := hm.step
    refine ⟨.task (.driver d), nofun, ?_⟩
    simp only [step, hstep, Option.map_some, Option.isSome_some]
  · obtain ⟨k, rfl⟩ := Nat.exists_eq_add_of_le (Nat.le_of_not_lt hk)
    rw [Nat.add_comm]
    exact ⟨.took, nofun, rfl⟩

/-- However tasks and consumer take turns, nothing is contacted, and where only an interrupt can still happen
the command is over. -/
theorem Run.portless (hf : plan.fits = true) (hp : plan.endpoint.broadcastPort = none) {history : List Deed}
    {s : Execution} (h : Run (.ok (.follow plan count)) history s) :
    ¬Contacts history ∧ history.length ≤ 4 ∧ ((∀ o ∈ history, o.event ≠ .interrupted) →
      (∀ e, e ≠ .interrupted → step s e = none) → s = .finished (stranded plan.endpoint.name)) := by
  obtain ⟨hstage, hcontacts⟩ := h.stage hf hp
  refine ⟨hcontacts, ?_⟩
  cases hstage with
  | @following k hlength hk =>
    refine ⟨hlength.trans_le (Nat.le_succ_of_le hk), fun _ hstuck => ?_⟩
    obtain ⟨e, he, hstep⟩ := exists_step hp count k
    rw [hstuck e he] at hstep
    cases hstep
  | stranded hlength => exact ⟨hlength, fun _ _ => rfl⟩
  | interrupted hlength hi =>
    obtain ⟨o, ho, he⟩ := hi
    exact ⟨hlength, fun hall => absurd he (hall o ho)⟩

end Portless

/-! ## Every other command -/

section Contacting

theorem exists_contact {job : Except Failure Job} {e : Event} {s : Execution}
    (hstep : step (start job) e = some (s, ())) (hcontact : s.contact?.isSome = true) :
    ∃ history s, Run job history s ∧ Contacts history := by
  have hrun : Run job ([] ++ [⟨start job, e, s, ()⟩]) s := Occurs.nothing.next hstep
  exact ⟨_, s, hrun, _, List.mem_singleton_self _, hcontact⟩

/-- A call dials when its first attempt begins. -/
theorem exists_contact_call {e : Endpoint} {config : TransportConfig} (hv : config.validate = .ok ())
    (request : Request) :
    ∃ history s, Run (.ok (.call (.new e config) request)) history s ∧ Contacts history := by
  refine exists_contact (e := .call .begin) (s := .calling (.new e config) ⟨request, 1, .dialing⟩) ?_ rfl
  simp only [start, step, Call.begins_first hv e request, Option.map_some, called]

/-- A session connects as soon as it has started. -/
theorem exists_contact_follow {plan : Session.Plan} {port : UInt16} (hf : plan.fits = true)
    (hp : plan.endpoint.broadcastPort = some port) (count : Option Nat) :
    ∃ history s, Run (.ok (.follow plan count)) history s ∧ Contacts history := by
  obtain ⟨target, hbroadcast⟩ : ∃ target, plan.endpoint.broadcast = .ok target := by
    rw [Endpoint.broadcast, hp]
    exact ⟨_, rfl⟩
  have hstep := Session.step_iff_move.mpr (.driver (.opens (s := .start plan) rfl hbroadcast))
  refine exists_contact (e := .task (.driver .started))
    (s := .following count { Session.start plan with driver := .connecting target } []) ?_ rfl
  simp only [start_follow hf, step, hstep, Option.map_some]

end Contacting
end Execution

/-! ## All commands for a service -/

/-- A subscription to a service that is configured without broadcasts. -/
inductive Invocation.Portless (read : String → Except FileError String) (i : Invocation) : Prop
  | intro {c : BusConfig} {e : Endpoint} {filter : String} {count : Option Nat}
      (hconfig : BusConfig.load read i.config = .ok c) (he : e ∈ c.endpoints) (hport : e.broadcastPort = none)
      (haction : i.action = .subscribe e.name filter count)

/-- A subscription for which more room is configured than a channel can have. -/
inductive Invocation.Oversized (read : String → Except FileError String) (i : Invocation) : Prop
  | intro {c : BusConfig} {service filter : String} {count : Option Nat}
      (hconfig : BusConfig.load read i.config = .ok c)
      (hroom : Session.Plan.largestRoom < c.subscriber.channelCapacity)
      (haction : i.action = .subscribe service filter count)

section Commands
open Execution
variable {read : String → Except FileError String} {address service : String} {i : Invocation} {c : BusConfig}

theorem fits_iff {plan : Session.Plan} :
    plan.fits = true ↔ plan.timing.channelCapacity ≤ Session.Plan.largestRoom := by
  simp [Session.Plan.fits, Session.Plan.room, Session.Plan.largestRoom]

/-- The session of a subscription has the room that is configured. -/
theorem fits_of_comesTo (hc : BusConfig.load read i.config = .ok c) {plan : Session.Plan} {count : Option Nat}
    (h : i.action.ComesTo address c (.follow plan count)) : plan.fits = true ↔ ¬i.Oversized read := by
  rw [fits_iff]
  generalize haction : i.action = action at h
  cases h with
  | follow =>
    constructor
    · rintro hroom ⟨hc', hover, -⟩
      cases hc.symm.trans hc'
      exact Nat.not_lt.mpr hroom hover
    · exact fun hfits => Nat.le_of_not_lt fun hover => hfits ⟨hc, hover, haction⟩

theorem contacts_of_comesTo (hc : BusConfig.load read i.config = .ok c) {j : Job}
    (h : i.action.ComesTo address c j) (ho : ¬i.Oversized read) (hp : ¬i.Portless read) :
    ∃ history s, Run (.ok j) history s ∧ Contacts history := by
  obtain ⟨hv, -⟩ := BusConfig.sections_of_validate (BusConfig.validate_of_load hc)
  have hcomes := h
  generalize haction : i.action = action at h
  cases h with
  | call => exact exists_contact_call hv _
  | @follow _ _ _ _ e _ he hname =>
    have hfits := (fits_of_comesTo hc hcomes).mpr ho
    cases hport : e.broadcastPort with
    | some port => exact exists_contact_follow hfits hport _
    | none => exact absurd ⟨hc, he, hport, hname ▸ haction⟩ hp

theorem follow_of_portless (hc : BusConfig.load read i.config = .ok c) {j : Job}
    (h : i.action.ComesTo address c j) (hp : i.Portless read) (ha : i.action.service? = some service) :
    ∃ plan count, j = .follow plan count ∧ plan.endpoint.broadcastPort = none ∧
      plan.endpoint.name = service := by
  obtain ⟨hc', he', hport, haction⟩ := hp
  cases hc.symm.trans hc'
  obtain ⟨r, -, hholds⟩ := BusConfig.registry_of_validate (BusConfig.validate_of_load hc)
  rw [haction] at h ha
  cases h with
  | follow _ he hname =>
    have hsame := ((find_named_eq_some_iff hholds.distinct).mpr ⟨he, hname⟩).symm.trans
      ((find_named_eq_some_iff hholds.distinct).mpr ⟨he', rfl⟩)
    cases hsame
    exact ⟨_, _, rfl, hport, Option.some.inj ha⟩

/-- The session of a subscription with too much room. -/
theorem follow_of_oversized {j : Job} (h : i.action.ComesTo address c j) (ho : i.Oversized read) :
    ∃ plan count, j = .follow plan count := by
  obtain ⟨-, -, haction⟩ := ho
  rw [haction] at h
  cases h with
  | follow => exact ⟨_, _, rfl⟩

/-- What is wrong with a command shows in its exit code. A faulty one ends at once with code 2, and nothing
happens before. A subscription with too much room breaks down at once. A subscription to a service without
broadcasts ends with code 1 unless it is interrupted: it runs for four steps at most, in which nothing is
contacted either. Every other command may get to open a connection. -/
theorem faults_end_commands (read : String → Except FileError String) (address : String) (i : Invocation)
    {service : String} (ha : i.action.service? = some service) :
    (i.Faulty read → ∃ e, i.job read address = .error e ∧ e.report.code = 2 ∧
      ∀ history s, Run (i.job read address) history s → history = [] ∧ s = .finished ⟨2, "", [e.report.line]⟩) ∧
    (¬i.Faulty read → i.Oversized read → ∀ history s, Run (i.job read address) history s →
      history = [] ∧ s = .crashed) ∧
    (¬i.Faulty read → ¬i.Oversized read → i.Portless read → ∀ history s, Run (i.job read address) history s →
      ¬Contacts history ∧ history.length ≤ 4 ∧ ((∀ o ∈ history, o.event ≠ .interrupted) →
        (∀ e, e ≠ .interrupted → s.step e = none) → s = .finished (stranded service))) ∧
    (¬i.Faulty read → ¬i.Oversized read → ¬i.Portless read →
      ∃ history s, Run (i.job read address) history s ∧ Contacts history) := by
  rcases Invocation.faulty_cases ha read address with
    ⟨hfaulty, e, hjob, hcode⟩ | ⟨hgood, c, j, hc, hcomes, hjob⟩
  · refine ⟨fun _ => ⟨e, hjob, hcode, fun history s hrun => ?_⟩, absurd hfaulty, absurd hfaulty,
      absurd hfaulty⟩
    have hstart : start (i.job read address) = .finished ⟨2, "", [e.report.line]⟩ := by
      rw [hjob, ← hcode]
      rfl
    exact run_over hstart (fun _ => rfl) hrun
  · rw [hjob]
    refine ⟨fun hfaulty => absurd hfaulty hgood, fun _ ho history s hrun => ?_,
      fun _ ho hp history s hrun => ?_, fun _ => contacts_of_comesTo hc hcomes⟩
    · obtain ⟨plan, count, rfl⟩ := follow_of_oversized hcomes ho
      have hstart : start (.ok (.follow plan count)) = .crashed :=
        if_neg fun hfits => (fits_of_comesTo hc hcomes).mp hfits ho
      exact run_over hstart (fun _ => rfl) hrun
    · obtain ⟨plan, count, rfl, hport, rfl⟩ := follow_of_portless hc hcomes hp ha
      exact hrun.portless ((fits_of_comesTo hc hcomes).mpr ho) hport

end Commands

section Configured

/-- All files hold a configuration of services that do not broadcast. -/
def files (_path : String) : Except FileError String := .ok BusConfig.written

/-- All files ask for more room than a channel can have, too. -/
def roomyFiles (_path : String) : Except FileError String :=
  .ok (BusConfig.written ++ "[subscriber]\nchannel_capacity = 2305843009213693952\n")

def ghost : Invocation := ⟨some "bus.toml", .request "ghost" "height" "{}"⟩

def asker : Invocation := ⟨some "bus.toml", .request "reader" "height" "{}"⟩

def follower : Invocation := ⟨some "bus.toml", .subscribe "reader" "{}" none⟩

theorem load_written : BusConfig.load files (some "bus.toml") = .ok BusConfig.configured :=
  BusConfig.parse_written

theorem faulty_ghost : ghost.Faulty files := by
  have hservice : ghost.action.service? = some "ghost" := rfl
  exact .unknown load_written hservice (by decide)

theorem portless_follower : follower.Portless files :=
  .intro (e := ⟨"reader", "b", 2, none, none⟩) load_written (by decide) rfl rfl

theorem not_portless_asker : ¬asker.Portless files := by
  rintro ⟨-, -, -, haction⟩
  cases haction

theorem service_asker : asker.action.service? = some "reader" := rfl

theorem service_follower : follower.action.service? = some "reader" := rfl

theorem not_faulty_asker : ¬asker.Faulty files := by
  have hjob : (asker.job files "sub-1").toOption.isSome = true := by decide +kernel
  exact Invocation.not_faulty_of_job service_asker hjob

theorem not_faulty_follower : ¬follower.Faulty files := by
  have hjob : (follower.job files "sub-1").toOption.isSome = true := by decide +kernel
  exact Invocation.not_faulty_of_job service_follower hjob

theorem not_oversized {i : Invocation} (hfile : i.config = some "bus.toml") : ¬i.Oversized files := by
  rintro ⟨hconfig, hroom, -⟩
  rw [hfile, load_written] at hconfig
  cases hconfig
  exact absurd hroom (by decide)

theorem not_faulty_roomy : ¬follower.Faulty roomyFiles := by
  have hjob : (follower.job roomyFiles "sub-1").toOption.isSome = true := by decide +kernel
  exact Invocation.not_faulty_of_job service_follower hjob

theorem oversized_roomy : follower.Oversized roomyFiles := by
  have hroom : (BusConfig.load roomyFiles follower.config).toOption.any
      (Session.Plan.largestRoom < ·.subscriber.channelCapacity) = true := by decide +kernel
  cases hc : BusConfig.load roomyFiles follower.config with
  | error e =>
    rw [hc] at hroom
    cases hroom
  | ok c =>
    rw [hc] at hroom
    exact ⟨hc, of_decide_eq_true hroom, rfl⟩

theorem faults_end_commands_reader :
    (∃ e, ghost.job files "sub-1" = .error e ∧ e.report.code = 2 ∧
      ∀ history s, Execution.Run (ghost.job files "sub-1") history s →
        history = [] ∧ s = .finished ⟨2, "", [e.report.line]⟩) ∧
    (∀ history s, Execution.Run (follower.job files "sub-1") history s →
      ¬Execution.Contacts history ∧ history.length ≤ 4 ∧ ((∀ o ∈ history, o.event ≠ .interrupted) →
        (∀ e, e ≠ .interrupted → s.step e = none) → s = .finished (Execution.stranded "reader"))) ∧
    (∀ history s, Execution.Run (follower.job roomyFiles "sub-1") history s → history = [] ∧ s = .crashed) ∧
    ∃ history s, Execution.Run (asker.job files "sub-1") history s ∧ Execution.Contacts history := by
  obtain ⟨hends, -, -⟩ := faults_end_commands files "sub-1" ghost rfl
  obtain ⟨-, -, hstranded, -⟩ := faults_end_commands files "sub-1" follower service_follower
  obtain ⟨-, hcrashed, -⟩ := faults_end_commands roomyFiles "sub-1" follower service_follower
  obtain ⟨-, -, -, hcontacts⟩ := faults_end_commands files "sub-1" asker service_asker
  exact ⟨hends faulty_ghost, hstranded not_faulty_follower (not_oversized rfl) portless_follower,
    hcrashed not_faulty_roomy oversized_roomy, hcontacts not_faulty_asker (not_oversized rfl) not_portless_asker⟩

/-- That a service does not broadcast is fixed by the configuration, and yet the code is not that of faulty
input; nor is it where no connection can be opened at all. -/
theorem portless_follower_code :
    follower.Portless files ∧ ∃ history o, Execution.Run (follower.job files "sub-1") history (.finished o) ∧
      (∀ d ∈ history, d.event ≠ .interrupted) ∧ o = Execution.stranded "reader" ∧ o.code ≠ 2 ∧
      Simulation.Offline.run "no transport" (follower.job files "sub-1") = some o := by
  have hread : (follow Execution.step (Execution.start (follower.job files "sub-1"))
      [.task (.driver .started), .task (.driver (.handed .accepted)), .took]).map (·.2.outcome?) =
      some (some (Execution.stranded "reader")) := by decide +kernel
  obtain ⟨history, s, hrun, hevents, houtcome⟩ := Occurs.of_reading hread
  have hoffline : Simulation.Offline.run "no transport" (follower.job files "sub-1") =
      some (Execution.stranded "reader") := by decide +kernel
  cases Execution.eq_finished_of_outcome? houtcome
  have huninterrupted : ∀ e ∈ history.map Occurrence.event, e ≠ .interrupted := by simp [hevents]
  exact ⟨portless_follower, history, _, hrun, event_of_mem rfl huninterrupted, rfl, by decide, hoffline⟩

end Configured
end Command
end MessageBus
