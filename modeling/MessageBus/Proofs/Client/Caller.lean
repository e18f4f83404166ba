import MessageBus.Proofs.Client.Moves
import MessageBus.Proofs.History
/-!
# Callers

A client and what its user has it do: connect, or make a call, one thing after the other. A call may have
a canceller, which gives its signal at any moment, also before the call begins. Dialer and sockets may do
what they like, so every history of a caller is a list of events that its steps admit. To cancel a call is
to have its canceller give the signal: a user that lets go of a call where it stands, which then counts a
duration without an answer, is not among the events.
-/
namespace MessageBus
set_option autoImplicit false
open Telemetry (Metric)

namespace Caller

inductive Activity
  | idle
  | connecting
  /-- Making a call; if it has a canceller, `signal?` says whether that has given its signal. -/
  | calling (call : Call) (signal? : Option Bool)
deriving DecidableEq

inductive Event
  | connect
  | dialed (r : Except SocketError SocketId)
  | ask (request : Request) (signal? : Option Bool)
  | signal
  | act (e : Call.Event)

inductive Answer
  | connected (r : Except CallError Unit)
  | replied (r : Except CallError Reply)

/-- Whether the user hears that the call was cancelled. -/
def Answer.isCancelled : Answer → Bool
  | .replied (.error (.cancelled _ _)) => true
  | _ => false

/-- What a step gives to the user, and what it counts. -/
structure Output where
  answer? : Option Answer
  metrics : List Metric

end Caller

structure Caller where
  client : Client
  activity : Caller.Activity
deriving DecidableEq

namespace Caller

def start (endpoint : Endpoint) (config : TransportConfig) : Caller := ⟨.new endpoint config, .idle⟩

def progressed (signal? : Option Bool) (metrics : List Metric) : Call.Progress → Caller × Output
  | .running c call => (⟨c, .calling call signal?⟩, ⟨none, metrics⟩)
  | .finished c r => (⟨c, .idle⟩, ⟨some (.replied r), metrics⟩)

/-- What an event makes of a caller; `none` if it cannot happen now. A call without a canceller never
sees a signal. -/
def step (u : Caller) (event : Event) : Option (Caller × Output) :=
  match u.activity, event with
  | .idle, .connect =>
    if u.client.socket.isSome then some (u, ⟨some (.connected (.ok ())), []⟩)
    else some ({ u with activity := .connecting }, ⟨none, []⟩)
  | .connecting, .dialed r =>
    let (client, metrics, result) := u.client.connected r
    some (⟨client, .idle⟩, ⟨some (.connected result), metrics⟩)
  | .idle, .ask request signal? =>
    some ({ u with activity := .calling (.start request) signal? }, ⟨none, []⟩)
  | .calling call (some _), .signal =>
    some ({ u with activity := .calling call (some true) }, ⟨none, []⟩)
  | .calling call signal?, .act e =>
    (call.step (signal?.getD false) u.client e).map fun r => progressed signal? r.2 r.1
  | _, _ => none

abbrev Deed := Occurrence Caller Event Output

/-- Whether a call ends because it was cancelled. -/
def cancelled (o : Deed) : Bool := o.output.answer?.any Answer.isCancelled

def Run (endpoint : Endpoint) (config : TransportConfig) : List Deed → Caller → Prop :=
  Occurs step (start endpoint config)

/-! ## What a step can do -/

inductive Move (u : Caller) : Event → Caller → Output → Prop
  | kept (h : u.activity = .idle) (hs : u.client.socket.isSome = true) :
      Move u .connect u ⟨some (.connected (.ok ())), []⟩
  | connects (h : u.activity = .idle) (hs : u.client.socket = none) :
      Move u .connect { u with activity := .connecting } ⟨none, []⟩
  | connected {socket : SocketId} (h : u.activity = .connecting) :
      Move u (.dialed (.ok socket)) ⟨(u.client.install socket).1, .idle⟩
        ⟨some (.connected (.ok ())), (u.client.install socket).2⟩
  | unconnected {e : SocketError} (h : u.activity = .connecting) :
      Move u (.dialed (.error e)) ⟨u.client, .idle⟩
        ⟨some (.connected (.error (.socket u.client.service e))), []⟩
  | asked {request : Request} {signal? : Option Bool} (h : u.activity = .idle) :
      Move u (.ask request signal?) { u with activity := .calling (.start request) signal? } ⟨none, []⟩
  | signalled {call : Call} {fired : Bool} (h : u.activity = .calling call (some fired)) :
      Move u .signal { u with activity := .calling call (some true) } ⟨none, []⟩
  | goesOn {call call' : Call} {signal? : Option Bool} {e : Call.Event} {c : Client} {ms : List Metric}
      (h : u.activity = .calling call signal?)
      (hm : Call.Move (signal?.getD false) u.client call e (.running c call') ms) :
      Move u (.act e) ⟨c, .calling call' signal?⟩ ⟨none, ms⟩
  | ends {call : Call} {signal? : Option Bool} {e : Call.Event} {c : Client}
      {r : Except CallError Reply} {ms : List Metric} (h : u.activity = .calling call signal?)
      (hm : Call.Move (signal?.getD false) u.client call e (.finished c r) ms) :
      Move u (.act e) ⟨c, .idle⟩ ⟨some (.replied r), ms⟩

theorem step_move {u u' : Caller} {e : Event} {out : Output} (h : u.step e = some (u', out)) :
    Move u e u' out := by
  unfold step at h
  split at h
  · next ha =>
    split at h
    · next hs =>
      cases h
      exact .kept ha hs
    · next hs =>
      cases h
      exact .connects ha (by simpa using hs)
  · next r ha =>
    cases r <;> cases h
    · exact .unconnected ha
    · exact .connected ha
  · next ha =>
    cases h
    exact .asked ha
  · next ha =>
    cases h
    exact .signalled ha
  · next call signal? e ha =>
    obtain ⟨⟨p, ms⟩, hc, hp⟩ := Option.map_eq_some_iff.mp h
    have hm := Call.step_move hc
    cases p <;> cases hp
    · exact .goesOn ha hm
    · exact .ends ha hm
  · cases h

section Runs
variable {endpoint : Endpoint} {config : TransportConfig} {history : List Deed} {u : Caller}

theorem Run.move {o : Deed} (h : Run endpoint config history u) (ho : o ∈ history) :
    Move o.before o.event o.after o.output := by
  obtain ⟨earlier, hrun, hs⟩ := Occurs.of_mem h ho
  exact step_move hs

end Runs

/-- A call that gets a reply is not cancelled. -/
theorem verdict_not_cancelled (c : Client) (request : Request) (frame : Frame) :
    (Answer.replied (Call.verdict c request frame)).isCancelled = false := by
  unfold Call.verdict
  split
  · rfl
  · split <;> rfl

/-! ## Holding a socket -/

def dialing (u : Caller) : Bool :=
  match u.activity with
  | .connecting | .calling ⟨_, _, .dialing⟩ _ => true
  | _ => false

/-- Whether an operation on the client's socket is under way. -/
def exchanging (u : Caller) : Bool :=
  match u.activity with
  | .calling call _ => call.phase.exchanging
  | _ => false

/-- Whether a socket is held, by what the caller is doing. -/
def Equipped (u : Caller) : Prop :=
  match u.activity with
  | .idle | .calling ⟨_, _, .checking⟩ _ => True
  | .connecting | .calling ⟨_, _, .dialing⟩ _ | .calling ⟨_, _, .pausing⟩ _ => u.client.socket = none
  | .calling ⟨_, _, .sending⟩ _ | .calling ⟨_, _, .receiving⟩ _ => u.client.socket.isSome = true

section Holding
variable {u u' : Caller} {e : Event} {out : Output}

theorem call_equipped {fired : Bool} {c c' : Client} {call call' : Call} {e : Call.Event}
    {ms : List Telemetry.Metric} {signal? : Option Bool} (h : Equipped ⟨c, .calling call signal?⟩)
    (hm : Call.Move fired c call e (.running c' call') ms) :
    Equipped ⟨c', .calling call' signal?⟩ := by
  obtain ⟨request, k, phase⟩ := call
  cases hm with
  | reuses _ _ _ hs => exact hs
  | dials _ _ _ hs => exact hs
  | dialed => simp [Equipped, Client.countSend, Client.install_socket]
  | undialed hp =>
    obtain rfl : phase = .dialing := hp
    exact h
  | rested => trivial
  | sent hp =>
    obtain rfl : phase = .sending := hp
    exact h
  | failed => trivial

theorem move_equipped (h : Equipped u) (hm : Move u e u' out) : Equipped u' := by
  cases hm with
  | kept => exact h
  | connects _ hs => exact hs
  | connected | unconnected | asked | ends => trivial
  | @signalled call _ ha =>
    obtain ⟨request, k, phase⟩ := call
    simp only [Equipped, ha] at h
    cases phase <;> exact h
  | @goesOn call _ signal? _ _ _ ha hm =>
    have h' : Equipped ⟨u.client, .calling call signal?⟩ := by rw [← ha]; exact h
    exact call_equipped h' hm

theorem Run.equipped {endpoint : Endpoint} {config : TransportConfig} {history : List Deed}
    (h : Run endpoint config history u) : Equipped u := by
  induction h with
  | nothing => trivial
  | next _ hs ih => exact move_equipped ih (step_move hs)

theorem Equipped.unheld_of_dialing (h : Equipped u) (hd : u.dialing = true) :
    u.client.socket = none := by
  obtain ⟨c, activity⟩ := u
  cases activity with
  | idle => cases hd
  | connecting => exact h
  | calling call signal? =>
    obtain ⟨request, k, phase⟩ := call
    cases phase <;> first | exact h | cases hd

theorem Equipped.held_of_exchanging (h : Equipped u) (hx : u.exchanging = true) :
    u.client.socket.isSome = true := by
  obtain ⟨c, activity⟩ := u
  cases activity with
  | idle | connecting => cases hx
  | calling call signal? =>
    obtain ⟨request, k, phase⟩ := call
    cases phase <;> first | exact h | cases hx

end Holding
end Caller
end MessageBus
