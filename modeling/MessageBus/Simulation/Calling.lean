import MessageBus.Simulation.Peer
/-!
# Calls to a scripted peer

One client makes calls to a scripted peer, one after the other. A call may be cancelled at a set time,
and is dropped where it stands when its limit is reached; a dropped call counts its duration.
-/
namespace MessageBus.Simulation
set_option autoImplicit false
open Telemetry (Metric)

structure Calling where
  now : Instant
  client : Client
  peer : Peer
  metrics : List Metric

namespace Calling

def start (client : Client) (script : Script) : Calling := ⟨0, client, .new script, []⟩

def wait (s : Calling) (d : Duration) : Calling := { s with now := s.now + d.nanos }

def count (s : Calling) (metrics : List Metric) : Calling :=
  { s with metrics := metrics ++ s.metrics }

/-- Opens a socket unless one is held; `none` if that takes longer than the limit. -/
def connect (s : Calling) (limit : Duration) : Calling × Option (Except CallError Unit) :=
  if s.client.socket.isSome then (s, some (.ok ()))
  else
    let (outcome, peer) := s.peer.dial s.now s.client.endpoint.url
    let s := { s with peer := peer }
    let last := s.now + limit.nanos
    match outcome.filter (·.1 ≤ last) with
    | none => ({ s with now := last }, none)
    | some (t, dialed) =>
      let (client, metrics, result) := s.client.connected dialed
      ({ s with now := t, client := client }.count metrics, some result)

/-! ## Calls -/

structure Ending where
  cancelAt : Option Instant
  dropAt : Instant

namespace Ending

def fired (e : Ending) (now : Instant) : Bool :=
  match e.cancelAt with
  | some t => t ≤ now
  | none => false

/-- What ends an operation: its own event, unless the canceller or the limit comes before. -/
def next (e : Ending) (awaited : Awaited) : Option (Instant × Call.Event) :=
  let event :=
    match awaited.next, e.cancelAt with
    | some (t, event), some c => if t ≤ c then some (t, event) else some (c, .cancelled)
    | none, some c => some (c, .cancelled)
    | event, none => event
  event.filter (·.1 ≤ e.dropAt)

end Ending

def proceed (e : Ending) : Nat → Calling → Call → Calling × Option (Except CallError Reply)
  | 0, s, _ => (s, none)
  | fuel + 1, s, call =>
    let (awaited, peer) := s.peer.enter s.now s.client call
    let s := { s with peer := peer }
    match e.next awaited with
    | none => ({ s with now := e.dropAt }.count [.requestDuration], none)
    | some (t, event) =>
      let s := { s with now := t }
      match call.step (e.fired t) s.client event with
      | some (.running client call, metrics) =>
        proceed e fuel ({ s with client := client }.count metrics) call
      | some (.finished client result, metrics) =>
        ({ s with client := client }.count metrics, some result)
      | none => (s, none)

/-- Enough events for a call of whole milliseconds: every attempt has five, and those of no script and
no bound take a millisecond or more. -/
def fuel (s : Calling) (limit : Duration) : Nat :=
  5 * (limit.nanos / 1000000 + s.client.config.maxAttempts.getD 0 + s.peer.script.dials.length
    + s.peer.script.answers.length + 2)

/-- Makes a call, cancelled and dropped so long after its start; `none` if it was dropped. -/
def call (s : Calling) (request : Request) (cancelAfter : Option Duration) (limit : Duration) :
    Calling × Option (Except CallError Reply) :=
  proceed ⟨cancelAfter.map (s.now + ·.nanos), s.now + limit.nanos⟩ (s.fuel limit) s (.start request)

end Calling
end MessageBus.Simulation
