import MessageBus.Session.Clock
import MessageBus.Simulation.Peer
/-!
# Following a script

One subscriber session whose service is a scripted peer and whose broadcasts come from a queue. At every
instant the session does all it can before time goes on; an outcome that comes just when a wait runs
out is in time.
-/
namespace MessageBus.Simulation
set_option autoImplicit false
open Telemetry (Metric)

structure Following where
  now : Instant
  clocked : Session.Clocked
  peer : Peer
  connection : Opening
  driverOutcome : Option (Instant × Session.Event)
  beatOutcome : Option (Instant × Session.Event)
  source : List (Except SocketError Frame)
  /-- Whether the session has opened the source. -/
  opened : Bool
  metrics : List Metric

namespace Following

def start (plan : Session.Plan) (connection : Opening) (script : Script) : Following :=
  ⟨0, .start plan, .new script, connection, none, none, [], false, []⟩

def session (s : Following) : Session := s.clocked.session

/-! ## Outcomes -/

def connectOutcome (s : Following) (target : Endpoint) : Option (Instant × Session.Event) :=
  match s.connection with
  | .after delay => some (s.now + delay.nanos, .driver .connected)
  | .refused reason => some (s.now, .driver (.connectFailed (.connect target.url reason)))
  | .never => none

def begin (s : Following) (event : Session.Event) : Following :=
  match event with
  | .driver _ =>
    match s.session.driver with
    | .connecting target =>
      { s with
        driverOutcome := s.connectOutcome target
        peer := s.peer.note s.now (.connect target.url) }
    | .subscribing client call =>
      let (awaited, peer) := s.peer.enter s.now client call
      { s with
        driverOutcome := awaited.outcome.map fun o => (o.1, .driver (.subscribe o.2))
        peer := peer }
    | _ => { s with driverOutcome := none }
  | .heartbeat _ =>
    match s.session.heartbeat with
    | .beating client call =>
      let (awaited, peer) := s.peer.enter s.now client call
      { s with
        beatOutcome := awaited.outcome.map fun o => (o.1, .heartbeat (.beat o.2))
        peer := peer }
    | _ => { s with beatOutcome := none }
  | .receiver _ | .consumer _ => s

def take (s : Following) (event : Session.Event) : Following :=
  match s.clocked.step s.now event with
  | none => s
  | some (clocked, metrics) =>
    begin { s with
      clocked := clocked
      opened := s.opened || clocked.session.holdsSource
      metrics := metrics ++ s.metrics } event

/-! ## Time -/

/-- What the tasks wait for, and when it comes; outcomes stand before the ends of waits. -/
def awaited (s : Following) : List (Instant × Session.Event) :=
  s.driverOutcome.toList ++ s.beatOutcome.toList ++ s.clocked.expiries

def fromSource? (s : Following) : Option (Except SocketError Frame) :=
  match s.session.receiver with
  | .listening => s.source.head?
  | _ => none

def hear (s : Following) (r : Except SocketError Frame) : Following :=
  { s with source := s.source.tail }.take (.receiver (.heard r))

def outcome? (s : Following) : Option Session.Event :=
  ((s.driverOutcome.toList ++ s.beatOutcome.toList).find? (·.1 ≤ s.now)).map (·.2)

def next? (s : Following) : Option Following :=
  match s.outcome?, s.session.prompt?, s.fromSource?, s.clocked.expiries.find? (·.1 ≤ s.now) with
  | some event, _, _, _ => some (s.take event)
  | none, some event, _, _ => some (s.take event)
  | none, none, some r, _ => some (s.hear r)
  | none, none, none, some (_, event) => some (s.take event)
  | none, none, none, none => none

def nextTime? (s : Following) : Option Instant := (s.awaited.map (·.1)).min?

def runWithin (last : Instant) : Nat → Following → Following
  | 0, s => s
  | fuel + 1, s =>
    match s.next? with
    | some s => runWithin last fuel s
    | none =>
      match s.nextTime? with
      | some t => if t ≤ last then runWithin last fuel { s with now := t } else { s with now := last }
      | none => { s with now := last }

/-- Enough events until a time: a few for every millisecond, for every frame, and for every line of the
script and every attempt that takes no time. -/
def fuel (s : Following) (last : Instant) : Nat :=
  16 * ((last - s.now) / 1000000 + s.source.length + s.peer.script.dials.length
    + s.peer.script.answers.length + s.session.plan.transport.maxAttempts.getD 0 + 8)

def runTo (s : Following) (last : Instant) : Following :=
  runWithin (max s.now last) (s.fuel last) s

def settle (s : Following) : Following := s.runTo s.now

/-! ## Surroundings -/

/-- Puts something into the source; false if the session has opened it and given it up. -/
def feed (s : Following) (r : Except SocketError Frame) : Following × Bool :=
  if s.opened && !s.session.holdsSource then (s, false)
  else ({ s with source := s.source ++ [r] }, true)

def receive (s : Following) : Following × Option Broadcast :=
  (s.take (.consumer .took), s.session.inbox.head?)

def cancel (s : Following) : Following := s.take (.consumer .cancelled)

def drop (s : Following) : Following := s.cancel.take (.consumer .detached)

/-- What was counted, with the session dropped where it stands. -/
def counted (s : Following) : List Metric := s.session.dropped ++ s.metrics

end Following
end MessageBus.Simulation
