import MessageBus.Session.Step
/-!
# Sessions on a clock

When the waits of a session run out. The driver waits for its connection, for the settling time and for
its call; the heartbeat task waits for the next beat and for its call. Beats come at even intervals: the
next one is due one interval after the last was, unless that one came late by more than the slack, when
the interval is counted from where the clock stands.
-/
namespace MessageBus.Session
set_option autoImplicit false
open Telemetry (Metric)

/-- How late a beat may come without moving those after it. -/
def slack : Duration := .ofMillis 5

/-- When the beat after one that was due at `due` and came at `now` is due. A beat after the first cannot
fall behind the end of the machine's clock before that clock has run through half its range. -/
def nextBeat (period : Duration) (due now : Instant) : Instant :=
  if due + slack.nanos < now then now + period.nanos else due + period.nanos

structure Clocked where
  session : Session
  driverDue : Option Instant
  beatDue : Option Instant
  tickDue : Instant
deriving DecidableEq

namespace Clocked

def start (plan : Plan) : Clocked := ⟨.start plan, none, none, 0⟩

def driverLimit (s : Session) : Option Duration :=
  match s.driver with
  | .connecting _ => some s.plan.transport.requestTimeout
  | .settling => some s.plan.timing.connectDelay
  | .subscribing client call => call.limit client
  | _ => none

def beatLimit (s : Session) : Option Duration :=
  match s.heartbeat with
  | .beating client call => call.limit client
  | _ => none

/-- The clock's part of an event: a task that acted begins to wait anew. -/
def rearm (c : Clocked) (now : Instant) (event : Event) (s : Session) : Clocked :=
  match event with
  | .driver _ => { c with session := s, driverDue := (driverLimit s).map (now + ·.nanos) }
  | .heartbeat (.started _) =>
    { c with session := s, beatDue := none, tickDue := now + s.plan.timing.heartbeatInterval.nanos }
  | .heartbeat .ticked =>
    { c with
      session := s
      beatDue := (beatLimit s).map (now + ·.nanos)
      tickDue := nextBeat s.plan.timing.heartbeatInterval c.tickDue now }
  | .heartbeat _ => { c with session := s, beatDue := (beatLimit s).map (now + ·.nanos) }
  | .receiver _ | .consumer _ => { c with session := s }

def step (c : Clocked) (now : Instant) (event : Event) : Option (Clocked × List Metric) :=
  (c.session.step event).map fun r => (c.rearm now event r.1, r.2)

def driverExpiry? (c : Clocked) : Option (Instant × Event) :=
  c.driverDue.bind fun due =>
    match c.session.driver with
    | .connecting _ => some (due, .driver .connectExpired)
    | .settling => some (due, .driver .settled)
    | .subscribing _ _ => some (due, .driver (.subscribe .expired))
    | _ => none

def heartbeatExpiry? (c : Clocked) : Option (Instant × Event) :=
  match c.session.heartbeat with
  | .resting _ => some (c.tickDue, .heartbeat .ticked)
  | .beating _ _ => c.beatDue.map (·, .heartbeat (.beat .expired))
  | _ => none

def expiries (c : Clocked) : List (Instant × Event) :=
  c.driverExpiry?.toList ++ c.heartbeatExpiry?.toList

end Clocked

/-! ## Prompt events -/

def way? (s : Session) : Option Handover :=
  if !s.attached then some .refused
  else if s.inbox.length < s.plan.room then some .accepted
  else if s.cancelled then some .withdrawn
  else none

def promptCall? (s : Session) (call : Call) : Option Call.Event :=
  if call.phase = .checking then some .begin else if s.cancelled then some .cancelled else none

def promptDriver? (s : Session) : Option DriverEvent :=
  match s.driver with
  | .starting => some .started
  | .connecting _ | .settling => if s.cancelled then some .stopped else none
  | .subscribing _ call => (s.promptCall? call).map .subscribe
  | .failing _ => s.way?.map .handed
  | .closing => some .closed
  | .following => if s.receiver = .finished then some .followed else none
  | .joining => if s.heartbeat = .finished then some .joined else none
  | .finished => none

/-- What the heartbeat task does at once. Where it reads the machine's clock, this stands at zero. -/
def promptHeartbeat? (s : Session) : Option HeartbeatEvent :=
  match s.heartbeat with
  | .starting _ => some (.started ⟨0⟩)
  | .resting _ => if s.cancelled then some .stopped else none
  | .beating _ call => (s.promptCall? call).map .beat
  | .reporting _ => some .reported
  | .absent | .finished => none

def promptReceiver? (s : Session) : Option ReceiverEvent :=
  match s.receiver with
  | .listening =>
    if s.cancelled then some .stopped
    else if s.control.isSome then some .alerted
    else if s.heartbeat = .finished then some .deserted
    else none
  | .forwarding _ _ => s.way?.map .handed
  | .absent | .finished => none

def prompt? (s : Session) : Option Event :=
  (s.promptDriver?.map Event.driver).or
    ((s.promptHeartbeat?.map Event.heartbeat).or (s.promptReceiver?.map Event.receiver))

end MessageBus.Session
