import MessageBus.Session.Basic
/-!
# Steps of a session

What may happen to a session, one event at a time. Each task reacts to events of its own, and every
interleaving of them is possible: where a task waits for several things at once, any that is ready may
be the one it takes. A step also says what it counts.
-/
namespace MessageBus.Session
set_option autoImplicit false
open Telemetry (Metric)

/-! ## Events -/

inductive Handover
  | accepted
  | refused
  /-- The canceller's signal was noticed first. -/
  | withdrawn
deriving DecidableEq, Repr

inductive DriverEvent
  | started
  | connected
  | connectFailed (e : SocketError)
  | connectExpired
  | settled
  | subscribe (e : Call.Event)
  | handed (way : Handover)
  | stopped
  | closed
  | followed
  | joined
deriving DecidableEq, Repr

inductive HeartbeatEvent
  /-- The time of the first beat is set, by this reading of the machine's clock. -/
  | started (clock : Duration)
  | ticked
  | beat (e : Call.Event)
  | reported
  | stopped
deriving DecidableEq, Repr

inductive ReceiverEvent
  | heard (r : Except SocketError Frame)
  | alerted
  /-- The heartbeat task ended without a word. -/
  | deserted
  | handed (way : Handover)
  | stopped

inductive ConsumerEvent
  | cancelled
  | detached
  | took
deriving DecidableEq, Repr

inductive Event
  | driver (e : DriverEvent)
  | heartbeat (e : HeartbeatEvent)
  | receiver (e : ReceiverEvent)
  | consumer (e : ConsumerEvent)

/-! ## The driver -/

def failureMetrics (f : Failure) : List Metric :=
  [.subscriptionFailure f.reason, .broadcastReceived false]

def driverFails (s : Session) (f : Failure) : Session × List Metric :=
  ({ s with driver := .failing (s.plan.failure f) }, failureMetrics f)

def hand (s : Session) (b : Broadcast) (way : Handover) : Option Session :=
  match way with
  | .accepted =>
    if s.attached && s.inbox.length < s.plan.room then some { s with inbox := s.inbox ++ [b] } else none
  | .refused => if s.attached then none else some s
  | .withdrawn => if s.cancelled then some s else none

def handOver (s : Session) (client : Client) : Session :=
  { s with driver := .following, heartbeat := .starting client, receiver := .listening }

def subscribed (s : Session) (metrics : List Metric) : Call.Progress → Session × List Metric
  | .running client call => ({ s with driver := .subscribing client call }, metrics)
  | .finished client (.ok _) => (s.handOver client, metrics)
  | .finished _ (.error (.cancelled _ _)) => ({ s with driver := .finished }, metrics)
  | .finished _ (.error e) =>
    let (s, more) := s.driverFails (.handshake e)
    (s, metrics ++ more)

def driverStep (s : Session) (event : DriverEvent) : Option (Session × List Metric) :=
  match s.driver, event with
  | .starting, .started =>
    match s.plan.endpoint.broadcast with
    | .ok target => some ({ s with driver := .connecting target }, [])
    | .error e => some (s.driverFails (.noBroadcasts e))
  | .connecting _, .connected => some ({ s with driver := .settling }, [])
  | .connecting _, .connectFailed e => some (s.driverFails (.connect e))
  | .connecting target, .connectExpired =>
    some (s.driverFails (.connectTimeout target.url s.plan.transport.requestTimeout))
  | .settling, .settled =>
    some ({ s with
      driver := .subscribing (.new s.plan.endpoint s.plan.transport) (.start s.plan.subscribeRequest) },
      [])
  | .subscribing client call, .subscribe e =>
    (call.step s.cancelled client e).map fun r => s.subscribed r.2 r.1
  | .failing b, .handed way => (s.hand b way).map fun s => ({ s with driver := .closing }, [])
  | .connecting _, .stopped | .settling, .stopped =>
    if s.cancelled then some ({ s with driver := .finished }, []) else none
  | .closing, .closed => some ({ s with cancelled := true, driver := .finished }, [])
  | .following, .followed =>
    if s.receiver = .finished then some ({ s with cancelled := true, driver := .joining }, []) else none
  | .joining, .joined =>
    if s.heartbeat = .finished then some ({ s with driver := .finished }, []) else none
  | _, _ => none

/-! ## The heartbeat task -/

def beaten (s : Session) (metrics : List Metric) : Call.Progress → Session × List Metric
  | .running client call => ({ s with heartbeat := .beating client call }, metrics)
  | .finished client (.ok _) => ({ s with heartbeat := .resting client }, metrics)
  | .finished _ (.error (.cancelled _ _)) => ({ s with heartbeat := .finished }, metrics)
  | .finished _ (.error e) => ({ s with heartbeat := .reporting e }, metrics)

/-- A beat starts only while the session is not cancelled. The slot for its failure is always free,
since the task ends with the first one. A task that breaks down at its start leaves nothing in the slot. -/
def heartbeatStep (s : Session) (event : HeartbeatEvent) : Option (Session × List Metric) :=
  match s.heartbeat, event with
  | .starting client, .started clock =>
    some ({ s with heartbeat := if s.plan.beatsFrom clock then .resting client else .finished }, [])
  | .resting client, .ticked =>
    if s.cancelled then none
    else some ({ s with heartbeat := .beating client (.start s.plan.heartbeatRequest) },
      [.heartbeatSent client.service])
  | .beating client call, .beat e =>
    (call.step s.cancelled client e).map fun r => s.beaten r.2 r.1
  | .reporting e, .reported =>
    some ({ s with
      heartbeat := .finished
      control := if s.receiver.running then some e else s.control }, [])
  | .resting _, .stopped =>
    if s.cancelled then some ({ s with heartbeat := .finished }, []) else none
  | _, _ => none

/-! ## The receiver -/

def receiverFails (s : Session) (f : Failure) : Session × List Metric :=
  ({ s with receiver := .forwarding (s.plan.failure f) false }, failureMetrics f)

def heard (s : Session) : Except SocketError Frame → Session × List Metric
  | .error e => s.receiverFails (.socket e)
  | .ok frame =>
    match Broadcast.decode frame with
    | .error e => s.receiverFails (.malformed e)
    | .ok b => ({ s with receiver := .forwarding b true }, [.broadcastReceived b.isOk])

/-- The receiver after handing over a broadcast: it goes on only if the consumer accepted a good one.
A failing one from the service is counted as a failure of the session. -/
def forwarded (s : Session) (b : Broadcast) (remote : Bool) (way : Handover) : Session × List Metric :=
  if b.isOk then
    ({ s with receiver := if way = .accepted then .listening else .finished }, [])
  else ({ s with receiver := .finished }, if remote then [.subscriptionFailure .remote] else [])

def receiverStep (s : Session) (event : ReceiverEvent) : Option (Session × List Metric) :=
  match s.receiver, event with
  | .listening, .heard r => some (s.heard r)
  | .listening, .alerted =>
    s.control.map fun e => { s with control := none }.receiverFails (.heartbeat e)
  | .listening, .deserted =>
    if s.control.isNone && s.heartbeat = .finished then some ({ s with receiver := .finished }, [])
    else none
  | .listening, .stopped =>
    if s.cancelled then some ({ s with receiver := .finished }, []) else none
  | .forwarding b remote, .handed way => (s.hand b way).map fun s => s.forwarded b remote way
  | _, _ => none

/-! ## The consumer -/

def consumerStep (s : Session) (event : ConsumerEvent) : Option (Session × List Metric) :=
  match event with
  | .cancelled => some ({ s with cancelled := true }, [])
  | .detached => if s.cancelled then some ({ s with attached := false, inbox := [] }, []) else none
  | .took =>
    match s.inbox with
    | [] => none
    | _ :: rest => if s.attached then some ({ s with inbox := rest }, []) else none

/-! ## Steps -/

/-- What an event makes of a session, and what it counts; `none` if it cannot happen now. -/
def step (s : Session) : Event → Option (Session × List Metric)
  | .driver e => s.driverStep e
  | .heartbeat e => s.heartbeatStep e
  | .receiver e => s.receiverStep e
  | .consumer e => s.consumerStep e

/-- What dropping a session where it stands counts: the duration of its call. -/
def dropped (s : Session) : List Metric :=
  match s.call? with
  | some _ => [.requestDuration]
  | none => []

end MessageBus.Session
