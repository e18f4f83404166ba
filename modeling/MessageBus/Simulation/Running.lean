import MessageBus.Bus.Step
/-!
# Running a bus

A bus whose subscribers have names, run so that at every instant everything happens that can happen
before time goes on. Time goes on while one sleeps, and while a request waits; the clock of the book
stands still meanwhile.
-/
namespace MessageBus.Simulation
set_option autoImplicit false
open Telemetry (Metric)

structure Running where
  bus : Bus
  names : Table Nat

namespace Running

/-! ## Scheduling -/

def serviceActs : List Bus.Act :=
  [.serverSends, .serverHandles, .serverTakes, .serverStops, .publisherWrites, .publisherTakes,
    .publisherStops, .clientOperates, .clientBegins]

def sessionActs (id : Nat) (m : Bus.Member) : List Bus.Act :=
  [.session id .driver, .session id .heartbeat]
    ++ m.clocked.session.prompt?.toList.map (fun e => .session id (.own e))
    ++ [.session id .listen]

def expiries (b : Bus) : List Bus.Act :=
  .clientExpires :: b.members.entries.flatMap fun (id, m) =>
    m.clocked.expiries.map fun x => .session id (.own x.2)

/-- What may be done, in the order in which it is tried: waits end only when nothing else can be done. -/
def acts (b : Bus) : List Bus.Act :=
  serviceActs ++ b.members.entries.flatMap (fun (id, m) => sessionActs id m) ++ expiries b

def next? (b : Bus) : Option Bus := (acts b).findSome? b.step

def nextTime? (b : Bus) : Option Instant :=
  (((b.pending.bind Bus.Pending.due).toList
    ++ b.members.entries.flatMap fun x => x.2.clocked.expiries.map (·.1)).filter (b.now < ·)).min?

/-- Lets things happen until `done`, time going on by `pass` and not beyond `last`; `fuel` bounds the
number of events. -/
def runWithin (done : Bus → Bool) (pass : Bus → Instant → Bus) (last : Option Instant) : Nat → Bus → Bus
  | 0, b => b
  | fuel + 1, b =>
    if done b then b
    else
      match next? b with
      | some b => runWithin done pass last fuel b
      | none =>
        match nextTime? b, last with
        | some t, some l =>
          if t ≤ l then runWithin done pass last fuel (pass b t) else pass b l
        | some t, none => runWithin done pass last fuel (pass b t)
        | none, some l => pass b l
        | none, none => b

def callTime (c : TransportConfig) : Nat :=
  c.maxAttempts.getD 0 * ((3 * c.requestTimeout.nanos + c.reconnectDelay.nanos) / 1000000 + 1)

/-- Enough events for so many milliseconds: for every party a few in each, and for every frame held. -/
def fuel (b : Bus) (millis : Nat) : Nat :=
  32 * (millis + callTime b.client.config + b.network.held + 16) * (b.members.entries.length + 1)

def settle (s : Running) : Running :=
  { s with bus := runWithin (fun _ => false) Bus.pass (some s.bus.now) (fuel s.bus 0) s.bus }

def sleep (s : Running) (d : Duration) : Running :=
  let last := s.bus.now + d.nanos
  let bound := fuel s.bus (d.nanos / 1000000)
  { s with bus := runWithin (fun _ => false) Bus.passWithBook (some last) bound s.bus }

def request (s : Running) (r : Request) : Running × Option (Except CallError Reply) :=
  let bus := runWithin (fun b => b.answer.isSome) Bus.pass none (fuel s.bus 0) (s.bus.request r)
  ({ s with bus := bus }, bus.answer)

/-! ## Subscribers -/

def session? (s : Running) (name : String) : Option (Nat × Session) := do
  let id ← s.names.get? name
  let m ← s.bus.members.get? id
  return (id, m.clocked.session)

def consumer (s : Running) (name : String) (e : Session.ConsumerEvent) : Running :=
  match s.names.get? name with
  | some id => { s with bus := s.bus.consumer id e }
  | none => s

def cancel (s : Running) (name : String) : Running := s.consumer name .cancelled

def drop (s : Running) (name : String) : Running :=
  let s := (s.cancel name).consumer name .detached
  { s with names := s.names.erase name }

def subscribe (s : Running) (plan : Session.Plan) : Running :=
  let id := s.bus.members.next
  let bus := s.bus.subscribe plan
  let s := { s with bus := bus }.drop plan.address
  { s with names := s.names.insert plan.address id }

def receive (s : Running) (name : String) : Running × Option Broadcast :=
  (s.consumer name .took, (s.session? name).bind fun x => x.2.inbox.head?)

/-! ## Broadcasts -/

def emit (s : Running) (b : Broadcast) : Running × Option (Except PublisherError Unit) :=
  match s.bus.publisher.publish b with
  | none => (s, none)
  | some (.error e) => (s, some (.error e))
  | some (.ok p) => ({ s with bus := { s.bus with publisher := p } }, some (.ok ()))

def emitMatching (s : Running) (topic : Topic) (reply : Reply) :
    Running × Option (Except PublisherError Nat) :=
  match s.bus.publisher.publishMatching s.bus.book topic reply with
  | none => (s, none)
  | some (.error e) => (s, some (.error e))
  | some (.ok (p, n)) => ({ s with bus := { s.bus with publisher := p } }, some (.ok n))

/-! ## The book -/

def withBook (s : Running) (book : Book) : Running := { s with bus := s.bus.withBook book }

/-! ## The end -/

def stop (s : Running) : Running := { s with bus := s.bus.stop }

/-- What was counted, with the sessions dropped where they stand. -/
def counted (s : Running) : List Metric :=
  s.bus.members.entries.flatMap (fun x => x.2.clocked.session.dropped) ++ s.bus.metrics

end Running
end MessageBus.Simulation
