import MessageBus.Bus.Basic
/-!
# Steps of a bus

What may happen on a bus: each of its parties does one thing at a time, and any of them may be next.
What a party does on a socket goes through the network; a wait ends when it is due.
-/
namespace MessageBus.Bus
set_option autoImplicit false
open Telemetry (Metric)

inductive SessionAct
  | driver
  | heartbeat
  | listen
  /-- An event that does not come from the network. -/
  | own (e : Session.Event)

inductive Act
  | serverTakes
  | serverHandles
  | serverSends
  | serverStops
  | publisherTakes
  | publisherWrites
  | publisherStops
  | clientOperates
  | clientBegins
  | clientExpires
  | session (id : Nat) (act : SessionAct)

/-! ## The service -/

/-- The server takes an event; when it ends, its socket is closed. -/
def serverEvent (b : Bus) (network : Network) (e : Server.Event) : Option Bus :=
  (b.server.step b.stopped e).map fun s =>
    { b with
      server := s
      network := if s.result?.isSome then network.closeReply b.listener else network }

def serverTakes (b : Bus) : Option Bus :=
  match b.server.phase with
  | .waiting =>
    (b.network.receiveRequest b.listener).bind fun
      | (.ok frame, n) => b.serverEvent n (.received frame)
      | (.error e, n) => b.serverEvent n (.receiveFailed e)
  | _ => none

def serverSends (b : Bus) : Option Bus :=
  match b.server.phase with
  | .answering frame =>
    match b.network.sendReply b.listener frame with
    | .ok n => b.serverEvent n .sent
    | .error e => b.serverEvent b.network (.sendFailed e)
  | _ => none

def publisherEvent (b : Bus) (network : Network) (e : Publisher.Event) : Option Bus :=
  (b.publisher.step b.stopped e).map fun (p, metrics) =>
    { b with publisher := p, network := network }.count metrics

def publisherWrites (b : Bus) : Option Bus :=
  match b.publisher.phase with
  | .writing broadcast =>
    b.publisherEvent (b.network.publish b.broadcastUrl broadcast.encode) .written
  | _ => none

/-! ## The client -/

def progressed (b : Bus) (metrics : List Metric) (p : Call.Progress) : Bus :=
  let b := b.count metrics
  match p with
  | .running client call =>
    { b with
      client := client
      network := b.network.release b.client.socket client.socket
      pending := some ⟨call, (call.limit client).map (b.now + ·.nanos)⟩ }
  | .finished client result =>
    { b with
      client := client
      network := b.network.release b.client.socket client.socket
      pending := none
      answer := some result }

def clientEvent (b : Bus) (p : Pending) (network : Network) (e : Call.Event) : Option Bus :=
  (p.call.step false b.client e).map fun r => { b with network := network }.progressed r.2 r.1

def clientOperates (b : Bus) : Option Bus :=
  b.pending.bind fun p =>
    (b.network.operate b.client p.call).bind fun (e, n) => b.clientEvent p n e

def clientBegins (b : Bus) : Option Bus := b.pending.bind fun p => b.clientEvent p b.network .begin

def clientExpires (b : Bus) : Option Bus :=
  b.pending.bind fun p =>
    p.due.bind fun due => if due ≤ b.now then b.clientEvent p b.network .expired else none

/-! ## Sessions -/

def socket? (s : Session) : Option SocketId :=
  match s.driver, s.heartbeat with
  | .subscribing client _, _ => client.socket
  | _, .starting client | _, .resting client | _, .beating client _ => client.socket
  | _, _ => none

/-- A session takes an event. What it no longer holds is closed. -/
def sessionEvent (b : Bus) (id : Nat) (m : Member) (network : Network) (e : Session.Event) :
    Option Bus :=
  (m.clocked.step b.now e).map fun (clocked, metrics) =>
    let network := network.release (socket? m.clocked.session) (socket? clocked.session)
    let keep := clocked.session.holdsSource
    let network := if keep then network else m.source.elim network network.closeSource
    { b with
      network := network
      members := b.members.modify id fun _ => ⟨clocked, if keep then m.source else none⟩ }.count metrics

def sessionConnects (b : Bus) (id : Nat) (m : Member) (target : Endpoint) : Option Bus :=
  (b.network.connect target.url).bind fun (source, n) =>
    b.sessionEvent id { m with source := some source } n (.driver .connected)

def sessionDriver (b : Bus) (id : Nat) (m : Member) : Option Bus :=
  match m.clocked.session.driver with
  | .connecting target => b.sessionConnects id m target
  | .subscribing client call =>
    (b.network.operate client call).bind fun (e, n) => b.sessionEvent id m n (.driver (.subscribe e))
  | _ => none

def sessionHeartbeat (b : Bus) (id : Nat) (m : Member) : Option Bus :=
  match m.clocked.session.heartbeat with
  | .beating client call =>
    (b.network.operate client call).bind fun (e, n) => b.sessionEvent id m n (.heartbeat (.beat e))
  | _ => none

def sessionListens (b : Bus) (id : Nat) (m : Member) : Option Bus :=
  match m.clocked.session.receiver, m.source with
  | .listening, some source =>
    (b.network.receiveBroadcast source).bind fun (frame, n) =>
      b.sessionEvent id m n (.receiver (.heard (.ok frame)))
  | _, _ => none

def due (now : Instant) (expiry : Option (Instant × Session.Event)) : Bool := expiry.any fun x => x.1 ≤ now

def ownCall (due : Bool) : Call.Event → Bool
  | .begin | .cancelled => true
  | .expired => due
  | _ => false

/-- Whether an event of a session can come without the network at some time: the end of a wait when it
is due, and what comes from the network not at all. -/
def ownAt (now : Instant) (c : Session.Clocked) : Session.Event → Bool
  | .driver .connected | .driver (.connectFailed _) | .receiver (.heard _) => false
  | .driver .connectExpired | .driver .settled => due now c.driverExpiry?
  | .driver (.subscribe e) => ownCall (due now c.driverExpiry?) e
  | .heartbeat .ticked => due now c.heartbeatExpiry?
  | .heartbeat (.beat e) => ownCall (due now c.heartbeatExpiry?) e
  | _ => true

def sessionActs (b : Bus) (id : Nat) (m : Member) : SessionAct → Option Bus
  | .driver => b.sessionDriver id m
  | .heartbeat => b.sessionHeartbeat id m
  | .listen => b.sessionListens id m
  | .own e => if ownAt b.now m.clocked e then b.sessionEvent id m b.network e else none

/-! ## Steps -/

/-- What an act makes of a bus; `none` if it cannot be done now. -/
def step (b : Bus) : Act → Option Bus
  | .serverTakes => b.serverTakes
  | .serverHandles => b.serverEvent b.network .handled
  | .serverSends => b.serverSends
  | .serverStops => b.serverEvent b.network .cancelled
  | .publisherTakes => b.publisherEvent b.network .took
  | .publisherWrites => b.publisherWrites
  | .publisherStops => b.publisherEvent b.network .cancelled
  | .clientOperates => b.clientOperates
  | .clientBegins => b.clientBegins
  | .clientExpires => b.clientExpires
  | .session id act => (b.members.get? id).bind fun m => b.sessionActs id m act

/-! ## What is asked of a bus -/

def subscribe (b : Bus) (plan : Session.Plan) : Bus :=
  { b with members := b.members.add ⟨.start plan, none⟩ }

def request (b : Bus) (r : Request) : Bus :=
  match b.pending with
  | some _ => b
  | none => { b with pending := some ⟨.start r, none⟩, answer := none }

def stop (b : Bus) : Bus := { b with stopped := true }

def consumer (b : Bus) (id : Nat) (e : Session.ConsumerEvent) : Bus :=
  (b.step (.session id (.own (.consumer e)))).getD b

def pass (b : Bus) (t : Instant) : Bus := { b with now := t }

/-- Time goes on to `t`, and the clock of the book as far. -/
def passWithBook (b : Bus) (t : Instant) : Bus :=
  let clock := b.server.state.now + (t - b.now)
  { b.pass t with server := { b.server with state := { b.server.state with now := clock } } }

end MessageBus.Bus
