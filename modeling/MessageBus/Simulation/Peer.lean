import MessageBus.Client.Call
/-!
# Scripted peers

A peer that answers dials and sends by a script: the n-th dial comes to what the script says of it,
and so does the n-th send, with the receive that follows. Dials beyond the script succeed, and sends
beyond it meet one default answer. The peer keeps a log of what it was asked.
-/
namespace MessageBus.Simulation
set_option autoImplicit false

/-! ## Scripts -/

inductive Opening
  | after (delay : Duration)
  | refused (reason : String)
  | never
deriving DecidableEq, Repr

inductive Answer
  | silent
  | stuck
  | sendFailed (e : SocketError)
  | reply (delay : Duration) (frame : Frame)
  | echo (delay : Duration) (message : String)
  | failed (delay : Duration) (e : SocketError)
deriving DecidableEq, Repr

structure Script where
  dials : List Opening
  answers : List Answer
  default : Answer

inductive Asked
  | dial (url : String)
  | send (frame : Frame)
  | connect (url : String)
deriving DecidableEq, Repr

structure Peer where
  script : Script
  answer : Answer
  opened : Nat
  log : List (Instant × Asked)

/-! ## Outcomes -/

/-- What becomes of an operation under way: an event at some time, unless the time allowed for the
operation ends before. -/
structure Awaited where
  outcome : Option (Instant × Call.Event)
  deadline : Option Instant
deriving DecidableEq, Repr

/-- The event that ends the operation. One that comes just at the deadline is in time. -/
def Awaited.next (a : Awaited) : Option (Instant × Call.Event) :=
  match a.outcome, a.deadline with
  | some (t, e), some d => if t ≤ d then some (t, e) else some (d, .expired)
  | some (t, e), none => some (t, e)
  | none, some d => some (d, .expired)
  | none, none => none

namespace Peer

def new (script : Script) : Peer := ⟨script, script.default, 0, []⟩

def note (p : Peer) (now : Instant) (asked : Asked) : Peer := { p with log := (now, asked) :: p.log }

def nextDial (p : Peer) : Opening × Peer :=
  match p.script.dials with
  | [] => (.after ⟨0⟩, p)
  | d :: rest => (d, { p with script := { p.script with dials := rest } })

def nextAnswer (p : Peer) : Peer :=
  match p.script.answers with
  | [] => { p with answer := p.script.default }
  | a :: rest => { p with answer := a, script := { p.script with answers := rest } }

def dial (p : Peer) (now : Instant) (url : String) : Option (Instant × Except SocketError SocketId) × Peer :=
  let (opening, p) := (p.note now (.dial url)).nextDial
  match opening with
  | .after delay => (some (now + delay.nanos, .ok p.opened), { p with opened := p.opened + 1 })
  | .refused reason => (some (now, .error (.connect url reason)), p)
  | .never => (none, p)

def sendOutcome (p : Peer) (now : Instant) : Option (Instant × Call.Event) :=
  match p.answer with
  | .stuck => none
  | .sendFailed e => some (now, .sendFailed e)
  | _ => some (now, .sent)

def receiveOutcome (p : Peer) (now : Instant) (request : Request) : Option (Instant × Call.Event) :=
  match p.answer with
  | .silent | .stuck | .sendFailed _ => none
  | .reply delay frame => some (now + delay.nanos, .received frame)
  | .echo delay message =>
    some (now + delay.nanos, .received { Reply.ok request.params with message := message }.encode)
  | .failed delay e => some (now + delay.nanos, .receiveFailed e)

def dialEvent : Except SocketError SocketId → Call.Event
  | .ok socket => .dialed socket
  | .error e => .refused e

def enter (p : Peer) (now : Instant) (client : Client) (call : Call) : Awaited × Peer :=
  let deadline := (call.limit client).map (now + ·.nanos)
  match call.phase with
  | .checking => (⟨some (now, .begin), none⟩, p)
  | .pausing => (⟨none, deadline⟩, p)
  | .dialing =>
    let (outcome, p) := p.dial now client.endpoint.url
    (⟨outcome.map fun o => (o.1, dialEvent o.2), deadline⟩, p)
  | .sending =>
    let p := (p.note now (.send call.request.encode)).nextAnswer
    (⟨p.sendOutcome now, deadline⟩, p)
  | .receiving => (⟨p.receiveOutcome now call.request, deadline⟩, p)

def events (p : Peer) : List (Instant × Asked) := p.log.reverse

end Peer
end MessageBus.Simulation
