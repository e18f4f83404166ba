import MessageBus.Client.Basic
import MessageBus.Envelope.Decode
/-!
# Calls

A call sends a request and waits for its reply, again and again until a reply comes, the attempts run
out, or the call is cancelled. It is a transition system: `Call.step` says what an event makes of a
client and its call, and every interleaving of sockets, clock and canceller is a sequence of events.
Every attempt dials if no socket is held, sends and receives, each within the request timeout; after a
failed dial it pauses. A failed send or receive discards the socket, and a reply, good or bad, keeps
it.
-/
namespace MessageBus
set_option autoImplicit false
open Telemetry (Metric)

namespace Call

inductive Phase
  | checking
  | dialing
  | pausing
  | sending
  | receiving
deriving DecidableEq, Repr

inductive Event
  | begin
  | dialed (socket : SocketId)
  | refused (e : SocketError)
  | sent
  | sendFailed (e : SocketError)
  | received (frame : Frame)
  | receiveFailed (e : SocketError)
  | expired
  | cancelled
deriving DecidableEq, Repr

end Call

/-- A call under way; `attempts` counts those begun. A counter of 32 bits does as well: a bound on the attempts
fits into them, and without a bound nothing looks at the count. -/
structure Call where
  request : Request
  attempts : Nat
  phase : Call.Phase
deriving DecidableEq

namespace Call

inductive Progress
  | running (client : Client) (call : Call)
  | finished (client : Client) (result : Except CallError Reply)

def start (request : Request) : Call := ⟨request, 0, .checking⟩

def limit (c : Client) (call : Call) : Option Duration :=
  match call.phase with
  | .checking => none
  | .dialing | .sending | .receiving => some c.config.requestTimeout
  | .pausing => some c.config.reconnectDelay

def exhausted (c : Client) (call : Call) : Bool :=
  match c.config.maxAttempts with
  | some n => n ≤ call.attempts
  | none => false

def running (c : Client) (call : Call) (phase : Phase) (metrics : List Metric) :
    Progress × List Metric :=
  (.running c { call with phase := phase }, metrics)

def beginSend (c : Client) (call : Call) (metrics : List Metric) : Progress × List Metric :=
  running c.countSend call .sending
    (metrics ++ [.requestSent c.service call.request.command])

/-- Ends a call that was cancelled; its socket is in the middle of an exchange and of no more use. -/
def abandoned (c : Client) (call : Call) : Progress × List Metric :=
  (.finished c.discard (.error (.cancelled c.service call.request.command)), [])

def retry (c : Client) (call : Call) (metrics : List Metric) : Progress × List Metric :=
  running c.discard call .checking metrics

def answered (c : Client) (call : Call) (frame : Frame) : Progress × List Metric :=
  match Reply.decode frame with
  | .error e => (.finished c (.error (.decode c.service e)), [])
  | .ok reply =>
    if reply.isOk then (.finished c (.ok reply), [.requestDuration])
    else
      (.finished c (.error (.application c.service call.request.command reply.message)),
        [.applicationFailure c.service call.request.command])

/-- Begins an attempt: the bound is looked at first, the canceller's signal (`fired`) after it. -/
def begun (fired : Bool) (c : Client) (call : Call) : Progress × List Metric :=
  if call.exhausted c then
    (.finished c (.error (.retriesExhausted c.service call.request.command call.attempts)), [])
  else
    let call := { call with attempts := call.attempts + 1 }
    if fired then abandoned c call
    else if c.socket.isSome then beginSend c call []
    else running c call .dialing []

/-- What an event makes of a call, and what it counts; `none` if the event cannot happen now. `fired`
says whether the call's canceller has given its signal. -/
def step (fired : Bool) (c : Client) (call : Call) (event : Event) :
    Option (Progress × List Metric) :=
  match call.phase, event with
  | .checking, .begin => some (begun fired c call)
  | .dialing, .dialed socket =>
    let (c, metrics) := c.install socket
    some (beginSend c call metrics)
  | .dialing, .refused _ | .dialing, .expired => some (running c call .pausing [])
  | .pausing, .expired => some (running c call .checking [])
  | .sending, .sent => some (running c call .receiving [])
  | .sending, .sendFailed _ | .sending, .expired => some (retry c call [])
  | .receiving, .received frame => some (answered c call frame)
  | .receiving, .receiveFailed _ => some (retry c call [])
  | .receiving, .expired =>
    some (retry c call [.requestTimeout c.service call.request.command])
  | .dialing, .cancelled | .pausing, .cancelled | .sending, .cancelled | .receiving, .cancelled =>
    if fired then some (abandoned c call) else none
  | _, _ => none

end Call
end MessageBus
