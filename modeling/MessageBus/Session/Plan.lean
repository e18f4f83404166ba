import MessageBus.Client.Basic
import MessageBus.Envelope.Decode
import MessageBus.Subscription
/-!
# Session plans

What a subscriber session is to do: which service to follow, under which address and with which timing
are matters of its subscriber, which may open any number of sessions, and with which filter is the
session's own. A failure that the session makes itself is a failing broadcast whose topic is the
filter's key without braces, so that it is always a proper topic.
-/
namespace MessageBus
set_option autoImplicit false

structure Subscriber where
  endpoint : Endpoint
  /-- The address that is given to the service, for all sessions the same. -/
  address : String
  transport : TransportConfig
  timing : SubscriberConfig
deriving DecidableEq

def Subscriber.forService (registry : Registry) (service address : String)
    (transport : TransportConfig) (timing : SubscriberConfig) : Except CallError Subscriber :=
  match registry.resolve service with
  | .ok endpoint => .ok ⟨endpoint, address, transport, timing⟩
  | .error e => .error (.config e)

namespace Session

structure Plan extends Subscriber where
  filter : TopicFilter
deriving DecidableEq

inductive Failure
  | noBroadcasts (e : RegistryError)
  | connect (e : SocketError)
  | connectTimeout (url : String) (limit : Duration)
  | handshake (e : CallError)
  | heartbeat (e : CallError)
  | malformed (e : EnvelopeError)
  | socket (e : SocketError)
deriving DecidableEq

namespace Failure

def message : Failure → String
  | .noBroadcasts e => e.message
  | .connect e => e.message
  | .connectTimeout url limit => "broadcast connect to " ++ url ++ " timed out after " ++ limit.text
  | .handshake e => "subscribe failed: " ++ e.message
  | .heartbeat e => "heartbeat failed: " ++ e.message
  | .malformed e => "malformed broadcast: " ++ e.message
  | .socket e => "broadcast socket failed: " ++ e.message

def reason : Failure → Telemetry.FailureReason
  | .noBroadcasts _ | .connect _ | .connectTimeout _ _ => .connect
  | .handshake _ => .handshake
  | .heartbeat _ => .heartbeat
  | .malformed _ => .malformed
  | .socket _ => .socket

end Failure

namespace Plan

def failureTopic (p : Plan) : String := String.ofList (p.filter.key.toList.filter (· ≠ '\x7b'))

theorem failureTopic_brace_free (p : Plan) : '\x7b' ∉ p.failureTopic.toList := by
  simp [failureTopic]

def failure (p : Plan) (f : Failure) : Broadcast :=
  ⟨p.failureTopic, .fail f.message, p.failureTopic_brace_free⟩

def room (p : Plan) : Nat := max p.timing.channelCapacity 1

def largestRoom : Nat := 0x1FFFFFFFFFFFFFFF

/-- Whether the session can be opened. Making a channel with too much room breaks down whoever asks for
it, before there is a session. -/
def fits (p : Plan) : Bool := p.room ≤ largestRoom

/-- What the machine's clock cannot show any more: it counts its seconds in 63 bits. -/
def clockEnd : Duration := .ofSecs 0x8000000000000000

/-- Whether beats can be timed from this reading of the machine's clock: they are some time apart, and the
first one is due before the clock's end. The heartbeat task breaks down where they cannot. -/
def beatsFrom (p : Plan) (clock : Duration) : Bool :=
  !p.timing.heartbeatInterval.isZero &&
    clock.nanos + p.timing.heartbeatInterval.nanos < clockEnd.nanos

def subscribeRequest (p : Plan) : Request := .subscribe p.address p.filter

def heartbeatRequest (p : Plan) : Request := .heartbeat p.address

end Plan
end Session

def Subscriber.subscribe (s : Subscriber) (filter : TopicFilter) : Session.Plan := ⟨s, filter⟩

end MessageBus
