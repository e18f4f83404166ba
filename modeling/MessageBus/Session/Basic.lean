import MessageBus.Client.Call
import MessageBus.Session.Plan
/-!
# Subscriber sessions

A session is three tasks and a consumer that share one canceller. The driver connects to the broadcasts
of a service, lets the connection settle and subscribes; then it hands over to a heartbeat task, which
keeps the subscription alive, and a receiver, which passes broadcasts on to the consumer. The heartbeat
task tells the receiver of its failure through a slot for one message. Whatever ends the session, the
consumer gets at most one failing broadcast, and nothing after it.
-/
namespace MessageBus
set_option autoImplicit false

namespace Session

inductive Driver
  | starting
  | connecting (target : Endpoint)
  | settling
  | subscribing (client : Client) (call : Call)
  | failing (b : Broadcast)
  /-- About to cancel the session after a failure. -/
  | closing
  | following
  /-- The session is cancelled; waiting for the heartbeat task to end. -/
  | joining
  | finished
deriving DecidableEq

inductive Heartbeat
  | absent
  /-- About to set the time of the first beat. -/
  | starting (client : Client)
  | resting (client : Client)
  | beating (client : Client) (call : Call)
  | reporting (e : CallError)
  | finished
deriving DecidableEq

inductive Receiver
  | absent
  | listening
  /-- Handing a broadcast to the consumer; `remote` says whether it came from the service. -/
  | forwarding (b : Broadcast) (remote : Bool)
  | finished
deriving DecidableEq

def Receiver.running : Receiver → Bool
  | .listening | .forwarding _ _ => true
  | .absent | .finished => false

end Session

structure Session where
  plan : Session.Plan
  driver : Session.Driver
  heartbeat : Session.Heartbeat
  receiver : Session.Receiver
  cancelled : Bool
  /-- The slot through which the heartbeat task tells of its failure. -/
  control : Option CallError
  inbox : List Broadcast
  attached : Bool
deriving DecidableEq

namespace Session

def start (plan : Plan) : Session :=
  ⟨plan, .starting, .absent, .absent, false, none, [], true⟩

def isOpen (s : Session) : Bool :=
  match s.driver with
  | .following | .joining | .finished => s.receiver.running
  | _ => true

/-- Whether the consumer has got all it will ever get. -/
def ended (s : Session) : Bool := s.inbox.isEmpty && !s.isOpen

def done (s : Session) : Bool :=
  match s.driver, s.heartbeat, s.receiver with
  | .finished, .absent, .absent | .finished, .finished, .finished => true
  | _, _, _ => false

def holdsSource (s : Session) : Bool :=
  match s.driver with
  | .settling | .subscribing _ _ => true
  | _ => s.receiver.running

/-- The call under way, if any: that of the driver or of the heartbeat task. -/
def call? (s : Session) : Option (Client × Call) :=
  match s.driver, s.heartbeat with
  | .subscribing client call, _ => some (client, call)
  | _, .beating client call => some (client, call)
  | _, _ => none

end Session
end MessageBus
