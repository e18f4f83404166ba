import MessageBus.Book
import MessageBus.Envelope.Decode
import MessageBus.Socket
import MessageBus.Telemetry.Metric
/-!
# Publishers

A publisher writes the broadcasts of a bounded queue to its socket, one after the other in the order in
which they entered. Any number of handles put broadcasts in. It stops when it is cancelled, when all
handles are gone and the queue is empty, or when the socket fails; then the queue is closed.
-/
namespace MessageBus
set_option autoImplicit false
open Telemetry (Metric)

inductive PublisherError
  /-- The socket refused a broadcast on this topic. -/
  | send (topic : String) (e : SocketError)
  | closed
  | envelope (e : EnvelopeError)
deriving DecidableEq

def PublisherError.message : PublisherError → String
  | .send topic e => "failed to send broadcast on '" ++ topic ++ "': " ++ e.message
  | .closed => "publisher closed"
  | .envelope e => e.message

namespace Publisher

inductive Phase
  | waiting
  | writing (b : Broadcast)
  | finished (result : Except PublisherError Nat)
  /-- It was given up before it ran. -/
  | abandoned

inductive Event
  | took
  | written
  | writeFailed (e : SocketError)
  | drained
  | cancelled
deriving DecidableEq

end Publisher

structure Publisher where
  capacity : Nat
  /-- What waits to be written, oldest first. -/
  queue : List Broadcast
  handles : Nat
  published : Nat
  phase : Publisher.Phase

namespace Publisher

/-- A publisher with one handle, whose queue has room for one broadcast at least. -/
def new (capacity : Nat) : Publisher := ⟨max capacity 1, [], 1, 0, .waiting⟩

/-- Whether the queue takes no more broadcasts. -/
def isClosed (p : Publisher) : Bool :=
  match p.phase with
  | .waiting | .writing _ => false
  | .finished _ | .abandoned => true

/-- The end of a publisher; what is still queued will not be written. -/
def finish (p : Publisher) (result : Except PublisherError Nat) : Publisher :=
  { p with queue := [], phase := .finished result }

def abandon (p : Publisher) : Publisher := { p with queue := [], phase := .abandoned }

/-! ## Handles -/

/-- Queues a broadcast; waits, as `none`, while the queue is full. -/
def publish (p : Publisher) (b : Broadcast) : Option (Except PublisherError Publisher) :=
  if p.isClosed then some (.error .closed)
  else if p.capacity ≤ p.queue.length then none
  else some (.ok { p with queue := p.queue ++ [b] })

/-- Queues a reply on a topic if some subscriber in the book wants it, and says how many do. -/
def publishMatching (p : Publisher) (book : Book) (topic : Topic) (reply : Reply) :
    Option (Except PublisherError (Publisher × Nat)) :=
  match (book.interested topic).length with
  | 0 => some (.ok (p, 0))
  | n =>
    match Broadcast.make topic.render reply with
    | .error e => some (.error (.envelope e))
    | .ok b => (p.publish b).map fun r => r.map (·, n)

def addHandle (p : Publisher) : Publisher := { p with handles := p.handles + 1 }

def dropHandle (p : Publisher) : Publisher := { p with handles := p.handles - 1 }

/-! ## Running -/

/-- What an event makes of a publisher, and what it counts; `none` if the event cannot happen now.
`fired` says whether its canceller has given the signal. -/
def step (fired : Bool) (p : Publisher) (event : Event) : Option (Publisher × List Metric) :=
  match p.phase, event with
  | .waiting, .took =>
    match p.queue with
    | [] => none
    | b :: rest => some ({ p with queue := rest, phase := .writing b }, [])
  | .waiting, .drained =>
    if p.queue.isEmpty && p.handles = 0 then some (p.finish (.ok p.published), []) else none
  | .waiting, .cancelled => if fired then some (p.finish (.ok p.published), []) else none
  | .writing b, .written =>
    some ({ p with published := p.published + 1, phase := .waiting }, [.broadcastPublished b.topic])
  | .writing b, .writeFailed e => some (p.finish (.error (.send b.topic e)), [])
  | _, _ => none

end Publisher
end MessageBus
