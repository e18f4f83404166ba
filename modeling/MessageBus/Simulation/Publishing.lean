import MessageBus.Publisher
/-!
# Publishing to a script

A publisher whose socket takes a given number of frames and then fails. The publisher runs from when it
is started, as far as it can go after every step of its surroundings.
-/
namespace MessageBus.Simulation
set_option autoImplicit false
open Telemetry (Metric)

structure Publishing where
  publisher : Publisher
  book : Book
  started : Bool
  cancelled : Bool
  /-- How many frames the socket takes, and the failure after them. -/
  limit : Option (Nat × SocketError)
  frames : List Frame
  metrics : List Metric

namespace Publishing

def new (capacity : Nat) (book : Book) (limit : Option (Nat × SocketError)) : Publishing :=
  ⟨.new capacity, book, false, false, limit, [], []⟩

def failure? (s : Publishing) : Option SocketError :=
  s.limit.bind fun (n, e) => if n ≤ s.frames.length then some e else none

def next (s : Publishing) : Option (Publisher.Event × Option Frame) :=
  match s.publisher.phase with
  | .waiting =>
    if s.cancelled then some (.cancelled, none)
    else if !s.publisher.queue.isEmpty then some (.took, none)
    else if s.publisher.handles = 0 then some (.drained, none)
    else none
  | .writing b =>
    match s.failure? with
    | some e => some (.writeFailed e, none)
    | none => some (.written, some b.encode)
  | _ => none

def settleWithin : Nat → Publishing → Publishing
  | 0, s => s
  | fuel + 1, s =>
    match s.next with
    | none => s
    | some (event, frame) =>
      match s.publisher.step s.cancelled event with
      | none => s
      | some (publisher, metrics) =>
        settleWithin fuel { s with
          publisher := publisher
          frames := s.frames ++ frame.toList
          metrics := metrics ++ s.metrics }

/-- Lets the publisher run, if it was started: two events for every broadcast queued, and one more for
the end. -/
def settle (s : Publishing) : Publishing :=
  if s.started then settleWithin (2 * s.publisher.queue.length + 2) s else s

def start (s : Publishing) : Publishing := { s with started := true }

def cancel (s : Publishing) : Publishing := { s with cancelled := true }

def dropQueue (s : Publishing) : Publishing := { s with publisher := s.publisher.dropHandle }

def dropPublisher (s : Publishing) : Publishing := { s with publisher := s.publisher.abandon }

/-- Queues a broadcast; `none` if there is no room. -/
def publish (s : Publishing) (b : Broadcast) : Publishing × Option (Except PublisherError Unit) :=
  match s.publisher.publish b with
  | none => (s, none)
  | some (.error e) => (s, some (.error e))
  | some (.ok p) => ({ s with publisher := p }, some (.ok ()))

def publishMatching (s : Publishing) (topic : Topic) (reply : Reply) :
    Publishing × Option (Except PublisherError Nat) :=
  match s.publisher.publishMatching s.book topic reply with
  | none => (s, none)
  | some (.error e) => (s, some (.error e))
  | some (.ok (p, n)) => ({ s with publisher := p }, some (.ok n))

end Publishing
end MessageBus.Simulation
