import MessageBus.Duration.Basic
import MessageBus.Subscription
import MessageBus.Table
/-!
# The subscription book

What a publishing service knows of its subscribers: under each address the filter it asked for and the
time it was last heard of. The book answers subscribe and heartbeat requests; a subscriber that was
silent for longer than a given time can be struck out.
-/
namespace MessageBus
set_option autoImplicit false

namespace Book

structure Entry where
  filter : TopicFilter
  lastSeen : Instant
deriving DecidableEq

end Book

structure Book where
  table : Table Book.Entry
deriving Inhabited

namespace Book

def empty : Book := ⟨.empty⟩

/-- Enters a subscriber, in place of any entry under its address. -/
def subscribe (b : Book) (now : Instant) (address : String) (filter : TopicFilter) : Book :=
  ⟨b.table.insert address ⟨filter, now⟩⟩

/-- Notes that a subscriber was heard of; `none` if the book does not know it. -/
def heartbeat? (b : Book) (now : Instant) (address : String) : Option Book :=
  (b.table.get? address).map fun e => ⟨b.table.insert address { e with lastSeen := now }⟩

def knows (b : Book) (address : String) : Bool := b.table.contains address

def remove (b : Book) (address : String) : Book := ⟨b.table.erase address⟩

/-- Whether an entry was heard of no longer ago than `ttl`. -/
def Entry.alive (e : Entry) (now : Instant) (ttl : Duration) : Bool := now - e.lastSeen ≤ ttl.nanos

/-- The addresses that were silent for longer than `ttl`, sorted. -/
def silent (b : Book) (now : Instant) (ttl : Duration) : List String :=
  (b.table.filter fun _ e => !e.alive now ttl).keys

def expire (b : Book) (now : Instant) (ttl : Duration) : Book :=
  ⟨b.table.filter fun _ e => e.alive now ttl⟩

/-- The addresses whose filter accepts a topic, sorted. -/
def interested (b : Book) (topic : Topic) : List String :=
  (b.table.filter fun _ e => e.filter.accepts topic).keys

def filterOf? (b : Book) (address : String) : Option TopicFilter :=
  (b.table.get? address).map Entry.filter

def size (b : Book) : Nat := b.table.size

def isEmpty (b : Book) : Bool := b.table.isEmpty

/-! ## Requests -/

def accepted : Reply := .ok .empty

/-- Answers a subscribe request: the address is looked at before the filter. -/
def handleSubscribe (b : Book) (now : Instant) (params : Params) : Book × Reply :=
  match params.getString "subscriber" with
  | .error e => (b, .fail e.message)
  | .ok address =>
    match (params.get? "topic_filter").map TopicFilter.ofJson with
    | some (.ok filter) => (b.subscribe now address filter, accepted)
    | some (.error e) => (b, .fail ("invalid topic_filter: " ++ e.message))
    | none => (b, .fail "missing parameter 'topic_filter'")

def handleHeartbeat (b : Book) (now : Instant) (params : Params) : Book × Reply :=
  match params.getString "subscriber" with
  | .error e => (b, .fail e.message)
  | .ok address =>
    match b.heartbeat? now address with
    | some b => (b, accepted)
    | none => (b, .fail "unknown subscriber")

/-- Answers a request; the book is changed only by one that it accepts. -/
def handle (b : Book) (now : Instant) (request : Request) : Book × Reply :=
  if request.command = Request.subscribeCommand then b.handleSubscribe now request.params
  else if request.command = Request.heartbeatCommand then b.handleHeartbeat now request.params
  else (b, .fail ("unknown command '" ++ request.command ++ "'"))

end Book
end MessageBus
