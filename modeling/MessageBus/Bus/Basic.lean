import MessageBus.Network.Broadcasts
import MessageBus.Network.Calls
import MessageBus.Publisher
import MessageBus.Server
import MessageBus.Session.Clock
/-!
# A bus

One service on the in-process network with everything that uses it: the server that answers its
requests, with a subscription book; the publisher of its broadcasts; one client that makes calls; and
any number of subscriber sessions.
-/
namespace MessageBus
set_option autoImplicit false
open Telemetry (Metric)

namespace Bus

structure Member where
  clocked : Session.Clocked
  source : Option Network.SourceId

/-- A call of the client, and when its present wait runs out. -/
structure Pending where
  call : Call
  due : Option Instant

end Bus

structure Bus where
  now : Instant
  network : Network
  service : Endpoint
  listener : Network.ReplyId
  server : Server ClockedBook
  publisher : Publisher
  stopped : Bool
  client : Client
  pending : Option Bus.Pending
  answer : Option (Except CallError Reply)
  members : Pool Bus.Member
  /-- All that was counted; what the latest events counted comes first. -/
  metrics : List Metric

namespace Bus

def broadcastUrl (b : Bus) : String :=
  match b.service.broadcast with
  | .ok e => e.url
  | .error _ => b.service.url

/-- A bus on which nobody has done anything yet; `none` if its service cannot be set up. -/
def start (service : Endpoint) (router : Router ClockedBook) (transport : TransportConfig)
    (broadcastsHeld queued : Nat) : Option Bus := do
  let target ← service.broadcast.toOption
  let (listener, network) ← ((Network.new broadcastsHeld).bindReply service.url).toOption
  let network ← network.openChannel target.url
  return {
    now := 0
    network := network
    service := service
    listener := listener
    server := .start router default
    publisher := .new queued
    stopped := false
    client := .new service transport
    pending := none
    answer := none
    members := .empty
    metrics := [] }

def count (b : Bus) (metrics : List Metric) : Bus := { b with metrics := metrics ++ b.metrics }

def book (b : Bus) : Book := b.server.state.book

def withBook (b : Bus) (book : Book) : Bus :=
  { b with server := { b.server with state := { b.server.state with book := book } } }

end Bus
end MessageBus
