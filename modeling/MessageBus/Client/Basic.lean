import MessageBus.Client.Error
import MessageBus.Config.Basic
import MessageBus.Telemetry.Metric
/-!
# Clients

A client holds at most one request socket. A socket on which an exchange failed is discarded, and the
next one opened counts as a reconnect.
-/
namespace MessageBus
set_option autoImplicit false

structure ClientStats where
  sends : Nat
  /-- Sockets opened in place of a discarded one. -/
  reconnects : Nat
  dials : Nat
deriving DecidableEq, Repr

structure Client where
  endpoint : Endpoint
  config : TransportConfig
  socket : Option SocketId
  /-- Whether a socket was discarded and none opened since. -/
  discarded : Bool
  stats : ClientStats
deriving DecidableEq, Repr

namespace Client

def new (endpoint : Endpoint) (config : TransportConfig) : Client :=
  ⟨endpoint, config, none, false, ⟨0, 0, 0⟩⟩

def forService (registry : Registry) (service : String) (config : TransportConfig) :
    Except CallError Client :=
  match registry.resolve service with
  | .ok endpoint => .ok (new endpoint config)
  | .error e => .error (.config e)

def service (c : Client) : String := c.endpoint.name

def install (c : Client) (socket : SocketId) : Client × List Telemetry.Metric :=
  if c.discarded then
    ({ c with
        socket := some socket, discarded := false
        stats := { c.stats with
          reconnects := c.stats.reconnects + 1, dials := c.stats.dials + 1 } },
      [.reconnect c.service])
  else
    ({ c with socket := some socket, stats := { c.stats with dials := c.stats.dials + 1 } }, [])

def discard (c : Client) : Client :=
  if c.socket.isSome then { c with socket := none, discarded := true } else c

def countSend (c : Client) : Client := { c with stats := { c.stats with sends := c.stats.sends + 1 } }

def connected (c : Client) (dialed : Except SocketError SocketId) :
    Client × List Telemetry.Metric × Except CallError Unit :=
  match dialed with
  | .ok socket =>
    let (c, metrics) := c.install socket
    (c, metrics, .ok ())
  | .error e => (c, [], .error (.socket c.service e))

end Client
end MessageBus
