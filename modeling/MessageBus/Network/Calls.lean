import MessageBus.Client.Call
import MessageBus.Network.Requests
/-!
# Calls over the network

How the operation that a call is in goes on over the in-process network, and what becomes of the
sockets that a client gives up.
-/
namespace MessageBus.Network
set_option autoImplicit false

def sendFor (n : Network) (client : Client) (frame : Frame) : Option (Call.Event × Network) :=
  client.socket.bind fun id =>
    (n.sendRequest id frame).map fun
      | .ok n => (.sent, n)
      | .error e => (.sendFailed e, n)

def receiveFor (n : Network) (client : Client) : Option (Call.Event × Network) :=
  client.socket.bind fun id =>
    (n.receiveReply id).map fun
      | (.ok frame, n) => (.received frame, n)
      | (.error e, n) => (.receiveFailed e, n)

/-- How the operation of a call ends; `none` while it has to wait, or if it has none on the network. -/
def operate (n : Network) (client : Client) (call : Call) : Option (Call.Event × Network) :=
  match call.phase with
  | .checking | .pausing => none
  | .dialing =>
    match n.dial client.endpoint.url with
    | .ok (id, n) => some (.dialed id, n)
    | .error e => some (.refused e, n)
  | .sending => n.sendFor client call.request.encode
  | .receiving => n.receiveFor client

def release (n : Network) (before after : Option SocketId) : Network :=
  match before with
  | none => n
  | some id => if after = some id then n else n.closeRequest id

end MessageBus.Network
