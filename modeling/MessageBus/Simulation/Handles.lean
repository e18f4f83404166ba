import MessageBus.Network.Broadcasts
import MessageBus.Network.Requests
/-!
# Named sockets

Sockets on one network under names of one's choice. Opening a socket under a name that is taken closes
the socket that had it. What would have to wait is given up and changes nothing.
-/
namespace MessageBus.Simulation
set_option autoImplicit false

inductive Handle
  | reply (id : Network.ReplyId)
  | request (id : SocketId)
  | sink (url : String)
  | source (id : Network.SourceId)
deriving DecidableEq, Repr

structure Handles where
  network : Network
  names : Table Handle

inductive Refused
  | socket (e : SocketError)
  | pending
  /-- The channels of the network can hold nothing. -/
  | noCapacity
  | unknown

namespace Handles

def new (capacity : Nat) : Handles := ⟨.new capacity, .empty⟩

def close (n : Network) : Handle → Network
  | .reply id => n.closeReply id
  | .request id => n.closeRequest id
  | .sink _ => n
  | .source id => n.closeSource id

def name (s : Handles) (network : Network) (name : String) (h : Handle) : Handles :=
  ⟨((s.names.get? name).map (close network)).getD network, s.names.insert name h⟩

def drop? (s : Handles) (name : String) : Option Handles :=
  (s.names.get? name).map fun h => ⟨close s.network h, s.names.erase name⟩

/-! ## Opening -/

def bindReply (s : Handles) (as url : String) : Except Refused Handles :=
  match s.network.bindReply url with
  | .ok (id, n) => .ok (s.name n as (.reply id))
  | .error e => .error (.socket e)

def dial (s : Handles) (as url : String) : Except Refused Handles :=
  match s.network.dial url with
  | .ok (id, n) => .ok (s.name n as (.request id))
  | .error e => .error (.socket e)

def bindPublisher (s : Handles) (as url : String) : Except Refused Handles :=
  match s.network.openChannel url with
  | some n => .ok (s.name n as (.sink url))
  | none => .error .noCapacity

def connect (s : Handles) (as url : String) : Except Refused Handles :=
  match s.network.connect url with
  | some (id, n) => .ok (s.name n as (.source id))
  | none => .error .noCapacity

/-! ## Using -/

def send (s : Handles) (name : String) (frame : Frame) : Except Refused Handles :=
  match s.names.get? name with
  | some (.request id) =>
    match s.network.sendRequest id frame with
    | some (.ok n) => .ok { s with network := n }
    | some (.error e) => .error (.socket e)
    | none => .error .pending
  | some (.reply id) =>
    match s.network.sendReply id frame with
    | .ok n => .ok { s with network := n }
    | .error e => .error (.socket e)
  | some (.sink url) => .ok { s with network := s.network.publish url frame }
  | some (.source _) | none => .error .unknown

/-- What a receive comes to; a failed one may change the network, too. -/
def receive (s : Handles) (name : String) : Handles × Except Refused Frame :=
  let settled (r : Option (Except SocketError Frame × Network)) : Handles × Except Refused Frame :=
    match r with
    | some (result, n) => ({ s with network := n }, result.mapError .socket)
    | none => (s, .error .pending)
  match s.names.get? name with
  | some (.request id) => settled (s.network.receiveReply id)
  | some (.reply id) => settled (s.network.receiveRequest id)
  | some (.source id) => settled ((s.network.receiveBroadcast id).map fun r => (.ok r.1, r.2))
  | some (.sink _) | none => (s, .error .unknown)

def sendMany (s : Handles) (name text : String) (count : Nat) : Handles × Except Refused Unit :=
  (List.range count).foldl (fun (s, _) i =>
    match s.send name (Utf8.bytes (text ++ toString i)) with
    | .ok s => (s, .ok ())
    | .error e => (s, .error e)) (s, .ok ())

/-- Dials sockets and sends a numbered frame on each: how many sends were done, and how many would have
to wait. -/
def flood (s : Handles) (name url : String) (count : Nat) : Handles × Nat × Nat :=
  (List.range count).foldl (fun (s, sent, pending) i =>
    match s.dial (name ++ toString i) url with
    | .error _ => (s, sent, pending)
    | .ok s =>
      match s.send (name ++ toString i) (Utf8.bytes (toString i)) with
      | .ok s => (s, sent + 1, pending)
      | .error .pending => (s, sent, pending + 1)
      | .error _ => (s, sent, pending)) (s, 0, 0)

end Handles
end MessageBus.Simulation
