import MessageBus.Envelope.Basic
import MessageBus.Pool
import MessageBus.Socket
import MessageBus.Table
/-!
# The in-process network

A network inside one process: reply sockets that are bound to an address and take requests from a
queue, request sockets that were dialed to one of them, and for every address a channel on which
frames are broadcast. All state is here, so every operation is a function of the network. A reply socket
that is closed leaves its pool at once: a closed one that stays under its address until that is bound
again can neither be dialed nor keep others from binding, so nobody can tell.
-/
namespace MessageBus
set_option autoImplicit false

namespace Network

abbrev ReplyId := Nat

abbrev TicketId := Nat

abbrev SourceId := Nat

inductive Ticket
  | open
  | answered (frame : Frame)
  | lost
deriving DecidableEq, Repr

structure ReplySocket where
  url : String
  queue : List (Frame × TicketId)
  pending : Option TicketId
deriving DecidableEq, Repr

structure RequestSocket where
  peer : ReplyId
  pending : Option TicketId
deriving DecidableEq, Repr

/-- Frames sent on an address while a source was attached to it. -/
structure Channel where
  sent : Nat
  /-- The last of them, oldest first. -/
  held : List Frame
deriving DecidableEq, Repr

structure Source where
  url : String
  position : Nat
deriving DecidableEq, Repr

def queueDepth : Nat := 64

end Network

structure Network where
  capacity : Nat
  replies : Pool Network.ReplySocket
  requests : Pool Network.RequestSocket
  tickets : Pool Network.Ticket
  channels : Table Network.Channel
  sources : Pool Network.Source

namespace Network

def new (capacity : Nat) : Network := ⟨capacity, .empty, .empty, .empty, .empty, .empty⟩

/-- How many frames a channel holds: the capacity rounded up to a power of two. -/
def held (n : Network) : Nat := n.capacity.nextPowerOfTwo

end Network
end MessageBus
