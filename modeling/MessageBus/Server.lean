import MessageBus.Router
import MessageBus.Socket
/-!
# Reply servers

A server takes one frame after another from its reply socket and answers each before it takes the
next. It stops when it is cancelled while it waits for a frame, or when the socket fails; a frame that
it took is answered even if the canceller's signal comes in between.
-/
namespace MessageBus
set_option autoImplicit false
universe u

namespace Server

inductive Phase
  | waiting
  /-- Working on a frame it took. -/
  | handling (frame : Frame)
  | answering (frame : Frame)
  | finished (result : Except SocketError Nat)

inductive Event
  | received (frame : Frame)
  | receiveFailed (e : SocketError)
  | handled
  | sent
  | sendFailed (e : SocketError)
  | cancelled
deriving DecidableEq, Repr

end Server

structure Server (σ : Type u) where
  router : Router σ
  state : σ
  /-- How many answers were sent. -/
  served : Nat
  phase : Server.Phase

namespace Server
variable {σ : Type u}

def start (router : Router σ) (state : σ) : Server σ := ⟨router, state, 0, .waiting⟩

/-- What an event makes of a server; `none` if the event cannot happen now. `fired` says whether its
canceller has given the signal. -/
def step (fired : Bool) (s : Server σ) (event : Event) : Option (Server σ) :=
  match s.phase, event with
  | .waiting, .received frame => some { s with phase := .handling frame }
  | .waiting, .receiveFailed e => some { s with phase := .finished (.error e) }
  | .waiting, .cancelled => if fired then some { s with phase := .finished (.ok s.served) } else none
  | .handling frame, .handled =>
    let (state, reply) := s.router.reply s.state frame
    some { s with state := state, phase := .answering reply.encode }
  | .answering _, .sent => some { s with served := s.served + 1, phase := .waiting }
  | .answering _, .sendFailed e => some { s with phase := .finished (.error e) }
  | _, _ => none

def result? (s : Server σ) : Option (Except SocketError Nat) :=
  match s.phase with
  | .finished r => some r
  | _ => none

end Server
end MessageBus
