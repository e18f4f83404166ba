import MessageBus.Server
/-!
# Serving a script

A reply socket that receives given frames in turn, and then nothing more: its server is cancelled, or
the socket fails. One of the sends may fail. The routes are small handlers to serve the frames with.
-/
namespace MessageBus.Simulation
set_option autoImplicit false
universe u

/-! ## Routes -/

inductive Route
  | echo
  | unsigned (key : String)
  | constant (reply : Reply)
  | book
deriving DecidableEq

namespace Route

def unsignedReply (key : String) (request : Request) : Reply :=
  match request.params.getUnsigned key with
  | .ok n => .ok (Params.empty.insert key (.number (.ofNat n)))
  | .error e => .fail e.message

/-- Adds a route to a router; a book is added under its own commands. -/
def register (r : Router ClockedBook) (command : String) (route : Route) : Router ClockedBook :=
  match route with
  | .echo => r.register command fun s request => (s, { Reply.ok request.params with message := request.command })
  | .unsigned key => r.register command fun s request => (s, unsignedReply key request)
  | .constant reply => r.register command fun s _ => (s, reply)
  | .book => r.registerBook

def router (routes : List (String × Route)) : Router ClockedBook :=
  routes.foldl (fun r p => register r p.1 p.2) .empty

end Route

/-! ## Scripts -/

structure Exchanges where
  frames : List Frame
  /-- The failure after the last frame; without one the server is cancelled there. -/
  failure : Option SocketError
  /-- The send that fails, counted from 0. -/
  refused : Option (Nat × SocketError)

variable {σ : Type u}

def after (s : Server σ) (event : Server.Event) : Server σ := (s.step true event).getD s

def answer (e : Exchanges) (s : Server σ) (frame : Frame) : Server σ × Option Frame :=
  let s := after (after s (.received frame)) .handled
  match s.phase, e.refused with
  | .answering reply, some (n, failure) =>
    if s.served = n then (after s (.sendFailed failure), none) else (after s .sent, some reply)
  | .answering reply, none => (after s .sent, some reply)
  | _, _ => (s, none)

def serve (e : Exchanges) (s : Server σ) : Server σ × List Frame :=
  let (s, replies) := e.frames.foldl (fun (s, replies) frame =>
    let (s, reply) := answer e s frame
    (s, replies ++ reply.toList)) (s, [])
  match e.failure with
  | some failure => (after s (.receiveFailed failure), replies)
  | none => (after s .cancelled, replies)

end MessageBus.Simulation
