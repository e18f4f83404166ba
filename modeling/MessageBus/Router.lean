import MessageBus.Book
import MessageBus.Envelope.Decode
/-!
# Routers

A router has a handler for each command it knows. A handler may read and change a state that all
handlers share, such as a subscription book. Every frame gets an answer, also one that is no request.
-/
namespace MessageBus
set_option autoImplicit false
universe u

/-- Answers a request, and may change the state. -/
abbrev Handler (σ : Type u) := σ → Request → σ × Reply

structure Router (σ : Type u) where
  handlers : Table (Handler σ)

namespace Router
variable {σ : Type u}

def empty : Router σ := ⟨.empty⟩

/-- Gives a command its handler, in place of any other. -/
def register (r : Router σ) (command : String) (handler : Handler σ) : Router σ :=
  ⟨r.handlers.insert command handler⟩

/-- The commands it knows, sorted. -/
def commands (r : Router σ) : List String := r.handlers.keys

/-- Answers a request by the handler of its command. -/
def dispatch (r : Router σ) (state : σ) (request : Request) : σ × Reply :=
  match r.handlers.get? request.command with
  | some handler => handler state request
  | none => (state, .fail ("unknown command '" ++ request.command ++ "'"))

def reply (r : Router σ) (state : σ) (frame : Frame) : σ × Reply :=
  match Request.decode frame with
  | .ok request => r.dispatch state request
  | .error e => (state, .fail ("invalid request: " ++ e.message))

end Router

/-! ## Books behind routers -/

/-- A subscription book and the time by the clock it goes by. -/
structure ClockedBook where
  now : Instant
  book : Book
deriving Inhabited

namespace ClockedBook

def handle : Handler ClockedBook := fun s request =>
  let (book, reply) := s.book.handle s.now request
  ({ s with book := book }, reply)

end ClockedBook

/-- Gives the book the two commands it answers. -/
def Router.registerBook (r : Router ClockedBook) : Router ClockedBook :=
  (r.register Request.subscribeCommand ClockedBook.handle).register Request.heartbeatCommand
    ClockedBook.handle

end MessageBus
