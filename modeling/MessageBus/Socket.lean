/-!
# Sockets

What a socket reports when an operation on it fails.
-/
namespace MessageBus
set_option autoImplicit false

/-- Names a request socket among all that were ever opened. -/
abbrev SocketId := Nat

inductive SocketError
  | connect (url reason : String)
  | bind (url reason : String)
  | io (reason : String)
  | closed
deriving DecidableEq, Repr

def SocketError.message : SocketError → String
  | .connect url reason => "failed to connect to " ++ url ++ ": " ++ reason
  | .bind url reason => "failed to bind " ++ url ++ ": " ++ reason
  | .io reason => "socket I/O error: " ++ reason
  | .closed => "socket closed"

end MessageBus
