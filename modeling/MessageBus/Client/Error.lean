import MessageBus.Endpoint
import MessageBus.Envelope.Error
import MessageBus.Socket
/-!
# Call errors

What a call returns in place of a reply. Timeouts are no errors: a call answers them by trying again.
-/
namespace MessageBus
set_option autoImplicit false

inductive CallError
  | config (e : RegistryError)
  | decode (service : String) (e : EnvelopeError)
  | application (service command reason : String)
  | retriesExhausted (service command : String) (attempts : Nat)
  /-- An explicit connect failed. -/
  | socket (service : String) (e : SocketError)
  | cancelled (service command : String)
deriving DecidableEq, Repr

namespace CallError

def message : CallError → String
  | .config e => "configuration error: " ++ e.message
  | .decode service e => "invalid envelope exchanged with " ++ service ++ ": " ++ e.message
  | .application service command reason => service ++ " rejected '" ++ command ++ "': " ++ reason
  | .retriesExhausted service command attempts =>
    service ++ " did not answer '" ++ command ++ "' after " ++ toString attempts ++ " attempt(s)"
  | .socket service e => "socket error on " ++ service ++ ": " ++ e.message
  | .cancelled service command => "request '" ++ command ++ "' to " ++ service ++ " cancelled"

def isApplication : CallError → Bool
  | .application _ _ _ => true
  | _ => false

end CallError
end MessageBus
