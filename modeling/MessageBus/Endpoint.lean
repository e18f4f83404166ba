/-!
# Endpoints

The network location of a service: a host with a port for requests and, if the service broadcasts,
another for broadcasts.
-/
namespace MessageBus
set_option autoImplicit false

structure Endpoint where
  name : String
  host : String
  port : UInt16
  broadcastPort : Option UInt16
  publicKey : Option String
deriving DecidableEq, Repr

inductive RegistryError
  | unknownService (name : String)
  | unknownPublicKey (key : String)
  | duplicate (name : String)
  | noBroadcastPort (name : String)
deriving DecidableEq, Repr

def RegistryError.message : RegistryError → String
  | .unknownService name => "unknown service '" ++ name ++ "'"
  | .unknownPublicKey key => "no service registered with public key '" ++ key ++ "'"
  | .duplicate name => "duplicate endpoint name '" ++ name ++ "'"
  | .noBroadcastPort name => "service '" ++ name ++ "' has no broadcast port"

namespace Endpoint

/-- The address requests go to. -/
def url (e : Endpoint) : String := "tcp://" ++ e.host ++ ":" ++ toString e.port.toNat

/-- The same service addressed on its broadcast port. -/
def broadcast (e : Endpoint) : Except RegistryError Endpoint :=
  match e.broadcastPort with
  | some port => .ok { e with port := port, broadcastPort := none }
  | none => .error (.noBroadcastPort e.name)

end Endpoint
end MessageBus
