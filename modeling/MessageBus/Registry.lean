import MessageBus.Endpoint
import MessageBus.Table
/-!
# The endpoint registry

Service names and the endpoints behind them. An endpoint is entered under its own name, once: entering
a name again fails and leaves the registry as it was.
-/
namespace MessageBus
set_option autoImplicit false

structure Registry where
  table : Table Endpoint
deriving Inhabited

namespace Registry

def empty : Registry := ⟨.empty⟩

def insert (r : Registry) (e : Endpoint) : Except RegistryError Registry :=
  if r.table.contains e.name then .error (.duplicate e.name) else .ok ⟨r.table.insert e.name e⟩

/-- Enters endpoints from left to right; the first name met again is reported. -/
def ofList (endpoints : List Endpoint) : Except RegistryError Registry :=
  endpoints.foldlM insert empty

def resolve (r : Registry) (name : String) : Except RegistryError Endpoint :=
  match r.table.get? name with
  | some e => .ok e
  | none => .error (.unknownService name)

/-- An endpoint with this public key: of several the one whose name comes first. -/
def resolveKey (r : Registry) (key : String) : Except RegistryError Endpoint :=
  match (r.table.entries.map (·.2)).find? (fun e => e.publicKey = some key) with
  | some e => .ok e
  | none => .error (.unknownPublicKey key)

def names (r : Registry) : List String := r.table.keys

def size (r : Registry) : Nat := r.table.size

def isEmpty (r : Registry) : Bool := r.table.isEmpty

end Registry
end MessageBus
