import MessageBus.Config.Basic
import MessageBus.Duration.Parser
import MessageBus.Toml.Parser
/-!
# Loading a configuration

Settings are taken from a TOML document; what it leaves out keeps its default, and what it adds is
ignored. A section may be a table, or an array that lists its settings in order.
-/
namespace MessageBus
set_option autoImplicit false

/-- Why a file cannot be read. -/
inductive FileError
  | notFound
  | isDirectory
  | other (reason : String)
deriving DecidableEq, Repr

def FileError.message : FileError → String
  | .notFound => "No such file or directory (os error 2)"
  | .isDirectory => "Is a directory (os error 21)"
  | .other reason => reason

inductive ConfigError
  | unreadable (path : String) (e : FileError)
  | malformed
  | invalid (e : InvalidConfig)
deriving DecidableEq, Repr

/-- The message of an error; what makes a document malformed is not told. -/
def ConfigError.message : ConfigError → String
  | .unreadable path e => "failed to read config file " ++ path ++ ": " ++ e.message
  | .malformed => "failed to parse config: "
  | .invalid e => "invalid config: " ++ e.message

namespace Toml

/-- The settings of a section by name. -/
def settings? (names : List String) : Toml → Option (List (String × Toml))
  | .table entries => some entries
  | .array items => some (names.zip items)
  | .datetime => some []
  | _ => none

def text? : Toml → Option String
  | .string s => some s
  | _ => none

def duration? : Toml → Option Duration
  | .string s => Duration.parse? s
  | _ => none

/-- A natural number below `bound`. -/
def below? (bound : Nat) : Toml → Option Nat
  | .integer n => if 0 ≤ n ∧ n < bound then some n.toNat else none
  | _ => none

def port? (v : Toml) : Option UInt16 := (v.below? UInt16.size).map UInt16.ofNat

end Toml

/-- A setting that may be absent; `none` if it is there and cannot be read. -/
def setting? {α : Type} (settings : List (String × Toml)) (name : String) (read : Toml → Option α) :
    Option (Option α) :=
  match settings.lookup name with
  | some v => (read v).map some
  | none => some none

def TransportConfig.ofToml? (v : Toml) : Option TransportConfig := do
  let s ← v.settings? ["request_timeout", "reconnect_delay", "max_attempts"]
  let timeout ← setting? s "request_timeout" Toml.duration?
  let delay ← setting? s "reconnect_delay" Toml.duration?
  let attempts ← setting? s "max_attempts" (Toml.below? UInt32.size)
  return ⟨timeout.getD default.requestTimeout, delay.getD default.reconnectDelay, attempts⟩

def SubscriberConfig.ofToml? (v : Toml) : Option SubscriberConfig := do
  let s ← v.settings? ["heartbeat_interval", "connect_delay", "channel_capacity"]
  let interval ← setting? s "heartbeat_interval" Toml.duration?
  let delay ← setting? s "connect_delay" Toml.duration?
  let capacity ← setting? s "channel_capacity" (Toml.below? UInt64.size)
  return ⟨interval.getD default.heartbeatInterval, delay.getD default.connectDelay,
    capacity.getD default.channelCapacity⟩

def Endpoint.ofToml? (v : Toml) : Option Endpoint := do
  let s ← v.settings? ["name", "host", "port", "broadcast_port", "public_key"]
  let name ← (← s.lookup "name").text?
  let host ← (← s.lookup "host").text?
  let port ← (← s.lookup "port").port?
  return ⟨name, host, port, ← setting? s "broadcast_port" Toml.port?,
    ← setting? s "public_key" Toml.text?⟩

def Endpoint.listOfToml? : Toml → Option (List Endpoint)
  | .array items => items.mapM Endpoint.ofToml?
  | _ => none

namespace BusConfig

def ofToml? (v : Toml) : Option BusConfig := do
  let s ← v.settings? ["transport", "subscriber", "endpoints"]
  let transport ← setting? s "transport" TransportConfig.ofToml?
  let subscriber ← setting? s "subscriber" SubscriberConfig.ofToml?
  let endpoints ← setting? s "endpoints" Endpoint.listOfToml?
  return ⟨transport.getD .default, subscriber.getD .default, endpoints.getD []⟩

/-- The valid configuration that a text writes. -/
def parse (text : String) : Except ConfigError BusConfig :=
  match (Toml.parse? text).bind ofToml? with
  | none => .error .malformed
  | some c =>
    match c.validate with
    | .ok () => .ok c
    | .error e => .error (.invalid e)

/-- The configuration of a file, given what reading the file yields; the default without a file. -/
def load (read : String → Except FileError String) : Option String → Except ConfigError BusConfig
  | none => .ok .default
  | some path =>
    match read path with
    | .ok text => parse text
    | .error e => .error (.unreadable path e)

/-- One line for every endpoint: name, address, and the address of its broadcasts if it has one. -/
def render (c : BusConfig) : String :=
  String.join (c.endpoints.map fun e =>
    let broadcast := match e.broadcast with
      | .ok b => "\t" ++ b.url
      | .error _ => ""
    e.name ++ "\t" ++ e.url ++ broadcast ++ "\n")

end BusConfig
end MessageBus
