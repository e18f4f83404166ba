import MessageBus.Duration.Basic
import MessageBus.Registry
/-!
# Bus configuration

The retry policy of clients, the timing of subscriber sessions, and the known endpoints, each with
defaults. Zero durations, zero attempts, a zero capacity and repeated endpoint names are invalid; the
first fault in the order transport, subscriber, endpoints is reported.
-/
namespace MessageBus
set_option autoImplicit false

/-- The retry policy of requests; without `maxAttempts` a request is retried for ever. A configuration gives
it in 32 bits. -/
structure TransportConfig where
  requestTimeout : Duration
  reconnectDelay : Duration
  maxAttempts : Option Nat
deriving DecidableEq, Repr

structure SubscriberConfig where
  heartbeatInterval : Duration
  connectDelay : Duration
  channelCapacity : Nat
deriving DecidableEq, Repr

structure BusConfig where
  transport : TransportConfig
  subscriber : SubscriberConfig
  endpoints : List Endpoint
deriving DecidableEq, Repr

def TransportConfig.default : TransportConfig := ⟨.ofSecs 60, .ofSecs 1, none⟩

def SubscriberConfig.default : SubscriberConfig := ⟨.ofSecs 2, .ofMillis 100, 1000⟩

def BusConfig.default : BusConfig := ⟨.default, .default, []⟩

/-! ## Validation -/

/-- The settings that may not be zero. -/
inductive ZeroSetting
  | requestTimeout
  | reconnectDelay
  | maxAttempts
  | heartbeatInterval
  | connectDelay
  | channelCapacity
deriving DecidableEq, Repr

def ZeroSetting.name : ZeroSetting → String
  | .requestTimeout => "transport.request_timeout"
  | .reconnectDelay => "transport.reconnect_delay"
  | .maxAttempts => "transport.max_attempts"
  | .heartbeatInterval => "subscriber.heartbeat_interval"
  | .connectDelay => "subscriber.connect_delay"
  | .channelCapacity => "subscriber.channel_capacity"

inductive InvalidConfig
  | zero (setting : ZeroSetting)
  | registry (e : RegistryError)
deriving DecidableEq, Repr

def InvalidConfig.message : InvalidConfig → String
  | .zero setting => setting.name ++ " cannot be 0"
  | .registry e => e.message

def TransportConfig.validate (c : TransportConfig) : Except InvalidConfig Unit :=
  if c.requestTimeout.isZero then .error (.zero .requestTimeout)
  else if c.reconnectDelay.isZero then .error (.zero .reconnectDelay)
  else if c.maxAttempts = some 0 then .error (.zero .maxAttempts)
  else .ok ()

def SubscriberConfig.validate (c : SubscriberConfig) : Except InvalidConfig Unit :=
  if c.heartbeatInterval.isZero then .error (.zero .heartbeatInterval)
  else if c.connectDelay.isZero then .error (.zero .connectDelay)
  else if c.channelCapacity = 0 then .error (.zero .channelCapacity)
  else .ok ()

/-- The first name that occurred before, reading from left to right after the names `seen`. -/
def firstRepeated (seen : List String) : List String → Option String
  | [] => none
  | name :: rest => if seen.contains name then some name else firstRepeated (name :: seen) rest

namespace BusConfig

def validate (c : BusConfig) : Except InvalidConfig Unit := do
  c.transport.validate
  c.subscriber.validate
  match firstRepeated [] (c.endpoints.map Endpoint.name) with
  | some name => throw (.registry (.duplicate name))
  | none => return ()

/-- The registry of the configured endpoints. -/
def registry (c : BusConfig) : Except InvalidConfig Registry :=
  match Registry.ofList c.endpoints with
  | .ok r => .ok r
  | .error e => .error (.registry e)

end BusConfig
end MessageBus
