import MessageBus.Telemetry.Scope
/-!
# Metrics

What the bus counts. Every occurrence is one `Metric`; a counter's value is the number of equal
occurrences. `Sample` gives an occurrence's counter its family name and labels.
-/
namespace MessageBus.Telemetry
set_option autoImplicit false

inductive FailureReason
  | connect
  | handshake
  | heartbeat
  | malformed
  | socket
  | remote
deriving DecidableEq, Repr

def FailureReason.text : FailureReason → String
  | .connect => "connect"
  | .handshake => "handshake"
  | .heartbeat => "heartbeat"
  | .malformed => "malformed"
  | .socket => "socket"
  | .remote => "remote"

inductive Metric
  | requestSent (service command : String)
  | requestTimeout (service command : String)
  /-- A socket was opened in place of a discarded one. -/
  | reconnect (service : String)
  | applicationFailure (service command : String)
  | requestDuration
  | broadcastPublished (topic : String)
  | broadcastReceived (ok : Bool)
  | heartbeatSent (service : String)
  | subscriptionFailure (reason : FailureReason)
deriving DecidableEq, Repr

/-! ## Samples -/

structure Sample where
  family : String
  labels : List (String × String)
deriving DecidableEq, Repr

/-- The counter of an occurrence; durations are not counted by labels. -/
def Metric.sample? : Metric → Option Sample
  | .requestSent service command =>
    some ⟨"seascape_transport_requests_sent_total", [("command", command), ("service", service)]⟩
  | .requestTimeout service command =>
    some ⟨"seascape_transport_timeouts_total", [("command", command), ("service", service)]⟩
  | .reconnect service =>
    some ⟨"seascape_transport_reconnects_total", [("service", service)]⟩
  | .applicationFailure service command =>
    some ⟨"seascape_transport_application_failures_total",
      [("command", command), ("service", service)]⟩
  | .requestDuration => none
  | .broadcastPublished topic =>
    some ⟨"seascape_pubsub_broadcasts_published_total", [("scope", topicScope topic)]⟩
  | .broadcastReceived ok =>
    some ⟨"seascape_pubsub_broadcasts_received_total", [("status", if ok then "ok" else "fail")]⟩
  | .heartbeatSent service =>
    some ⟨"seascape_pubsub_heartbeats_sent_total", [("service", service)]⟩
  | .subscriptionFailure reason =>
    some ⟨"seascape_pubsub_subscription_failures_total", [("reason", reason.text)]⟩

/-! ## Text -/

def escapedLabel (value : String) : String :=
  String.ofList (value.toList.flatMap fun
    | '\\' => ['\\', '\\']
    | '"' => ['\\', '"']
    | '\n' => ['\\', 'n']
    | c => [c])

def Sample.text (s : Sample) : String :=
  s.family ++ "\x7b"
    ++ String.intercalate "," (s.labels.map fun l => l.1 ++ "=\"" ++ escapedLabel l.2 ++ "\"")
    ++ "\x7d"

/-- Families by name, and the samples of one by their label values. -/
def Sample.before (s t : Sample) : Bool :=
  s.family < t.family
    || (s.family = t.family && decide (s.labels.map Prod.snd < t.labels.map Prod.snd))

def insertSample (s : Sample) : List Sample → List Sample
  | [] => [s]
  | t :: rest => if s = t then t :: rest else if s.before t then s :: t :: rest else t :: insertSample s rest

/-- One line for every counter that is not zero: its sample and its value. -/
def exposition (metrics : List Metric) : List String :=
  let samples := metrics.filterMap Metric.sample?
  (samples.foldr insertSample []).map fun s => s.text ++ " " ++ toString (samples.count s)

def durations (metrics : List Metric) : Nat := metrics.count .requestDuration

end MessageBus.Telemetry
