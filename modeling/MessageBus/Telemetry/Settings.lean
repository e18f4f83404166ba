/-!
# Telemetry settings

Logging settings of one process, read from environment variables. A variable that names the bus goes
before the general one of the same meaning.
-/
namespace MessageBus.Telemetry
set_option autoImplicit false

structure Settings where
  serviceName : String
  logLevel : String
  jsonLogs : Bool
  withTarget : Bool
deriving DecidableEq, Repr

abbrev Environment := String → Option String

namespace Settings

def default : Settings := ⟨"seascape", "info", false, true⟩

/-- Whether a value is this word, in any ASCII case. -/
def isWord (word value : String) : Bool := value.toList.map Char.toLower = word.toList

def isContainer (env : Environment) : Bool :=
  (env "KUBERNETES_SERVICE_HOST").isSome || (env "DOCKER_CONTAINER").isSome

/-- JSON lines are written when asked for, and else inside a container; targets unless refused. -/
def ofEnvironment (env : Environment) : Settings where
  serviceName :=
    ((env "SEASCAPE_SERVICE_NAME").orElse fun _ => env "OTEL_SERVICE_NAME").getD "seascape"
  logLevel := ((env "SEASCAPE_LOG_LEVEL").orElse fun _ => env "RUST_LOG").getD "info"
  jsonLogs :=
    match env "SEASCAPE_JSON_LOGS" with
    | some v => isWord "true" v || v = "1"
    | none => isContainer env
  withTarget :=
    match env "SEASCAPE_LOG_TARGET" with
    | some v => !isWord "false" v && v ≠ "0"
    | none => true

def forService (env : Environment) (service : String) : Settings :=
  { ofEnvironment env with serviceName := service }

end Settings
end MessageBus.Telemetry
