import MessageBus.Simulation.Offline
/-!
# The command line

Reads the configuration file, prints, and waits; all else is decided by the commands. The program brings
no transport: whatever it tries to connect to refuses at once.
-/
namespace MessageBus.Main
set_option autoImplicit false
open Command

def usage : String :=
  "usage: bus [-c FILE] request SERVICE COMMAND [-p JSON]\n"
    ++ "       bus [-c FILE] subscribe SERVICE [-f JSON] [-n COUNT]\n"
    ++ "       bus [-c FILE] topic TOPIC | filter JSON | endpoints"

def refusal : String := "no transport"

/-! ## Files -/

def fileError : IO.Error → FileError
  | .noFileOrDirectory _ _ _ => .notFound
  | .inappropriateType _ _ _ => .isDirectory
  | e => .other (toString e)

def readFile (path : String) : IO (Except FileError String) := do
  match ← (IO.FS.readBinFile path).toBaseIO with
  | .error e => return .error (fileError e)
  | .ok bytes =>
    match Utf8.text bytes.toList with
    | .ok text => return .ok text
    | .error _ => return .error (.other "stream did not contain valid UTF-8")

/-- The configuration file of a command line; without one, the environment's. -/
def configFile (i : Invocation) : IO (Option String) := do
  match i.config with
  | some path => return some path
  | none => IO.getEnv "SEASCAPE_CONFIG"

/-! ## Jobs -/

/-- What happens to a call of which every dial is refused. -/
def callEvent (c : Client) (call : Call) : Call.Event :=
  match call.phase with
  | .checking => .begin
  | .dialing => .refused (.connect c.endpoint.url refusal)
  | .pausing | .sending | .receiving => .expired

/-- Makes a call, and waits between its attempts. -/
partial def makeCall (c : Client) (call : Call) : IO (Except CallError Reply) := do
  if call.phase = .pausing then
    IO.sleep (UInt32.ofNat (c.config.reconnectDelay.nanos / 1000000))
  match call.step false c (callEvent c call) with
  | some (.running c call, _) => makeCall c call
  | some (.finished _ result, _) => return result
  | none => return .error (.cancelled c.service call.request.command)

def runJob : Job → IO Outcome
  | .print text => return ⟨0, text, []⟩
  | .call client request => .ofCall <$> makeCall client (.start request)
  | .follow plan count => do
    unless plan.fits do throw (.userError "a channel cannot have so much room")
    return .ofBroadcasts plan.endpoint.name count 0 (Simulation.Offline.broadcasts refusal plan)

/-! ## Ends -/

def refuse : Refusal → IO UInt32
  | .help => do
    IO.println usage
    return 0
  | .usage => do
    IO.eprintln usage
    return 2

def conclude (o : Outcome) : IO UInt32 := do
  IO.print o.printed
  for line in o.told do
    IO.eprintln line
  return UInt32.ofNat o.code

def run (i : Invocation) : IO UInt32 := do
  let config ← configFile i
  if config = some "" then refuse .usage
  else
    let contents ← match config with
      | some path => readFile path
      | none => pure (.ok "")
    match { i with config := config }.job (fun _ => contents) "bus-cli" with
    | .error e => conclude (.ofFailure e)
    | .ok job => conclude (← runJob job)

end MessageBus.Main

def main (args : List String) : IO UInt32 :=
  match MessageBus.Command.Invocation.parse args with
  | .error e => MessageBus.Main.refuse e
  | .ok i => MessageBus.Main.run i
