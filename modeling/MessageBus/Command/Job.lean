import MessageBus.Command.Arguments
import MessageBus.Command.Failure
import MessageBus.Json.Layout
import MessageBus.Session.Plan
import MessageBus.Topic.Filter
/-!
# Jobs

What a command comes to. All that arguments and configuration decide is decided first: a command whose
text is known at once is a text to print, and a job that needs a service is a call or a subscription.
The configuration is looked at before the texts among the arguments, and these before the name of the
service; the first fault ends the command.
-/
namespace MessageBus.Command
set_option autoImplicit false

/-! ## Texts among the arguments -/

def readParams (text : String) : Except Failure Params :=
  match Json.parseText text with
  | .ok (.object members) => .ok (.ofMembers members)
  | .ok _ => .error (.input .params .notObject)
  | .error e => .error (.input .params (.json e))

def readFilter (text : String) : Except Failure TopicFilter :=
  match Json.parseText text with
  | .error e => .error (.input .filter (.json e))
  | .ok v => (TopicFilter.ofJson v).mapError fun e => .input .filter (.topic e)

def levelNames : List String := ["organization", "project", "network_id", "group", "name", "method"]

/-- A topic, its level, and a line for every populated level. -/
def describeTopic (t : Topic) : String :=
  "topic: " ++ t.render ++ "\nlevel: " ++ toString t.level ++ "\n"
    ++ String.join (((levelNames.zip t.fields).zipIdx 1).map fun ((name, value), level) =>
      if value = "" then "" else "  " ++ toString level ++ " " ++ name ++ ": " ++ value ++ "\n")

/-- A filter's key, its JSON form, and how many values its levels have. -/
def describeFilter (f : TopicFilter) : String :=
  "key: " ++ f.key ++ "\njson: " ++ String.ofList f.toJson.text
    ++ "\nlevels: " ++ " ".intercalate ((List.range' 1 6).map fun level => toString (f.size level))
    ++ " (total " ++ toString (f.size 0) ++ ")\n"

/-! ## Jobs -/

/-- What is left of a command once its arguments and its configuration are found good. -/
inductive Job
  | print (text : String)
  | call (client : Client) (request : Request)
  | follow (plan : Session.Plan) (count : Option Nat)

namespace Action

/-- The job of an action; a subscription is made under `address`. -/
def job (address : String) (config : BusConfig) : Action → Except Failure Job
  | .request service command text => do
    let params ← readParams text
    let registry ← config.registry.mapError fun e => .config (.invalid e)
    let client ← (Client.forService registry service config.transport).mapError .call
    return .call client ⟨command, params⟩
  | .subscribe service text count => do
    let filter ← readFilter text
    let registry ← config.registry.mapError fun e => .config (.invalid e)
    let subscriber ← (Subscriber.forService registry service address config.transport
      config.subscriber).mapError .call
    return .follow (subscriber.subscribe filter) count
  | .topic text => do
    let topic ← (Topic.parse text).mapError fun e => .input .topic (.topic e)
    return .print (describeTopic topic)
  | .filter text => do return .print (describeFilter (← readFilter text))
  | .endpoints => .ok (.print config.render)

end Action

def Invocation.job (read : String → Except FileError String) (address : String) (i : Invocation) :
    Except Failure Job := do
  let config ← (BusConfig.load read i.config).mapError .config
  i.action.job address config

/-! ## Outcomes -/

/-- What a command leaves: its exit code, what it printed, and the lines it told apart from that. -/
structure Outcome where
  code : Nat
  printed : String
  told : List String
deriving DecidableEq

namespace Outcome

def ofFailure (f : Failure) : Outcome := ⟨f.report.code, "", [f.report.line]⟩

/-- The end of a call: the reply's parameters are printed, and its message, if any, is told. -/
def ofCall : Except CallError Reply → Outcome
  | .ok reply =>
    ⟨0, String.ofList reply.params.toJson.layout ++ "\n",
      if reply.message = "" then [] else [reply.message]⟩
  | .error e => ofFailure (.call e)

/-- The end of a subscription that yields these broadcasts after `seen` others: each is printed on a
line, until `count` were seen or one fails. A count of zero lets one pass. -/
def ofBroadcasts (service : String) (count : Option Nat) : Nat → List Broadcast → Outcome
  | _, [] => ⟨0, "", []⟩
  | seen, b :: rest =>
    if !b.isOk then ofFailure (.ended service b.reply.message)
    else if count.any (· ≤ seen + 1) then ⟨0, b.render ++ "\n", []⟩
    else
      let later := ofBroadcasts service count (seen + 1) rest
      { later with printed := b.render ++ "\n" ++ later.printed }

end Outcome
end MessageBus.Command
