import MessageBus.Client.Error
import MessageBus.Config.Load
import MessageBus.Json.Fault
import MessageBus.Topic.Error
/-!
# Failures of commands

Why a command failed, and how that is reported: a line and an exit code. Code 2 means that the
arguments or the configuration are at fault, and code 1 that a service is.
-/
namespace MessageBus.Command
set_option autoImplicit false

inductive InputFault
  | notObject
  | json (e : Json.Fault)
  | topic (e : TopicError)
deriving DecidableEq

def InputFault.message : InputFault → String
  | .notObject => "expected a JSON object"
  | .json e => e.message
  | .topic e => e.message

inductive Input
  | params
  | filter
  | topic
deriving DecidableEq

def Input.name : Input → String
  | .params => "params"
  | .filter => "filter"
  | .topic => "topic"

inductive Failure
  | config (e : ConfigError)
  | input (what : Input) (e : InputFault)
  | call (e : CallError)
  /-- A subscription ended with a failing broadcast. -/
  | ended (service reason : String)
deriving DecidableEq

structure Report where
  code : Nat
  line : String
deriving DecidableEq

namespace Failure

def codeOfService : Nat := 1

def codeOfInput : Nat := 2

def report : Failure → Report
  | .config e => ⟨codeOfInput, "configuration error: " ++ e.message⟩
  | .input what e => ⟨codeOfInput, "error: invalid " ++ what.name ++ ": " ++ e.message⟩
  | .call (.config e) => ⟨codeOfInput, (CallError.config e).message⟩
  | .call e => ⟨codeOfService, "error: " ++ e.message⟩
  | .ended service reason =>
    ⟨codeOfService, "error: subscription to " ++ service ++ " ended: " ++ reason⟩

end Failure
end MessageBus.Command
