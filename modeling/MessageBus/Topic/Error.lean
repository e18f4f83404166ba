import MessageBus.Json.Mismatch
/-!
# Topic errors

Why a text or a JSON value is no topic, or a JSON value no topic filter.
-/
namespace MessageBus
set_option autoImplicit false

inductive TopicError
  | tooShort (segments : Nat)
  | tooLong (segments : Nat)
  | topicNotObject
  | filterNotObject
  | mismatch (m : Json.Mismatch)
deriving DecidableEq

def TopicError.message : TopicError → String
  | .tooShort n =>
    "at least organization and project required, got " ++ toString n ++ " segment(s)"
  | .tooLong n => "topic has " ++ toString n ++ " segments, at most 6 allowed"
  | .topicNotObject => "invalid topic json: expected an object"
  | .filterNotObject => "invalid topic json: expected a filter object"
  | .mismatch m => "invalid topic json: " ++ m.message

end MessageBus
