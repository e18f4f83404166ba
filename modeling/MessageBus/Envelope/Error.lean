import MessageBus.Json.Fault
import MessageBus.Text.Utf8
/-!
# Envelope errors

Why bytes are no envelope, or why a broadcast cannot be built.
-/
namespace MessageBus
set_option autoImplicit false

/-- The fields of an envelope's object. -/
inductive EnvelopeField
  | command
  | status
  | message
  | params
deriving DecidableEq, Repr

namespace EnvelopeField

def key : EnvelopeField → String
  | .command => "command"
  | .status => "status"
  | .message => "message"
  | .params => "params"

/-- What the field must hold. -/
def phrase : EnvelopeField → String
  | .command | .status | .message => "a string"
  | .params => "an object"

end EnvelopeField

inductive EnvelopeError
  | malformed (fault : Json.Fault)
  | notObject
  | missingField (field : EnvelopeField)
  | invalidField (field : EnvelopeField)
  /-- A broadcast without a brace. -/
  | missingPayload
  | topicNotUtf8 (fault : Utf8.Fault)
  | topicWithBrace (topic : String)
deriving DecidableEq, Repr

def EnvelopeError.message : EnvelopeError → String
  | .malformed fault => "failed to parse envelope: " ++ fault.message
  | .notObject => "failed to parse envelope: expected a JSON object"
  | .missingField field => "envelope is missing the '" ++ field.key ++ "' field"
  | .invalidField field => "envelope field '" ++ field.key ++ "' must be " ++ field.phrase
  | .missingPayload => "broadcast has no reply payload"
  | .topicNotUtf8 fault => "invalid broadcast topic: " ++ fault.message
  | .topicWithBrace topic => "invalid broadcast topic: '" ++ topic ++ "' contains '\x7b'"

end MessageBus
