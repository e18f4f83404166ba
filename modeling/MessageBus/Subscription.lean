import MessageBus.Envelope.Basic
import MessageBus.Topic.Filter
/-!
# Subscription requests

The two requests that a subscriber sends to the service it follows: one that enters its filter under
its address, and one that keeps the entry alive.
-/
namespace MessageBus
set_option autoImplicit false

namespace Request

def subscribeCommand : String := "subscribe"

def heartbeatCommand : String := "heartbeat"

/-- Asks for the broadcasts that a filter accepts. -/
def subscribe (address : String) (filter : TopicFilter) : Request :=
  ⟨subscribeCommand,
    (Params.empty.insert "topic_filter" filter.toJson).insert "subscriber" (.string address)⟩

/-- Says that a subscriber is still there. -/
def heartbeat (address : String) : Request :=
  ⟨heartbeatCommand, Params.empty.insert "subscriber" (.string address)⟩

end Request
end MessageBus
