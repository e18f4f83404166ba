/-!
# Topic scope

The label under which a broadcast is counted: its topic up to the second dot, so that the number of
labels stays bounded.
-/
namespace MessageBus.Telemetry
set_option autoImplicit false

/-- A text up to the dot that follows `n` others. -/
def beforeDot : Nat → List Char → List Char
  | _, [] => []
  | n, c :: rest =>
    if c = '.' then
      match n with
      | 0 => []
      | n + 1 => c :: beforeDot n rest
    else c :: beforeDot n rest

def topicScope (topic : String) : String := String.ofList (beforeDot 1 topic.toList)

end MessageBus.Telemetry
