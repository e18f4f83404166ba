import MessageBus.Command.Job
import MessageBus.Simulation.Calling
import MessageBus.Simulation.Following
/-!
# Jobs without a network

What becomes of a job when no connection can be opened: every dial, and every attempt to reach
broadcasts, is refused at once.
-/
namespace MessageBus.Simulation
set_option autoImplicit false
open Command (Job Outcome)

namespace Offline

def refusing (reason : String) (dials : Nat) : Script :=
  ⟨List.replicate dials (.refused reason), [], .silent⟩

/-- How a call ends: all its attempts are refused, with a pause after each. A call that may be tried for
ever does not end. -/
def call (reason : String) (client : Client) (request : Request) : Option (Except CallError Reply) := do
  let attempts ← client.config.maxAttempts
  let pauses : Duration := ⟨attempts * client.config.reconnectDelay.nanos⟩
  ((Calling.start client (refusing reason attempts)).call request none pauses).2

def broadcasts (reason : String) (plan : Session.Plan) : List Broadcast :=
  (Following.start plan (.refused reason) (refusing reason 0)).settle.session.inbox

/-- What a job leaves, if it ends and does not break down. -/
def outcome (reason : String) : Job → Option Outcome
  | .print text => some ⟨0, text, []⟩
  | .call client request => (call reason client request).map .ofCall
  | .follow plan count =>
    if plan.fits then some (.ofBroadcasts plan.endpoint.name count 0 (broadcasts reason plan)) else none

def run (reason : String) : Except Command.Failure Job → Option Outcome
  | .ok job => outcome reason job
  | .error e => some (.ofFailure e)

end Offline
end MessageBus.Simulation
