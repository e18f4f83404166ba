import MessageBus.Proofs.Client.Outcome
/-!
# What a step of a call can do

`Call.step` as a relation, with one rule for each thing that can become of a call. Facts about all steps
of calls are proved by cases on `Move`; no other proof opens the step function.
-/
namespace MessageBus.Call
set_option autoImplicit false
open Telemetry (Metric)

/-- Whether an event is the failure of the operation on a socket that a call is in. -/
def Phase.fails : Phase → Event → Bool
  | .sending, .sendFailed _ | .sending, .expired | .receiving, .receiveFailed _
  | .receiving, .expired => true
  | _, _ => false

def Phase.exchanging : Phase → Bool
  | .sending | .receiving => true
  | .checking | .dialing | .pausing => false

/-- What a failed operation on a socket counts. -/
def failedMetrics (c : Client) (call : Call) (e : Event) : List Metric :=
  if call.phase = .receiving ∧ e = .expired then [.requestTimeout c.service call.request.command]
  else []

inductive Move (fired : Bool) (c : Client) (call : Call) : Event → Progress → List Metric → Prop
  | exhausted (hp : call.phase = .checking) (hx : call.exhausted c = true) :
      Move fired c call .begin
        (.finished c (.error (.retriesExhausted c.service call.request.command call.attempts))) []
  | forestalled (hp : call.phase = .checking) (hx : call.exhausted c = false) (hf : fired = true) :
      Move fired c call .begin
        (.finished c.discard (.error (.cancelled c.service call.request.command))) []
  | reuses (hp : call.phase = .checking) (hx : call.exhausted c = false) (hf : fired = false)
      (hs : c.socket.isSome = true) :
      Move fired c call .begin (.running c.countSend ⟨call.request, call.attempts + 1, .sending⟩)
        [.requestSent c.service call.request.command]
  | dials (hp : call.phase = .checking) (hx : call.exhausted c = false) (hf : fired = false)
      (hs : c.socket = none) :
      Move fired c call .begin (.running c ⟨call.request, call.attempts + 1, .dialing⟩) []
  | dialed {socket : SocketId} (hp : call.phase = .dialing) :
      Move fired c call (.dialed socket)
        (.running (c.install socket).1.countSend { call with phase := .sending })
        ((c.install socket).2 ++ [.requestSent (c.install socket).1.service call.request.command])
  | undialed {e : Event} (hp : call.phase = .dialing) (he : e = .expired ∨ ∃ why, e = .refused why) :
      Move fired c call e (.running c { call with phase := .pausing }) []
  | rested (hp : call.phase = .pausing) :
      Move fired c call .expired (.running c { call with phase := .checking }) []
  | sent (hp : call.phase = .sending) :
      Move fired c call .sent (.running c { call with phase := .receiving }) []
  | failed {e : Event} (he : call.phase.fails e = true) :
      Move fired c call e (.running c.discard { call with phase := .checking })
        (failedMetrics c call e)
  | answered {frame : Frame} (hp : call.phase = .receiving) :
      Move fired c call (.received frame) (.finished c (verdict c call.request frame))
        (Call.answered c call frame).2
  | abandoned (hp : call.phase ≠ .checking) (hf : fired = true) :
      Move fired c call .cancelled
        (.finished c.discard (.error (.cancelled c.service call.request.command))) []

section Steps
variable {fired : Bool} {c : Client} {call : Call} {e : Event} {p : Progress} {ms : List Metric}

theorem begun_move (hp : call.phase = .checking) (h : begun fired c call = (p, ms)) :
    Move fired c call .begin p ms := by
  unfold begun at h
  split at h
  · next hx =>
    cases h
    exact .exhausted hp hx
  · next hx =>
    have hx : call.exhausted c = false := by simpa using hx
    simp only at h
    split at h
    · next hf =>
      cases h
      exact .forestalled hp hx hf
    · next hf =>
      have hf : fired = false := by simpa using hf
      split at h
      · next hs =>
        cases h
        exact .reuses hp hx hf hs
      · next hs =>
        cases h
        exact .dials hp hx hf (by simpa using hs)

theorem abandoned_move (hp : call.phase ≠ .checking)
    (h : (if fired = true then some (abandoned c call) else none) = some (p, ms)) :
    Move fired c call .cancelled p ms := by
  split at h
  · next hf =>
    cases h
    exact .abandoned hp hf
  · cases h

theorem answered_move {frame : Frame} (hp : call.phase = .receiving)
    (h : some (answered c call frame) = some (p, ms)) : Move fired c call (.received frame) p ms := by
  have hpair : answered c call frame = (.finished c (verdict c call.request frame), _) :=
    Prod.ext (answered_fst c call frame) rfl
  rw [hpair] at h
  cases h
  exact .answered hp

theorem retry_move (he : call.phase.fails e = true)
    (h : some (retry c call (failedMetrics c call e)) = some (p, ms)) : Move fired c call e p ms := by
  cases h
  exact .failed he

theorem step_move (h : call.step fired c e = some (p, ms)) : Move fired c call e p ms := by
  unfold step at h
  split at h
  · next hp => exact begun_move hp (Option.some.inj h)
  · next hp =>
    cases h
    exact .dialed hp
  · next hp =>
    cases h
    exact .undialed hp (.inr ⟨_, rfl⟩)
  · next hp =>
    cases h
    exact .undialed hp (.inl rfl)
  · next hp =>
    cases h
    exact .rested hp
  · next hp =>
    cases h
    exact .sent hp
  · next hp => exact retry_move (by rw [hp]; rfl) (by simpa [failedMetrics, hp] using h)
  · next hp => exact retry_move (by rw [hp]; rfl) (by simpa [failedMetrics, hp] using h)
  · next hp => exact answered_move hp h
  · next hp => exact retry_move (by rw [hp]; rfl) (by simpa [failedMetrics, hp] using h)
  · next hp => exact retry_move (by rw [hp]; rfl) (by simpa [failedMetrics, hp] using h)
  · next hp => exact abandoned_move (by simp [hp]) h
  · next hp => exact abandoned_move (by simp [hp]) h
  · next hp => exact abandoned_move (by simp [hp]) h
  · next hp => exact abandoned_move (by simp [hp]) h
  · cases h

/-- A call asks the same thing at every attempt. -/
theorem Move.request {c' : Client} {call' : Call} (h : Move fired c call e (.running c' call') ms) :
    call'.request = call.request := by
  cases h <;> rfl

end Steps
end MessageBus.Call
