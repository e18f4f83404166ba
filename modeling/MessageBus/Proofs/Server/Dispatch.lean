import MessageBus.Proofs.Envelope.RoundTrip
import MessageBus.Proofs.Lookup
import MessageBus.Server
/-!
# What a server makes of a request

A request that a server took is dispatched as it was sent, and what it is answered with is read back as the
reply that its handler gave (`Server.handled_encode`): parameters that a message carries survive both ways.
-/
namespace MessageBus
set_option autoImplicit false
universe u
variable {σ : Type u}

/-! ## Routers -/

namespace Router

theorem reply_encode (r : Router σ) (state : σ) {request : Request} (h : request.params.Carried) :
    r.reply state request.encode = r.dispatch state request := by
  rw [reply, Request.decode_carried h]

/-- The request with which a frame calls a handler, if it calls one. -/
def invoked? (r : Router σ) (frame : Frame) : Option Request :=
  match Request.decode frame with
  | .ok request => if r.handlers.contains request.command then some request else none
  | .error _ => none

theorem invoked?_encode (r : Router σ) {request : Request} (h : request.params.Carried) :
    r.invoked? request.encode = if r.handlers.contains request.command then some request else none := by
  rw [invoked?, Request.decode_carried h]

theorem dispatch_of_handler {r : Router σ} {handler : Handler σ} {request : Request}
    (h : r.handlers.get? request.command = some handler) (state : σ) :
    r.dispatch state request = handler state request := by
  rw [dispatch, h]

theorem get?_registerBook (r : Router ClockedBook) (command : String) :
    r.registerBook.handlers.get? command =
      if command = Request.heartbeatCommand ∨ command = Request.subscribeCommand then
        some ClockedBook.handle
      else r.handlers.get? command := by
  rw [registerBook, register, Table.get?_insert, register, Table.get?_insert]
  by_cases hb : command = Request.heartbeatCommand
  · simp [hb]
  · simp [hb]

end Router

/-! ## Servers -/

namespace Server

/-- An answer is under way that reads as a reply. -/
def Answering (s : Server σ) (reply : Reply) : Prop :=
  ∃ bytes, s.phase = .answering bytes ∧ Reply.decode bytes = .ok reply

theorem handled_encode {s : Server σ} {request : Request} (h : s.phase = .handling request.encode)
    (hc : request.params.Carried) (fired : Bool) :
    s.step fired .handled = some { s with
      state := (s.router.dispatch s.state request).1
      phase := .answering (s.router.dispatch s.state request).2.encode } := by
  simp only [step, h, Router.reply_encode _ _ hc]

theorem answering_encode {s : Server σ} {reply : Reply} (h : s.phase = .answering reply.encode)
    (hc : reply.params.Carried) : s.Answering reply :=
  ⟨_, h, Reply.decode_carried hc⟩

/-- A server keeps its router, and its state but for what a handler does to it. -/
theorem step_handlers {fired : Bool} {s s' : Server σ} {e : Event} (h : s.step fired e = some s') :
    s'.router = s.router ∧
      (s'.state = s.state ∨ ∃ frame, s.phase = .handling frame ∧ e = .handled ∧
        s'.state = (s.router.reply s.state frame).1) := by
  unfold step at h
  split at h
  case h_3 =>
    split at h <;> cases h
    exact ⟨rfl, .inl rfl⟩
  case h_4 frame hphase =>
    cases h
    exact ⟨rfl, .inr ⟨frame, hphase, rfl, rfl⟩⟩
  all_goals
    cases h
    try exact ⟨rfl, .inl rfl⟩

end Server
end MessageBus
