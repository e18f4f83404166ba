import MessageBus.Proofs.Client.Moves
import MessageBus.Proofs.Envelope.RoundTrip
import MessageBus.Proofs.History
import MessageBus.Proofs.Session.Run
import MessageBus.Proofs.Topic.Filter
/-!
# What a session asks for

A session makes two kinds of calls: its driver subscribes, and its heartbeat task says that the subscriber
is still there. Both under the address and the filter of its plan, in every state that it can reach.
-/
namespace MessageBus
set_option autoImplicit false
open Telemetry (Metric)

/-! ## The requests -/

namespace Request

theorem depth_subscribe (address : String) (filter : TopicFilter) :
    (subscribe address filter).params.depth ≤ 126 := by
  have hempty : Params.empty.depth ≤ 3 := by decide
  have hfilter : filter.toJson.canonical.depth ≤ 2 := by
    rw [TopicFilter.canonical_toJson]
    exact filter.depth_toJson
  have haddress : (Json.string address).canonical.depth ≤ 2 := Nat.zero_le 2
  have hthree := Params.depth_insert (Params.depth_insert hempty hfilter "topic_filter") haddress "subscriber"
  exact Nat.le_trans hthree (by decide)

theorem depth_heartbeat (address : String) : (heartbeat address).params.depth ≤ 126 := by
  have hempty : Params.empty.depth ≤ 1 := by decide
  have haddress : (Json.string address).canonical.depth ≤ 0 := Nat.le_refl 0
  exact Nat.le_trans (Params.depth_insert hempty haddress "subscriber") (by decide)

theorem carried_subscribe (address : String) (filter : TopicFilter) :
    (subscribe address filter).params.Carried := by
  refine ⟨?_, depth_subscribe address filter⟩
  have hfilter : filter.toJson.canonical.Plain := by
    rw [TopicFilter.canonical_toJson]
    exact filter.plain_toJson
  have hone := Params.plain_insert Params.carried_empty.plain (show "topic_filter" ≠ Json.numberKey by decide) hfilter
  exact Params.plain_insert hone (by decide) (Json.plain_string address)

theorem carried_heartbeat (address : String) : (heartbeat address).params.Carried :=
  ⟨Params.plain_insert Params.carried_empty.plain (by decide) (Json.plain_string address),
    depth_heartbeat address⟩

theorem decode_subscribe (address : String) (filter : TopicFilter) :
    decode (subscribe address filter).encode = .ok (subscribe address filter) :=
  decode_carried (carried_subscribe address filter)

theorem decode_heartbeat (address : String) :
    decode (heartbeat address).encode = .ok (heartbeat address) :=
  decode_carried (carried_heartbeat address)

end Request

/-! ## The calls of a session -/

namespace Session

/-- The calls of a session carry the requests of its plan. -/
structure Asking (s : Session) : Prop where
  subscribing : ∀ {client call}, s.driver = .subscribing client call →
    call.request = s.plan.subscribeRequest
  beating : ∀ {client call}, s.heartbeat = .beating client call →
    call.request = s.plan.heartbeatRequest

section Moves
variable {s s' : Session} {ms : List Metric}

theorem asking_driver {e : DriverEvent} (h : Asking s) (hm : DriverMove s e s' ms) : Asking s' := by
  cases hm with
  | settled =>
    refine ⟨fun hd => ?_, h.beating⟩
    cases hd
    rfl
  | calls hd hc =>
    refine ⟨fun hd' => ?_, h.beating⟩
    cases hd'
    exact (Call.step_move hc).request.trans (h.subscribing hd)
  | subscribed =>
    -- The heartbeat task is there, and has made no call yet.
    refine ⟨fun hd => ?_, fun hb => ?_⟩
    · cases hd
    · cases hb
  | _ =>
    refine ⟨fun hd => ?_, h.beating⟩
    cases hd

theorem asking_heartbeat {e : HeartbeatEvent} (h : Asking s) (hm : HeartbeatMove s e s' ms) :
    Asking s' := by
  cases hm with
  | ticked =>
    refine ⟨h.subscribing, fun hb => ?_⟩
    cases hb
    rfl
  | calls hb hc =>
    refine ⟨h.subscribing, fun hb' => ?_⟩
    cases hb'
    exact (Call.step_move hc).request.trans (h.beating hb)
  | _ =>
    refine ⟨h.subscribing, fun hb => ?_⟩
    cases hb

theorem asking_move {e : Event} (h : Asking s) (hm : Move s e s' ms) : Asking s' := by
  cases hm with
  | driver hm => exact asking_driver h hm
  | heartbeat hm => exact asking_heartbeat h hm
  | receiver hm => cases hm <;> exact ⟨h.subscribing, h.beating⟩
  | consumer hm => cases hm <;> exact ⟨h.subscribing, h.beating⟩

end Moves

theorem Run.asking {plan : Plan} {trace : List Transition} {s : Session} (h : Run plan trace s) :
    Asking s := by
  induction h with
  | none => exact ⟨nofun, nofun⟩
  | step _ hs ih => exact asking_move ih (step_move hs)

/-- The handshake of a session is the subscribe request of its plan. -/
theorem Run.handshake {plan : Plan} {trace : List Transition} {s : Session} {client : Client}
    {call : Call} (h : Run plan trace s) (hd : s.driver = .subscribing client call) :
    call.request = plan.subscribeRequest := by
  rw [h.asking.subscribing hd, h.plan_eq]

/-- The transition that an occurrence is. -/
def Transition.of (o : Occurrence Session Event (List Metric)) : Transition :=
  ⟨o.before, o.event, o.after, o.output⟩

/-- A history of steps is a run. -/
theorem Steps.of_history {s₀ s : Session} {history : List (Occurrence Session Event (List Metric))}
    (h : Occurs Session.step s₀ history s) : Steps s₀ (history.map Transition.of) s := by
  induction h with
  | nothing => exact .none
  | next _ hs ih =>
    rw [List.map_append]
    exact ih.step hs

theorem Transition.event_of_mem {history : List (Occurrence Session Event (List Metric))} {events : List Event}
    (h : history.map Occurrence.event = events) {P : Event → Prop} (hall : ∀ e ∈ events, P e) :
    ∀ t ∈ history.map Transition.of, P t.event := by
  intro t ht
  obtain ⟨o, ho, rfl⟩ := List.mem_map.mp ht
  exact MessageBus.event_of_mem h hall o ho

theorem Steps.of_occurs {s₀ s : Session} {history : List (Occurrence Session Event (List Metric))}
    (h : Occurs Session.step s₀ history s) : ∃ trace, Steps s₀ trace s := ⟨_, .of_history h⟩

end Session
end MessageBus
