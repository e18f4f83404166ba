import MessageBus.Proofs.Book.Latest
import MessageBus.Proofs.Book.Trace
import MessageBus.Proofs.Server.Dispatch
/-!
# A book behind a server

A server whose router has the book registered, and an owner who does with the book what he likes between
any two steps of the server. `handshake_arrives`: what a session asks for when it subscribes is entered as
the session means it, and its heartbeats are accepted from then on until the address is struck out.
-/
namespace MessageBus
set_option autoImplicit false

/-! ## Handlers of the book -/

namespace Book

theorem Handled.of_entered {b b' : Book} {now : Instant} {r : Request} {reply : Reply}
    {address : String} {filter : TopicFilter} (h : Handled b now r b' reply)
    (hr : r.entered? = some (address, filter)) : b' = b.subscribe now address filter ∧ reply = Book.accepted := by
  cases h with
  | entered h =>
    cases h.symm.trans hr
    exact ⟨rfl, rfl⟩
  | refreshed h | refused h => cases h.symm.trans hr

theorem handle_heartbeat (b : Book) (now : Instant) (address : String) :
    b.handle now (.heartbeat address) =
      match b.heartbeat? now address with
      | some b' => (b', accepted)
      | none => (b, .fail "unknown subscriber") := by
  have hcommand : (Request.heartbeat address).command = Request.heartbeatCommand := rfl
  have hother : Request.heartbeatCommand ≠ Request.subscribeCommand := by decide
  have haddress : (Request.heartbeat address).params.getString "subscriber" = .ok address :=
    Params.getString_insert ..
  rw [handle, hcommand, if_neg hother, if_pos rfl]
  cases h : b.heartbeat? now address with
  | none => simp only [handleHeartbeat, haddress, h]
  | some b' => simp only [handleHeartbeat, haddress, h]

end Book

/-- A router that has the book registered, whatever other commands it knows. -/
structure Router.HasBook (r : Router ClockedBook) : Prop where
  subscribing : r.handlers.get? Request.subscribeCommand = some ClockedBook.handle
  beating : r.handlers.get? Request.heartbeatCommand = some ClockedBook.handle

theorem Router.hasBook_registerBook (r : Router ClockedBook) : r.registerBook.HasBook :=
  ⟨by rw [get?_registerBook, if_pos (.inr rfl)], by rw [get?_registerBook, if_pos (.inl rfl)]⟩

/-! ## Services -/

namespace Service

inductive Event
  | server (fired : Bool) (e : Server.Event)
  /-- The owner of the book does something to it. -/
  | owner (act : ClockedBook.Act)

def step (s : Server ClockedBook) : Event → Option (Server ClockedBook × Option ClockedBook.Answer)
  | .server fired e => (s.step fired e).map (·, none)
  | .owner act => some ({ s with state := (s.state.perform act).1 }, some (s.state.perform act).2)

abbrev Deed := Occurrence (Server ClockedBook) Event (Option ClockedBook.Answer)

/-- What happened to a service since it was started. -/
def Run (router : Router ClockedBook) (b₀ : ClockedBook) : List Deed → Server ClockedBook → Prop :=
  Occurs step (.start router b₀)

def worksOn (request : Request) (s : Server ClockedBook) : Bool :=
  match s.phase with
  | .handling frame => frame = request.encode
  | _ => false

/-- Whether the server gives its answer to a request. -/
def serves (request : Request) (o : Deed) : Bool :=
  match o.event with
  | .server _ .handled => worksOn request o.before
  | _ => false

/-- Whether the server works on a request that is not for the book. -/
def foreign (s : Server ClockedBook) : Bool :=
  match s.phase with
  | .handling frame =>
    match Request.decode frame with
    | .ok r => r.command != Request.subscribeCommand && r.command != Request.heartbeatCommand
    | .error _ => false
  | _ => false

/-- Whether an address is struck out: by the owner, or by the handler of another command. -/
def strikes (address : String) (o : Deed) : Bool :=
  match o.event, o.output with
  | .owner act, some out => ClockedBook.strikes address ⟨o.before.state, act, o.after.state, out⟩
  | .server _ .handled, _ =>
    foreign o.before && o.before.state.book.knows address && !o.after.state.book.knows address
  | _, _ => false

end Service

/-! ## One step -/

theorem ClockedBook.knows_perform {s s' : ClockedBook} {act : Act} {out : Answer} {address : String}
    (h : s.perform act = (s', out)) (hk : s.book.knows address = true)
    (hn : strikes address ⟨s, act, s', out⟩ = false) : s'.book.knows address = true := by
  rw [Book.knows, Table.contains] at hk ⊢
  rw [get?_perform h, hn]
  split
  · rfl
  · simp only [Bool.false_eq_true, if_false]
    split
    · rw [Option.isSome_map, hk]
    · exact hk

namespace Service
variable {router : Router ClockedBook} {b₀ : ClockedBook} {s s' : Server ClockedBook}
  {history : List Deed} {address : String}

/-- A handler knows an address that was known, unless it strikes it out. -/
theorem knows_reply (hbook : s.router.HasBook) {frame : Frame} (hphase : s.phase = .handling frame)
    (hk : s.state.book.knows address = true)
    (hn : foreign s = true → (s.router.reply s.state frame).1.book.knows address = true) :
    (s.router.reply s.state frame).1.book.knows address = true := by
  cases hd : Request.decode frame with
  | error e => simpa only [Router.reply, hd] using hk
  | ok r =>
    have hreply : s.router.reply s.state frame = s.router.dispatch s.state r := by
      rw [Router.reply, hd]
    by_cases hown : s.router.handlers.get? r.command = some ClockedBook.handle
    · rw [hreply, Router.dispatch_of_handler hown]
      have hperform : s.state.perform (.handle r) = (_, .replied _) := rfl
      exact ClockedBook.knows_perform hperform hk rfl
    · have hforeign : foreign s = true := by
        have hsubscribe : r.command ≠ Request.subscribeCommand := fun h => hown (h ▸ hbook.subscribing)
        have hbeat : r.command ≠ Request.heartbeatCommand := fun h => hown (h ▸ hbook.beating)
        simp [foreign, hphase, hd, hsubscribe, hbeat]
      exact hn hforeign

theorem knows_step {e : Event} {out : Option ClockedBook.Answer} (hbook : s.router.HasBook)
    (hs : step s e = some (s', out)) (hk : s.state.book.knows address = true)
    (hn : strikes address ⟨s, e, s', out⟩ = false) : s'.state.book.knows address = true := by
  cases e with
  | owner act =>
    cases hs
    exact ClockedBook.knows_perform rfl hk hn
  | server fired e =>
    obtain ⟨t, ht, heq⟩ := Option.map_eq_some_iff.mp hs
    cases heq
    obtain ⟨-, hstate | ⟨frame, hphase, rfl, hstate⟩⟩ := Server.step_handlers ht
    · rw [hstate]
      exact hk
    · rw [hstate]
      refine knows_reply hbook hphase hk fun hforeign => ?_
      simpa [strikes, hforeign, hk, hstate] using hn

theorem router_step {e : Event} {out : Option ClockedBook.Answer} (hs : step s e = some (s', out)) :
    s'.router = s.router := by
  cases e with
  | owner act =>
    cases hs
    rfl
  | server fired e =>
    obtain ⟨t, ht, heq⟩ := Option.map_eq_some_iff.mp hs
    cases heq
    exact (Server.step_handlers ht).1

/-! ## Runs -/

theorem Run.router_eq (h : Run router b₀ history s) : s.router = router := by
  induction h with
  | nothing => rfl
  | next _ hs ih => rw [router_step hs, ih]

theorem Run.knows (hbook : router.HasBook) (h : Run router b₀ history s) {i : Nat}
    (hi : At history i fun o => o.after.state.book.knows address = true)
    (hlast : ∀ j, i < j → ¬At history j fun o => strikes address o = true) :
    s.state.book.knows address = true := by
  induction h with
  | nothing => exact absurd hi.lt (Nat.not_lt_zero _)
  | @next history s s' e out h hs ih =>
    -- It was known before this step, or is since this step.
    rcases at_concat.mp hi with hi | ⟨-, hk⟩
    · have hk := ih hi fun j hj ha => hlast j hj (ha.append _)
      have hn := (Bool.not_eq_true _).mp fun hs => hlast _ hi.lt (at_last hs)
      exact knows_step (Run.router_eq h ▸ hbook) hs hk hn
    · exact hk

/-! ## Requests -/

/-- The server can give its answer to what it works on; the answer reads as a reply. -/
def Answers (s : Server ClockedBook) (P : Book → Reply → Prop) : Prop :=
  ∀ fired, ∃ s' reply, step s (.server fired .handled) = some (s', none) ∧ s'.Answering reply ∧
    P s'.state.book reply

/-- A request for the book is answered as the book answers it. -/
theorem answers {r : Request} (hc : s.router.handlers.get? r.command = some ClockedBook.handle)
    (hphase : s.phase = .handling r.encode) (hr : r.params.Carried)
    (hreply : (s.state.book.handle s.state.now r).2.params.Carried) :
    Answers s fun b reply => (b, reply) = s.state.book.handle s.state.now r := by
  intro fired
  have hstep := Server.handled_encode hphase hr fired
  rw [Router.dispatch_of_handler hc] at hstep
  exact ⟨_, _, by rw [step, hstep]; rfl, Server.answering_encode rfl hreply, rfl⟩

theorem Answers.imp {P Q : Book → Reply → Prop} (h : Answers s P) (hpq : ∀ b reply, P b reply → Q b reply) :
    Answers s Q := by
  intro fired
  obtain ⟨s', reply, hs, ha, hp⟩ := h fired
  exact ⟨s', reply, hs, ha, hpq _ _ hp⟩

theorem answers_subscribe (hbook : s.router.HasBook) {filter : TopicFilter}
    (hphase : s.phase = .handling (Request.subscribe address filter).encode) :
    Answers s fun b reply => b = s.state.book.subscribe s.state.now address filter ∧
      reply = Book.accepted := by
  have hhandled := (Book.handle_handled s.state.book s.state.now (.subscribe address filter)).of_entered
    (Request.entered?_subscribe address filter)
  refine (answers hbook.subscribing hphase (Request.carried_subscribe ..) ?_).imp fun b reply h => ?_
  · rw [hhandled.2]
    exact Params.carried_empty
  · rw [Prod.ext_iff] at h
    exact ⟨h.1.trans hhandled.1, h.2.trans hhandled.2⟩

theorem answers_heartbeat (hbook : s.router.HasBook)
    (hphase : s.phase = .handling (Request.heartbeat address).encode) :
    Answers s fun b reply => (b, reply) =
      match s.state.book.heartbeat? s.state.now address with
      | some b' => (b', Book.accepted)
      | none => (s.state.book, .fail "unknown subscriber") := by
  rw [← Book.handle_heartbeat]
  refine answers hbook.beating hphase (Request.carried_heartbeat _) ?_
  rw [Book.handle_heartbeat]
  split
  · exact Params.carried_empty
  · exact Params.carried_empty

/-! ## The handshake -/

theorem phase_of_worksOn {r : Request} (h : worksOn r s = true) : s.phase = .handling r.encode := by
  unfold worksOn at h
  split at h
  · next frame hphase => exact hphase.trans (congrArg _ (of_decide_eq_true h))
  · cases h

theorem of_serves {r : Request} {o : Deed} (h : serves r o = true) :
    o.before.phase = .handling r.encode ∧ ∃ fired, o.event = .server fired .handled := by
  unfold serves at h
  split at h
  · next fired he => exact ⟨phase_of_worksOn h, fired, he⟩
  · cases h

/-- An address is known right after its handshake. -/
theorem Run.entered (hbook : router.HasBook) (h : Run router b₀ history s) {filter : TopicFilter} {i : Nat}
    (hi : At history i fun o => serves (.subscribe address filter) o = true) :
    At history i fun o => o.after.state.book.knows address = true := by
  obtain ⟨o, ho, hserves⟩ := hi
  obtain ⟨hbefore, hs⟩ := Occurs.of_getElem? h ho
  obtain ⟨hphase, fired, he⟩ := of_serves hserves
  obtain ⟨s', reply, hs', -, hb, -⟩ :=
    answers_subscribe (Run.router_eq hbefore ▸ hbook) hphase fired
  rw [he, hs'] at hs
  have hafter : o.after = s' := (Prod.mk.inj (Option.some.inj hs)).1.symm
  have hentry : o.after.state.book.table.get? address = some ⟨filter, o.before.state.now⟩ := by
    rw [hafter, hb, Book.subscribe, Table.get?_insert, if_pos rfl]
  exact ⟨o, ho, Option.isSome_iff_exists.mpr ⟨_, hentry⟩⟩

/-- What a session asks for is what its plan says, whatever strings the plan holds. A service with the book
registered accepts its handshake and enters exactly its filter under its address, which changes no other
entry; from then on its heartbeats are accepted, until its address is struck out. The heartbeats of an
address that the book does not know are rejected. -/
theorem handshake_arrives (plan : Session.Plan) (hbook : router.HasBook) (h : Run router b₀ history s) :
    (∀ trace session client call, Session.Run plan trace session →
      (session.driver = .subscribing client call → call.request = plan.subscribeRequest) ∧
      (session.heartbeat = .beating client call → call.request = plan.heartbeatRequest)) ∧
    (s.phase = .handling plan.subscribeRequest.encode → Answers s fun b reply =>
      reply.isOk = true ∧
      (∀ address, b.table.get? address =
        if address = plan.address then some ⟨plan.filter, s.state.now⟩
        else s.state.book.table.get? address) ∧
      ∀ topic, plan.address ∈ b.interested topic ↔ plan.filter.accepts topic = true) ∧
    (∀ i, (At history i fun o => serves plan.subscribeRequest o = true) →
      (∀ j, i < j → ¬At history j fun o => strikes plan.address o = true) →
      s.phase = .handling plan.heartbeatRequest.encode →
      Answers s fun b reply => reply.isOk = true ∧ b.knows plan.address = true) ∧
    ∀ address, s.state.book.knows address = false →
      s.phase = .handling (Request.heartbeat address).encode →
      Answers s fun b reply => reply.isOk = false ∧ b = s.state.book := by
  have hrouter : s.router.HasBook := Run.router_eq h ▸ hbook
  refine ⟨fun trace session client call hrun => ⟨hrun.handshake, fun hb => ?_⟩, fun hphase => ?_,
    fun i hi hlast hphase => ?_, fun address hk hphase => ?_⟩
  · rw [hrun.asking.beating hb, hrun.plan_eq]
  · refine (answers_subscribe hrouter hphase).imp fun b reply hb => ?_
    obtain ⟨rfl, rfl⟩ := hb
    refine ⟨rfl, fun address => Table.get?_insert .., fun topic => ?_⟩
    simp [Book.mem_interested, Book.filterOf?_subscribe]
  · have hk := Run.knows hbook h (Run.entered hbook h hi) hlast
    obtain ⟨e, he⟩ := Option.isSome_iff_exists.mp hk
    refine (answers_heartbeat hrouter hphase).imp fun b reply hb => ?_
    rw [Book.heartbeat?, he] at hb
    cases hb
    refine ⟨rfl, Option.isSome_iff_exists.mpr ⟨⟨e.filter, s.state.now⟩, ?_⟩⟩
    rw [Table.get?_insert, if_pos rfl]
  · have hnone : s.state.book.table.get? address = none := by
      simpa [Book.knows, Table.contains] using hk
    refine (answers_heartbeat hrouter hphase).imp fun b reply hb => ?_
    rw [Book.heartbeat?, hnone] at hb
    cases hb
    exact ⟨rfl, rfl⟩

/-- A session that follows the topics of one organization. -/
def plan : Session.Plan := ClockedBook.tracker.subscribe ClockedBook.acme

/-- The session subscribes, time passes, and its heartbeat is taken. -/
def kept : List Event :=
  [.server false (.received plan.subscribeRequest.encode), .server false .handled, .server false .sent,
    .owner (.pass (.ofSecs 2)), .server false (.received plan.heartbeatRequest.encode)]

theorem handshake_arrives_kept :
    ∃ history s, Run Router.empty.registerBook ⟨0, .empty⟩ history s ∧
      history.map Occurrence.event = kept ∧
      Answers s fun b reply => reply.isOk = true ∧ b.knows "sub-1" = true := by
  have hread : (follow step (.start Router.empty.registerBook ⟨0, .empty⟩) kept).map
      (fun r => (r.1.map (serves plan.subscribeRequest), r.1.any (strikes plan.address),
        worksOn plan.heartbeatRequest r.2)) =
      some ([false, true, false, false, false], false, true) := by decide +kernel
  obtain ⟨history, s, hrun, hevents, hread⟩ := Occurs.of_reading hread
  obtain ⟨hserves, hread⟩ := Prod.mk.inj hread
  obtain ⟨hkept, hworks⟩ := Prod.mk.inj hread
  have hlast : ∀ j, 1 < j → ¬At history j fun o => strikes plan.address o = true := by
    rintro j - ⟨o, ho, hs⟩
    exact List.any_eq_false.mp hkept o (List.mem_of_getElem? ho) hs
  obtain ⟨-, -, hbeats, -⟩ := handshake_arrives plan (Router.hasBook_registerBook .empty) hrun
  exact ⟨history, s, hrun, hevents,
    hbeats 1 (at_of_map hserves rfl) hlast (phase_of_worksOn hworks)⟩

end Service
end MessageBus
