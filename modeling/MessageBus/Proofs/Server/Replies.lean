import MessageBus.Proofs.History
import MessageBus.Proofs.Server.Dispatch
/-!
# One answer to each frame

`Server.one_reply_per_request`: whatever frames a server takes, whatever its handlers and its socket do and
whenever its canceller gives the signal, the server takes one frame after the other and gives one answer to
each before it takes the next. A frame alone never makes it stop. What the handlers share may also change
between two steps of the server, as a subscription book does that has an owner.
-/
namespace MessageBus.Server
set_option autoImplicit false

variable {σ : Type} {router : Router σ} {state : σ} {s s' : Server σ} {fired : Bool} {e : Event}

/-! ## One step -/

/-- The answer to a frame, given what the handlers find. -/
def answer (router : Router σ) (taken : σ × Frame) : Frame := (router.reply taken.1 taken.2).2.encode

inductive Move (fired : Bool) (s : Server σ) : Event → Server σ → Prop
  | received {frame : Frame} (hp : s.phase = .waiting) :
      Move fired s (.received frame) { s with phase := .handling frame }
  | receiveFailed {e : SocketError} (hp : s.phase = .waiting) :
      Move fired s (.receiveFailed e) { s with phase := .finished (.error e) }
  | cancelled (hp : s.phase = .waiting) (hf : fired = true) :
      Move fired s .cancelled { s with phase := .finished (.ok s.served) }
  | handled {frame : Frame} (hp : s.phase = .handling frame) :
      Move fired s .handled { s with
        state := (s.router.reply s.state frame).1
        phase := .answering (answer s.router (s.state, frame)) }
  | sent {bytes : Frame} (hp : s.phase = .answering bytes) :
      Move fired s .sent { s with served := s.served + 1, phase := .waiting }
  | sendFailed {bytes : Frame} {e : SocketError} (hp : s.phase = .answering bytes) :
      Move fired s (.sendFailed e) { s with phase := .finished (.error e) }

theorem step_move (h : s.step fired e = some s') : Move fired s e s' := by
  unfold step at h
  split at h
  · next hp =>
    cases h
    exact .received hp
  · next hp =>
    cases h
    exact .receiveFailed hp
  · next hp =>
    split at h
    · next hf =>
      cases h
      exact .cancelled hp hf
    · cases h
  · next hp =>
    cases h
    exact .handled hp
  · next hp =>
    cases h
    exact .sent hp
  · next hp =>
    cases h
    exact .sendFailed hp
  · cases h

theorem Move.step (h : Move fired s e s') : s.step fired e = some s' := by
  cases h with
  | received hp | receiveFailed hp | sent hp | sendFailed hp => simp only [Server.step, hp]
  | handled hp => simp only [Server.step, hp, answer]
  | cancelled hp hf => simp only [Server.step, hp, if_pos hf]

/-- Once it works on a frame, a server comes to an answer and to nothing else, cancelled or not. -/
theorem step_handling {frame : Frame} (hp : s.phase = .handling frame) :
    s.step fired e = some s' ↔ e = .handled ∧ s' = { s with
      state := (s.router.reply s.state frame).1
      phase := .answering (answer s.router (s.state, frame)) } := by
  constructor
  · intro h
    cases step_move h with
    | handled hp' =>
      cases hp.symm.trans hp'
      exact ⟨rfl, rfl⟩
    | received hp' | receiveFailed hp' | cancelled hp' _ | sent hp' | sendFailed hp' =>
      cases hp.symm.trans hp'
  · rintro ⟨rfl, rfl⟩
    exact (Move.handled hp).step

/-- Once it has an answer, a server gives it or fails in giving it, cancelled or not. -/
theorem step_answering {bytes : Frame} (hp : s.phase = .answering bytes) :
    s.step fired e = some s' ↔
      e = .sent ∧ s' = { s with served := s.served + 1, phase := .waiting } ∨
      ∃ why, e = .sendFailed why ∧ s' = { s with phase := .finished (.error why) } := by
  constructor
  · intro h
    cases step_move h with
    | sent hp' => exact .inl ⟨rfl, rfl⟩
    | sendFailed hp' => exact .inr ⟨_, rfl, rfl⟩
    | received hp' | receiveFailed hp' | cancelled hp' _ | handled hp' => cases hp.symm.trans hp'
  · rintro (⟨rfl, rfl⟩ | ⟨why, rfl, rfl⟩)
    · exact (Move.sent hp).step
    · exact (Move.sendFailed hp).step

/-! ## Answers -/

/-- A request is answered with what it is dispatched to. -/
theorem answer_of_decoded {frame : Frame} {request : Request} (h : Request.decode frame = .ok request)
    (state : σ) : answer router (state, frame) = (router.dispatch state request).2.encode := by
  rw [answer, Router.reply, h]

/-- What is no request is answered with a rejection that reads back as one. -/
theorem answer_of_undecoded {frame : Frame} {e : EnvelopeError} (h : Request.decode frame = .error e)
    (state : σ) :
    answer router (state, frame) = (Reply.fail ("invalid request: " ++ e.message)).encode ∧
      Reply.decode (answer router (state, frame)) = .ok (.fail ("invalid request: " ++ e.message)) := by
  have hanswer : answer router (state, frame) =
      (Reply.fail ("invalid request: " ++ e.message)).encode := by rw [answer, Router.reply, h]
  refine ⟨hanswer, ?_⟩
  rw [hanswer, Reply.decode_carried Params.carried_empty]

/-! ## Runs -/

inductive Act (σ : Type)
  /-- The server takes an event; `fired` says whether its canceller has given the signal by then. -/
  | own (fired : Bool) (e : Event)
  | changed (state : σ)

def act (s : Server σ) : Act σ → Option (Server σ × Unit)
  | .own fired e => (s.step fired e).map (·, ())
  | .changed state => some ({ s with state := state }, ())

abbrev Deed (σ : Type) := Occurrence (Server σ) (Act σ) Unit

def Run (router : Router σ) (state : σ) : List (Deed σ) → Server σ → Prop := Occurs act (.start router state)

inductive Turn
  | took (frame : Frame)
  | gave (frame : Frame)
deriving DecidableEq

def turn? (o : Deed σ) : Option Turn :=
  match o.event, o.before.phase with
  | .own _ (.received frame), _ => some (.took frame)
  | .own _ .sent, .answering bytes => some (.gave bytes)
  | _, _ => none

def turns (history : List (Deed σ)) : List Turn := history.filterMap turn?

/-- A frame that is answered, and what the handlers find at that moment. -/
def handled? (o : Deed σ) : Option (σ × Frame) :=
  match o.event, o.before.phase with
  | .own _ .handled, .handling frame => some (o.before.state, frame)
  | _, _ => none

/-- The frames that were answered, in order, each with what the handlers found. -/
def handled (history : List (Deed σ)) : List (σ × Frame) := history.filterMap handled?

def exchange (router : Router σ) (taken : σ × Frame) : List Turn :=
  [.took taken.2, .gave (answer router taken)]

/-- An event that ends a server, and how it ends. -/
def ends (result : Except SocketError Nat) (o : Deed σ) : Prop :=
  (o.event = .own true .cancelled ∧ o.before.phase = .waiting ∧ result = .ok o.before.served) ∨
    ∃ fired e, (o.event = .own fired (.receiveFailed e) ∨ o.event = .own fired (.sendFailed e)) ∧
      result = .error e

/-- Frames that were taken and answered, one after the other, and the frame under way, if there is one. Only
that one may have been handled and not answered. -/
structure Exchanged (router : Router σ) (history : List (Deed σ)) (answered : List (σ × Frame))
    (underWay : Option Frame) : Prop where
  turns : turns history = answered.flatMap (exchange router) ++ (underWay.map Turn.took).toList
  handled : handled history = answered ∨
    ∃ taken, handled history = answered ++ [taken] ∧ underWay = some taken.2

/-- Where a server stands between two exchanges or within one. -/
def Standing (router : Router σ) (history : List (Deed σ)) (s : Server σ) : Prop :=
  match s.phase with
  | .waiting => Exchanged router history (handled history) none ∧ s.served = (handled history).length
  | .handling frame =>
    Exchanged router history (handled history) (some frame) ∧ s.served = (handled history).length
  | .answering bytes =>
    ∃ answered taken, handled history = answered ++ [taken] ∧ bytes = answer router taken ∧
      Exchanged router history answered (some taken.2) ∧ s.served = answered.length
  | .finished (.ok n) => Exchanged router history (handled history) none ∧ n = (handled history).length
  | .finished (.error _) => ∃ answered underWay, Exchanged router history answered underWay

theorem router_act {a : Act σ} {out : Unit} (h : s.act a = some (s', out)) : s'.router = s.router := by
  cases a with
  | own fired e =>
    obtain ⟨t, ht, heq⟩ := Option.map_eq_some_iff.mp h
    cases heq
    exact (step_handlers ht).1
  | changed state =>
    cases h
    rfl

section History
variable {history : List (Deed σ)} {o : Deed σ}

theorem Run.router_eq (h : Run router state history s) : s.router = router := by
  induction h with
  | nothing => rfl
  | next _ hs ih => rw [router_act hs, ih]

theorem turns_concat : turns (history ++ [o]) = turns history ++ (turn? o).toList :=
  filterMap_concat turn? history o

theorem handled_concat : handled (history ++ [o]) = handled history ++ (handled? o).toList :=
  filterMap_concat handled? history o

theorem handled_quiet (hh : handled? o = none) : handled (history ++ [o]) = handled history := by
  rw [handled_concat, hh, Option.toList_none, List.append_nil]

/-- Exchanges do not hang on what is neither a turn nor the handling of a frame. -/
theorem Exchanged.quiet {answered : List (σ × Frame)} {underWay : Option Frame}
    (h : Exchanged router history answered underWay) (ht : turn? o = none) (hh : handled? o = none) :
    Exchanged router (history ++ [o]) answered underWay := by
  refine ⟨?_, ?_⟩
  · rw [turns_concat, ht, Option.toList_none, List.append_nil, h.turns]
  · rw [handled_quiet hh]
    exact h.handled

theorem Standing.quiet (h : Standing router history s) (hphase : s'.phase = s.phase)
    (hserved : s'.served = s.served) (ht : turn? o = none) (hh : handled? o = none) :
    Standing router (history ++ [o]) s' := by
  unfold Standing at h ⊢
  rw [hphase, hserved]
  simp only [handled_quiet hh]
  split at h
  · exact ⟨h.1.quiet ht hh, h.2⟩
  · exact ⟨h.1.quiet ht hh, h.2⟩
  · obtain ⟨answered, taken, hhandled, hbytes, hx, hn⟩ := h
    exact ⟨answered, taken, hhandled, hbytes, hx.quiet ht hh, hn⟩
  · exact ⟨h.1.quiet ht hh, h.2⟩
  · obtain ⟨answered, underWay, hx⟩ := h
    exact ⟨answered, underWay, hx.quiet ht hh⟩

theorem Standing.moved (h : Standing router history s) (hrouter : s.router = router)
    (hm : Move fired s e s') (out : Unit) :
    Standing router (history ++ [⟨s, .own fired e, s', out⟩]) s' := by
  unfold Standing at h
  cases hm with
  | @received frame hp =>
    rw [hp] at h
    obtain ⟨hx, hn⟩ := h
    have hh (t : Server σ) : Server.handled (history ++ [⟨s, .own fired (.received frame), t, out⟩]) =
        Server.handled history := handled_quiet rfl
    refine ⟨⟨?_, .inl rfl⟩, ?_⟩
    · rw [turns_concat, hx.turns, hh]
      simp [turn?]
    · rw [hh]
      exact hn
  | @receiveFailed why hp =>
    rw [hp] at h
    exact ⟨_, _, h.1.quiet rfl rfl⟩
  | cancelled hp hf =>
    rw [hp] at h
    have hh (t : Server σ) : Server.handled (history ++ [⟨s, .own fired .cancelled, t, out⟩]) =
        Server.handled history := handled_quiet rfl
    refine ⟨?_, ?_⟩
    · rw [hh]
      exact h.1.quiet rfl rfl
    · rw [hh]
      exact h.2
  | @handled frame hp =>
    rw [hp] at h
    obtain ⟨hx, hn⟩ := h
    have hh (t : Server σ) : Server.handled (history ++ [⟨s, .own fired .handled, t, out⟩]) =
        Server.handled history ++ [(s.state, frame)] := by
      rw [handled_concat, handled?, hp]
      rfl
    refine ⟨_, (s.state, frame), hh _, by rw [hrouter], ⟨?_, .inr ⟨_, hh _, rfl⟩⟩, hn⟩
    rw [turns_concat, hx.turns]
    simp [turn?]
  | @sent bytes hp =>
    rw [hp] at h
    obtain ⟨answered, taken, hhandled, rfl, hx, hn⟩ := h
    have hh (t : Server σ) : Server.handled (history ++ [⟨s, .own fired .sent, t, out⟩]) =
        Server.handled history := handled_quiet rfl
    refine ⟨⟨?_, .inl rfl⟩, ?_⟩
    · -- The answer closes the exchange that was under way.
      rw [turns_concat, hx.turns, hh, hhandled, turn?, hp]
      simp [exchange]
    · rw [hh, hhandled, List.length_append, List.length_singleton, hn]
  | sendFailed hp =>
    rw [hp] at h
    obtain ⟨answered, taken, -, -, hx, -⟩ := h
    exact ⟨_, _, hx.quiet (by simp [turn?]) (by simp [handled?])⟩

theorem Run.standing (h : Run router state history s) : Standing router history s := by
  induction h with
  | nothing => exact ⟨⟨rfl, .inl rfl⟩, rfl⟩
  | @next history s s' a out h hs ih =>
    cases a with
    | changed state =>
      cases hs
      exact ih.quiet rfl rfl rfl rfl
    | own fired e =>
      obtain ⟨t, ht, heq⟩ := Option.map_eq_some_iff.mp hs
      cases heq
      exact ih.moved (Run.router_eq h) (step_move ht) _

/-- Whatever phase a server is in, its frames were answered one by one. -/
theorem Standing.exchanged (h : Standing router history s) :
    ∃ answered underWay, Exchanged router history answered underWay := by
  unfold Standing at h
  split at h
  · exact ⟨_, _, h.1⟩
  · exact ⟨_, _, h.1⟩
  · obtain ⟨answered, taken, -, -, hx, -⟩ := h
    exact ⟨answered, _, hx⟩
  · exact ⟨_, _, h.1⟩
  · exact h

/-- A server ends by its canceller or its socket, never by a frame. -/
theorem Run.ended (h : Run router state history s) {result : Except SocketError Nat}
    (hp : s.phase = .finished result) : ∃ i, At history i (ends result) := by
  induction h with
  | nothing => cases hp
  | @next history s s' a out h hs ih =>
    cases a with
    | changed state =>
      cases hs
      obtain ⟨i, hi⟩ := ih hp
      exact ⟨i, hi.append _⟩
    | own fired e =>
      obtain ⟨t, ht, heq⟩ := Option.map_eq_some_iff.mp hs
      cases heq
      refine ⟨history.length, at_last ?_⟩
      cases step_move ht with
      | received | handled | sent => cases hp
      | receiveFailed =>
        cases hp
        exact .inr ⟨_, _, .inl rfl, rfl⟩
      | cancelled hwaiting hf =>
        cases hp
        subst hf
        exact .inl ⟨rfl, hwaiting, rfl⟩
      | sendFailed =>
        cases hp
        exact .inr ⟨_, _, .inr rfl, rfl⟩

end History

/-! ## All runs -/

/-- A server takes and gives in turn, and gives to each frame the one answer that is due to it before it
takes the next: to a request what it is dispatched to, to all else a rejection. From the moment it took a
frame until it gave the answer the canceller cannot stop it, and no frame can; it ends when it is cancelled
between two exchanges, with the number of answers it gave, or when its socket fails. -/
theorem one_reply_per_request {history : List (Deed σ)} (h : Run router state history s) :
    (∃ (answered : List (σ × Frame)) (underWay : Option Frame),
      turns history = answered.flatMap (exchange router) ++ (underWay.map Turn.took).toList ∧
      (handled history = answered ∨
        ∃ taken, handled history = answered ++ [taken] ∧ underWay = some taken.2)) ∧
    (∀ n, s.phase = .finished (.ok n) →
      turns history = (handled history).flatMap (exchange router) ∧ n = (handled history).length) ∧
    (∀ state frame request, Request.decode frame = .ok request →
      answer router (state, frame) = (router.dispatch state request).2.encode) ∧
    (∀ state frame e, Request.decode frame = .error e →
      answer router (state, frame) = (Reply.fail ("invalid request: " ++ e.message)).encode ∧
      Reply.decode (answer router (state, frame)) = .ok (.fail ("invalid request: " ++ e.message))) ∧
    (∀ frame, s.phase = .handling frame → ∀ fired e s', s.step fired e = some s' ↔
      e = .handled ∧ s' = { s with
        state := (router.reply s.state frame).1
        phase := .answering (answer router (s.state, frame)) }) ∧
    (∀ bytes, s.phase = .answering bytes → ∀ fired e s', s.step fired e = some s' ↔
      e = .sent ∧ s' = { s with served := s.served + 1, phase := .waiting } ∨
      ∃ why, e = .sendFailed why ∧ s' = { s with phase := .finished (.error why) }) ∧
    (s.phase = .waiting → ∀ fired frame,
      s.step fired (.received frame) = some { s with phase := .handling frame }) ∧
    ∀ result, s.phase = .finished result → ∃ i, At history i (ends result) := by
  have hstanding := Run.standing h
  have hrouter := Run.router_eq h
  refine ⟨?_, fun n hp => ?_, fun state frame request hd => answer_of_decoded hd state,
    fun state frame e he => answer_of_undecoded he state, fun frame hp fired e s' => ?_,
    fun bytes hp fired e s' => step_answering hp, fun hp fired frame => (Move.received hp).step,
    fun result hp => Run.ended h hp⟩
  · obtain ⟨answered, underWay, hx⟩ := hstanding.exchanged
    exact ⟨answered, underWay, hx.turns, hx.handled⟩
  · rw [Standing, hp] at hstanding
    obtain ⟨hx, hn⟩ := hstanding
    exact ⟨by simpa using hx.turns, hn⟩
  · rw [← hrouter]
    exact step_handling hp

/-- A router that knows one command; its handler counts the requests it answers. -/
def counting : Router Nat := Router.empty.register "count" fun n r => (n + 1, .ok r.params)

/-- A request, some garbage, and a signal that comes while the garbage is worked on. -/
def interrupted : List (Act Nat) :=
  [.own false (.received (Request.encode ⟨"count", .empty⟩)), .own false .handled, .own false .sent,
    .own false (.received [0x7B, 0x6F]), .own true .handled, .own true .sent, .own true .cancelled]

theorem one_reply_per_request_interrupted :
    ∃ history s, Run counting 0 history s ∧ history.map Occurrence.event = interrupted ∧
      s.phase = .finished (.ok 2) ∧
      turns history = (handled history).flatMap (exchange counting) ∧ (handled history).length = 2 := by
  have hread : (follow act (.start counting 0) interrupted).map (fun r => r.2.phase) =
      some (.finished (.ok 2)) := rfl
  obtain ⟨history, s, hrun, hevents, hphase⟩ := Occurs.of_reading hread
  obtain ⟨-, hended, -⟩ := one_reply_per_request hrun
  obtain ⟨hturns, hlength⟩ := hended 2 hphase
  exact ⟨history, s, hrun, hevents, hphase, hturns, hlength.symm⟩

end MessageBus.Server
