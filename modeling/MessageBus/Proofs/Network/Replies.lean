import MessageBus.Proofs.Network.Tickets
/-!
# Which request a reply answers

`replies_answer_requests`: a reply that a call returns was sent in answer to the frame that the call's last
attempt sent, whatever else happened on the network, and no frame is answered to two requesters. A call
that waits for its reply waits under the ticket of its last send (`Waits`), and what became of a ticket is
known from its history (`Kept`).
-/
namespace MessageBus.Traffic
set_option autoImplicit false
open Network (ReplyId TicketId Mark)

/-! ## Waiting callers -/

/-- A caller's call sends its frame to a reply socket, under a new ticket. -/
def Asks (c : CallerId) (call : Call) (p : ReplyId) (t : TicketId) (o : Deed) : Prop :=
  o.event = .operates c ∧
    (∃ u signal?, o.before.callers.get? c = some u ∧ u.activity = .calling call signal?) ∧
    mark? o = some (t, .asked p call.request.encode)

/-- Whether an act is one of a caller; the signal of its canceller is not. -/
def Act.isOf (c : CallerId) : Act → Bool
  | .does _ .signal => false
  | .does d _ | .operates d | .drops d | .leaves d => d = c
  | _ => false

/-- A call waits under the ticket of its last send, after which its caller has done nothing. -/
def Waiting (history : List Deed) (n : Network) (c : CallerId) (socket : Option SocketId) (call : Call) :
    Prop :=
  ∃ id r t i p, socket = some id ∧ n.requests.get? id = some r ∧ r.pending = some t ∧
    At history i (Asks c { call with phase := .sending } p t) ∧
    ∀ j, i < j → ¬ At history j fun o => o.event.isOf c = true

/-- Whoever waits for a reply waits for that to its last request. -/
def Waits (history : List Deed) (w : Traffic) : Prop :=
  ∀ {c u call signal?}, w.callers.get? c = some u → u.activity = .calling call signal? →
    call.phase = .receiving → Waiting history w.network c u.client.socket call

section Waits
variable {history : List Deed} {n n' : Network} {o : Deed} {c : CallerId}

/-- What does not touch a caller's socket does not matter to it. -/
theorem Waiting.frame {socket : Option SocketId} {call : Call} (h : Waiting history n c socket call)
    (hk : ∀ {id}, socket = some id → id < n.requests.next → n'.requests.get? id = n.requests.get? id)
    (ho : o.event.isOf c = false) : Waiting (history ++ [o]) n' c socket call := by
  obtain ⟨id, r, t, i, p, hs, hr, hp, hi, hsince⟩ := h
  refine ⟨id, r, t, i, p, hs, (hk hs (Pool.get?_lt hr)).trans hr, hp, hi.append _, fun j hij hj => ?_⟩
  rcases at_concat.mp hj with hj | ⟨-, hj⟩
  · exact hsince j hij hj
  · cases ho.symm.trans hj

/-- How a caller comes to wait for a reply, or goes on waiting. -/
theorem move_receiving {u u' : Caller} {e : Caller.Event} {out : Caller.Output} {call : Call}
    {signal? : Option Bool} (h : Caller.Move u e u' out) (ha : u'.activity = .calling call signal?)
    (hp : call.phase = .receiving) :
    u'.client = u.client ∧
      ((e = .signal ∧ ∃ signal?, u.activity = .calling call signal?) ∨
        (e = .act .sent ∧ ∃ signal?, u.activity = .calling { call with phase := .sending } signal?)) := by
  cases h with
  | kept hi => cases hi.symm.trans ha
  | connects | connected | unconnected | ends => cases ha
  | asked =>
    cases ha
    cases hp
  | signalled hu =>
    cases ha
    exact ⟨rfl, .inl ⟨rfl, _, hu⟩⟩
  | goesOn hu hm =>
    cases ha
    cases hm with
    | reuses | dials | dialed | undialed | rested | failed => cases hp
    | @sent hs =>
      refine ⟨rfl, .inr ⟨rfl, signal?, ?_⟩⟩
      rw [hu, ← hs]

/-- A caller that did nothing else than wait, or that sent just now. -/
theorem Waits.own {w w' : Traffic} {act : Act} {out : Output} {u u' : Caller} {e : Caller.Event}
    {n : Network} {cout : Caller.Output} {call : Call} {signal? : Option Bool} (h : Waits history w)
    (hu : w.callers.get? c = some u) (hm : Caller.Move u e u' cout)
    (ha : u'.activity = .calling call signal?) (hp : call.phase = .receiving)
    (hsignal : e = .signal → n = w.network ∧ act.isOf c = false)
    (hsent : e = .act .sent → act = .operates c ∧ Went w.network u e n) :
    Waiting (history ++ [⟨w, act, w', out⟩]) (n.release u.client.socket u'.client.socket) c
      u'.client.socket call := by
  -- Either its canceller gave the signal while it was waiting, or its send has just come to an end.
  obtain ⟨hclient, ⟨rfl, signal₀?, hcalling⟩ | ⟨rfl, signal₀?, hsending⟩⟩ := move_receiving hm ha hp
  · obtain ⟨rfl, hact⟩ := hsignal rfl
    rw [hclient, Network.release_self]
    exact (h hu hcalling hp).frame (fun _ _ => rfl) hact
  · obtain ⟨rfl, hwent⟩ := hsent rfl
    rw [hclient, Network.release_self]
    cases hwent with
    | dialed he | undialed he => rcases he with he | he <;> cases he
    | @sent sent _ id _ hcall hphase hs hr =>
      obtain rfl : sent = { call with phase := .sending } := by
        cases hcall.symm.trans hsending
        rfl
      have hmark : mark? ⟨w, .operates c, w', out⟩ = w.network.asked? id call.request.encode := by
        simp only [mark?, hu, Option.bind_some, sending?_sending hcall hphase hs]
      obtain ⟨r, s, hget, hnone, hpeer, rfl⟩ := Network.sendRequest_ok hr
      refine ⟨id, { r with pending := some w.network.tickets.next }, w.network.tickets.next, _, r.peer, hs,
        ?_, rfl, at_last ⟨rfl, ⟨u, _, hu, hcall⟩, ?_⟩, fun j hj hat => ?_⟩
      · rw [Pool.get?_modify, if_pos rfl, hget]
        rfl
      · rw [hmark, Network.asked?, hr, hget]
        rfl
      · have hlt := hat.lt
        rw [List.length_append, List.length_singleton] at hlt
        omega

theorem Waits.next {w w' : Traffic} {act : Act} {out : Output} (h : Waits history w) (hh : Held w)
    (hm : Move w act w' out) : Waits (history ++ [⟨w, act, w', out⟩]) w' := by
  intro c u call signal? hc ha hp
  -- What others do is done to their own sockets, and no two callers share one.
  have hother {d v} (hd : w.callers.get? d = some v) (hne : c ≠ d) (hc : w.callers.get? c = some u) {id}
      (hs : u.client.socket = some id) : v.client.socket ≠ some id := fun hv =>
    hne (hh.apart hc hd hs hv)
  cases hm with
  | enters =>
    rcases Pool.of_get?_add hc with ⟨-, rfl⟩ | ⟨-, hc⟩
    · cases ha
    · exact (h hc ha hp).frame (fun _ _ => rfl) rfl
  | @does d v v' e _ hd ho hm =>
    rcases get?_moved hc with ⟨rfl, rfl⟩ | ⟨hne, hc⟩
    · refine h.own hd hm ha hp (fun he => ?_) fun he => ?_
      · rw [he]
        exact ⟨rfl, rfl⟩
      · rw [he] at ho
        cases ho
    · refine (h hc ha hp).frame (fun hs hlt => ?_) ?_
      · exact (Network.release_spares ..).kept hlt (hother hd hne hc hs)
      · cases e <;> first | rfl | exact decide_eq_false (Ne.symm hne)
  | @operates d v v' e n _ hd hg hm =>
    rcases get?_moved hc with ⟨rfl, rfl⟩ | ⟨hne, hc⟩
    · refine h.own hd hm ha hp (fun he => ?_) fun _ => ⟨rfl, hg⟩
      subst he
      cases hg with
      | dialed he | undialed he => rcases he with he | he <;> cases he
    · refine (h hc ha hp).frame (fun hs hlt => ?_) (decide_eq_false (Ne.symm hne))
      exact ((went_spares hg).trans (Network.release_spares ..)).kept hlt (hother hd hne hc hs)
  | @drops d v hd =>
    rcases Pool.of_get?_modify hc with ⟨hne, hc⟩ | ⟨-, _, -, rfl⟩
    · exact (h hc ha hp).frame (fun _ _ => rfl) (decide_eq_false (Ne.symm hne))
    · cases ha
  | @leaves d v hd =>
    obtain ⟨hne, hc⟩ := Pool.of_get?_remove hc
    refine (h hc ha hp).frame (fun hs hlt => ?_) (decide_eq_false (Ne.symm hne))
    exact (Network.release_spares ..).kept hlt (hother hd hne hc hs)
  | binds hb => exact (h hc ha hp).frame (fun _ _ => by rw [Network.bindReply_requests hb]) rfl
  | closes => exact (h hc ha hp).frame (fun _ _ => by rw [Network.closeReply_requests]) rfl
  | takes ht => exact (h hc ha hp).frame (fun _ _ => by rw [Network.receiveRequest_requests ht]) rfl
  | answers hr => exact (h hc ha hp).frame (fun _ _ => by rw [Network.sendReply_requests hr]) rfl
  | unbound | unanswered => exact (h hc ha hp).frame (fun _ _ => rfl) rfl

end Waits

theorem Run.waits {capacity : Nat} {history : List Deed} {w : Traffic} (h : Run capacity history w) :
    Waits history w := by
  induction h with
  | nothing => exact nofun
  | next h hs ih => exact ih.next (Run.held h) (step_move hs)

/-! ## Replies -/

/-- Whether a call ended with a reply, be it a rejection. -/
def isReply : Except CallError Reply → Bool
  | .ok _ => true
  | .error e => e.isApplication

/-- A call of a caller ends. -/
def Returns (c : CallerId) (client : Client) (r : Except CallError Reply) (o : Deed) : Prop :=
  (o.event = .operates c ∨ ∃ e, o.event = .does c e) ∧
    (∃ u, o.before.callers.get? c = some u ∧ u.client = client) ∧ o.output = .returned (.replied r)

/-- An attempt of a call sends its frame at `i`, under a ticket; at `k`, a reply socket that took this very
frame answers it with `b`; and at `l`, for the first time since `i`, its caller does something, waiting
in the same attempt for the reply. -/
structure Exchanged (history : List Deed) (c : CallerId) (call : Call) (t : TicketId) (b : Frame)
    (i k l : Nat) : Prop where
  asks : ∃ p, At history i (Asks c call p t) ∧ Answered history i p call.request.encode k t b
  before : k < l
  waits : At history l fun o => o.event.isOf c = true ∧ ∃ u signal?, o.before.callers.get? c = some u ∧
    u.activity = .calling { call with phase := .receiving } signal?
  since : ∀ j, i < j → j < l → ¬ At history j fun o => o.event.isOf c = true

/-- A call ends with a reply when it receives one. -/
theorem move_reply {u u' : Caller} {e : Caller.Event} {out : Caller.Output} {r : Except CallError Reply}
    (h : Caller.Move u e u' out) (hr : out.answer? = some (.replied r)) (hreply : isReply r = true) :
    ∃ call signal? frame, u.activity = .calling call signal? ∧ call.phase = .receiving ∧
      e = .act (.received frame) ∧ r = Call.verdict u.client call.request frame := by
  cases h with
  | kept | connects | connected | unconnected | asked | signalled | goesOn => cases hr
  | @ends call signal? _ _ _ _ hu hm =>
    cases hr
    cases hm with
    | exhausted | forestalled | abandoned => cases hreply
    | @answered frame hp => exact ⟨call, signal?, frame, hu, hp, rfl, rfl⟩

theorem output_returned {out : Caller.Output} {a : Caller.Answer} (h : output out = .returned a) :
    out.answer? = some a := by
  unfold output at h
  cases hout : out.answer? with
  | none => simp [hout] at h
  | some a' => simpa [hout] using h

/-- A call that ends with a reply has received it on its socket. -/
theorem move_returned {w w' : Traffic} {act : Act} {out : Output} {r : Except CallError Reply}
    (h : Move w act w' out) (hout : out = .returned (.replied r)) (hreply : isReply r = true) :
    ∃ c u call signal? id frame n, act = .operates c ∧ w.callers.get? c = some u ∧
      u.activity = .calling call signal? ∧ call.phase = .receiving ∧ u.client.socket = some id ∧
      w.network.receiveReply id = some (.ok frame, n) ∧
      r = Call.verdict u.client call.request frame := by
  cases h with
  | enters | drops | leaves | binds | unbound | closes | takes | answers | unanswered => cases hout
  | does _ ho hm =>
    obtain ⟨_, _, _, -, -, rfl, -⟩ := move_reply hm (output_returned hout) hreply
    cases ho
  | operates hu hg hm =>
    obtain ⟨call, signal?, frame, ha, hp, rfl, hr⟩ := move_reply hm (output_returned hout) hreply
    cases hg with
    | dialed he | undialed he => rcases he with he | he <;> cases he
    | received _ _ hs hget => exact ⟨_, _, call, signal?, _, frame, _, rfl, hu, ha, hp, hs, hget, hr⟩

theorem Answered.asked {history : List Deed} {i k : Nat} {p : ReplyId} {frame b : Frame} {t : TicketId}
    (h : Answered history i p frame k t b) : Marked history i t (.asked p frame) := by
  obtain ⟨-, -, -, hi, -⟩ := h
  exact hi

section Take
variable {history : List Deed} {t : TicketId} {i k l : Nat}

theorem Marked.of_take {m : Mark} (h : Marked (history.take l) i t m) : Marked history i t m :=
  (at_take.mp h).2

theorem Answered.of_take {p : ReplyId} {frame b : Frame}
    (h : Answered (history.take l) i p frame k t b) : k < l ∧ Answered history i p frame k t b := by
  obtain ⟨j, hij, hjk, hi, hj, hk⟩ := h
  exact ⟨(at_take.mp hk).1, j, hij, hjk, hi.of_take, hj.of_take, hk.of_take⟩

end Take

theorem Asks.marked {history : List Deed} {c : CallerId} {call : Call} {p : ReplyId} {t : TicketId}
    {i : Nat} (h : At history i (Asks c call p t)) :
    Marked history i t (.asked p call.request.encode) := h.imp fun _ ho => ho.2.2

section Replies
variable {capacity : Nat} {history : List Deed} {w : Traffic}

theorem Run.exchanged (h : Run capacity history w) {l : Nat} {c : CallerId} {client : Client}
    {r : Except CallError Reply} (hreply : isReply r = true) (hl : At history l (Returns c client r)) :
    ∃ call t b i k, Exchanged history c call t b i k l ∧ r = Call.verdict client call.request b := by
  obtain ⟨o, ho, hof, ⟨u, hu, rfl⟩, hout⟩ := hl
  obtain ⟨hrun, hs⟩ := Occurs.of_getElem? h ho
  obtain ⟨d, v, call, signal?, id, b, n, hact, hd, ha, hp, hsocket, hget, hr⟩ :=
    move_returned (step_move hs) hout hreply
  obtain rfl : d = c := by
    rcases hof with hof | ⟨_, hof⟩ <;> cases hact.symm.trans hof
    rfl
  obtain rfl : v = u := Option.some.inj (hd.symm.trans hu)
  obtain ⟨s, t, hs', hpending, hanswer, -⟩ := Network.receiveReply_ok hget
  obtain ⟨_, _, _, i, p, hsocket', hs'', hpending', hi, hsince⟩ := Run.waits hrun hd ha hp
  cases hsocket.symm.trans hsocket'
  cases hs'.symm.trans hs''
  cases hpending.symm.trans hpending'
  -- The request that the socket waits for is the one that was answered: it has one ticket.
  obtain ⟨i', p', f, k, hanswered⟩ := (Run.kept hrun).answered hanswer
  obtain rfl : i = i' := (Run.kept hrun).unique (Asks.marked hi) hanswered.asked rfl
  cases ((Asks.marked hi).same hanswered.asked).2
  obtain ⟨hkl, hanswered⟩ := hanswered.of_take
  refine ⟨{ call with phase := .sending }, t, b, i, k, ⟨⟨p, (at_take.mp hi).2, hanswered⟩, hkl, ?_, ?_⟩, hr⟩
  · refine ⟨o, ho, ?_, v, signal?, hd, ?_⟩
    · rw [hact]
      exact decide_eq_true rfl
    · rw [ha, ← hp]
  · exact fun j hij hjl hj => hsince j hij (at_take.mpr ⟨hjl, hj⟩)

theorem Exchanged.le_of_since {c : CallerId} {call call' : Call} {t t' : TicketId} {b b' : Frame}
    {i k k' l l' : Nat} (h : Exchanged history c call t b i k l)
    (h' : Exchanged history c call' t' b' i k' l') : l ≤ l' := by
  obtain ⟨_, -, j, hij, hjk, -⟩ := h'.asks
  refine Nat.le_of_not_lt fun hlt => h.since l' ?_ hlt (h'.waits.imp fun _ ho => ho.1)
  exact Nat.lt_trans (Nat.lt_trans hij hjk) h'.before

/-- An exchange is known by its ticket. -/
theorem Run.exchanged_unique (h : Run capacity history w) {c c' : CallerId} {call call' : Call}
    {t : TicketId} {b b' : Frame} {i i' k k' l l' : Nat} (he : Exchanged history c call t b i k l)
    (he' : Exchanged history c' call' t b' i' k' l') :
    c = c' ∧ call = call' ∧ b = b' ∧ i = i' ∧ k = k' ∧ l = l' := by
  obtain ⟨p, hi, -, -, -, -, -, hk⟩ := he.asks
  obtain ⟨p', hi', -, -, -, -, -, hk'⟩ := he'.asks
  obtain rfl : i = i' := (Run.kept h).unique (Asks.marked hi) (Asks.marked hi') rfl
  obtain rfl : k = k' := (Run.kept h).unique hk hk' rfl
  obtain rfl : b = b' := by
    cases (hk.same hk').2
    rfl
  obtain ⟨o, ho, hc, ⟨u, _, hu, ha⟩, -⟩ := hi
  obtain ⟨o', ho', hc', ⟨u', _, hu', ha'⟩, -⟩ := hi'
  obtain rfl : o = o' := Option.some.inj (ho.symm.trans ho')
  obtain rfl : c = c' := by
    cases hc.symm.trans hc'
    rfl
  obtain rfl : u = u' := Option.some.inj (hu.symm.trans hu')
  obtain rfl : call = call' := by
    cases ha.symm.trans ha'
    rfl
  exact ⟨rfl, rfl, rfl, rfl, rfl, Nat.le_antisymm (he.le_of_since he') (he'.le_of_since he)⟩

end Replies

/-- Over any history of any number of clients and reply sockets: a reply that a call returns, be it good or
a rejection, was sent in answer to the very frame that the call's last attempt had sent, and nobody else
gets it. For an exchange is known by the ticket of its request, and nothing happens to a request twice. -/
theorem replies_answer_requests {capacity : Nat} {history : List Deed} {w : Traffic}
    (h : Run capacity history w) :
    (∀ l c client r, isReply r = true → At history l (Returns c client r) →
      ∃ call t b i k, Exchanged history c call t b i k l ∧ r = Call.verdict client call.request b) ∧
    (∀ t c call b i k l c' call' b' i' k' l', Exchanged history c call t b i k l →
      Exchanged history c' call' t b' i' k' l' →
        c = c' ∧ call = call' ∧ b = b' ∧ i = i' ∧ k = k' ∧ l = l') ∧
    ∀ t i j m m', Marked history i t m → Marked history j t m' → markStep m = markStep m' → i = j :=
  ⟨fun _ _ _ _ hreply hl => h.exchanged hreply hl,
    fun _ _ _ _ _ _ _ _ _ _ _ _ _ he he' => h.exchanged_unique he he',
    fun _ _ _ _ _ hm hm' heq => (Run.kept h).unique hm hm' heq⟩

/-- A reply comes too late for the first attempt of a call; the second one is answered. -/
def late : List Act :=
  [.binds "tcp://localhost:7000", .enters ⟨"dome", "localhost", 7000, none, none⟩ .default,
    .does 0 (.ask ⟨"park", .empty⟩ none), .does 0 (.act .begin), .operates 0, .operates 0,
    .does 0 (.act .expired), .takes 0, .does 0 (.act .begin), .operates 0, .operates 0,
    .answers 0 (Reply.fail "late").encode, .takes 0, .answers 0 (Reply.ok .empty).encode, .operates 0]

/-- The good reply that a call returns. -/
def replied? (o : Deed) : Option Reply :=
  match o.output with
  | .returned (.replied (.ok reply)) => some reply
  | _ => none

theorem replies_answer_requests_late :
    ∃ history w client, Run 8 history w ∧ history.map Occurrence.event = late ∧
      At history 14 (Returns 0 client (.ok (.ok .empty))) ∧
      ∃ call t b i k, Exchanged history 0 call t b i k 14 ∧
        Except.ok (.ok .empty) = Call.verdict client call.request b := by
  have hread : (follow step (start 8) late).map (fun r => r.1[14]?.map fun o =>
      (replied? o, (o.before.callers.get? 0).isSome)) = some (some (some (.ok .empty), true)) := by
    decide +kernel
  obtain ⟨history, w, hrun, hevents, hread⟩ := Occurs.of_reading hread
  obtain ⟨o, ho, hread⟩ := Option.map_eq_some_iff.mp hread
  obtain ⟨hreplied, hsome⟩ := Prod.mk.inj hread
  obtain ⟨u, hu⟩ := Option.isSome_iff_exists.mp hsome
  have hout : o.output = .returned (.replied (.ok (.ok .empty))) := by
    unfold replied? at hreplied
    split at hreplied
    · next hout =>
      cases hreplied
      exact hout
    · cases hreplied
  obtain ⟨o', ho', hevent⟩ := at_of_map hevents (i := 14) rfl
  obtain rfl : o = o' := Option.some.inj (ho.symm.trans ho')
  have hl : At history 14 (Returns 0 u.client (.ok (.ok .empty))) :=
    ⟨o, ho, .inl hevent, ⟨u, hu, rfl⟩, hout⟩
  exact ⟨history, w, u.client, hrun, hevents, hl, (replies_answer_requests hrun).1 _ _ _ _ rfl hl⟩

end MessageBus.Traffic
