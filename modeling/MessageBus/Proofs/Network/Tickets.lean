import MessageBus.Proofs.Network.Traffic
/-!
# What becomes of a request

A request is followed by its ticket through the history of a network: it is put into the queue of a reply
socket, taken from there and answered, each at most once and in this order. `Kept` says that the queues,
the requests under way and the answers on the network agree with what was marked in its history.
-/
namespace MessageBus.Traffic
set_option autoImplicit false
open Network (ReplyId TicketId ReplySocket Mark Change Spares)

/-! ## Marks in a history -/

/-- What a caller is sending, and on which socket. -/
def sending? (u : Caller) : Option (SocketId × Frame) :=
  match u.activity, u.client.socket with
  | .calling ⟨request, _, .sending⟩ _, some id => some (id, request.encode)
  | _, _ => none

/-- What happens to a request, and under which ticket. -/
def mark? (o : Deed) : Option (TicketId × Mark) :=
  match o.event with
  | .operates c =>
    ((o.before.callers.get? c).bind sending?).bind fun (id, frame) => o.before.network.asked? id frame
  | .takes p => o.before.network.taken? p
  | .answers p frame => o.before.network.answered? p frame
  | _ => none

/-- Something happens to the request with a ticket. -/
def Marked (history : List Deed) (i : Nat) (t : TicketId) (m : Mark) : Prop :=
  At history i fun o => mark? o = some (t, m)

section Sending
variable {u : Caller} {call : Call} {signal? : Option Bool}

theorem sending?_sending {id : SocketId} (ha : u.activity = .calling call signal?)
    (hp : call.phase = .sending) (hs : u.client.socket = some id) :
    sending? u = some (id, call.request.encode) := by
  obtain ⟨request, k, phase⟩ := call
  obtain rfl : phase = .sending := hp
  simp only [sending?, ha, hs]

theorem sending?_receiving (ha : u.activity = .calling call signal?) (hp : call.phase = .receiving) :
    sending? u = none := by
  obtain ⟨request, k, phase⟩ := call
  obtain rfl : phase = .receiving := hp
  simp only [sending?, ha]

theorem sending?_dialing (h : u.dialing = true) : sending? u = none := by
  unfold sending?
  split
  · next ha _ => simp [Caller.dialing, ha] at h
  · rfl

end Sending

theorem went_change {n n' : Network} {u : Caller} {e : Caller.Event} (h : Went n u e n') :
    Change n n' ((sending? u).bind fun (id, frame) => n.asked? id frame) := by
  cases h with
  | dialed _ hd hq =>
    rw [sending?_dialing hq]
    exact (Network.dial_calm hd).change
  | undialed _ hq =>
    rw [sending?_dialing hq]
    exact (Network.Calm.refl _).change
  | sent ha hp hs hr =>
    rw [sending?_sending ha hp hs]
    exact Network.sendRequest_change hr
  | unsent ha hp hs hr =>
    rw [sending?_sending ha hp hs]
    simp only [Option.bind_some, Network.asked?, hr]
    exact (Network.Calm.refl _).change
  | received ha hp _ hr =>
    obtain ⟨_, ticket, -, -, -, rfl⟩ := Network.receiveReply_ok hr
    rw [sending?_receiving ha hp]
    exact (Network.clearRequest_calm ..).change
  | unreceived ha hp _ hr =>
    rw [sending?_receiving ha hp]
    obtain rfl | ⟨ticket, rfl⟩ := Network.receiveReply_error hr
    · exact (Network.Calm.refl _).change
    · exact (Network.clearRequest_calm ..).change

theorem move_change {w w' : Traffic} {act : Act} {out : Output} (h : Move w act w' out) :
    Change w.network w'.network (mark? ⟨w, act, w', out⟩) := by
  cases h with
  | enters | drops | unbound => exact (Network.Calm.refl _).change
  | does | leaves => exact (Network.release_calm ..).change
  | operates hu hg =>
    simp only [mark?, hu, Option.bind_some]
    exact (went_change hg).calm (Network.release_calm ..)
  | binds hb => exact Network.bindReply_change hb
  | closes => exact Network.closeReply_change ..
  | takes ht => exact Network.receiveRequest_change ht
  | answers ha => exact Network.sendReply_change ha
  | unanswered he =>
    simp only [mark?, Network.answered?_refused he]
    exact (Network.Calm.refl _).change

/-! ## The network and its history -/

/-- Which of its three marks this is. -/
inductive Step
  | asked
  | taken
  | answered
deriving DecidableEq

def markStep : Mark → Step
  | .asked _ _ => .asked
  | .taken _ _ => .taken
  | .answered _ _ => .answered

/-- A request was put into the queue of a reply socket, and that is all. -/
structure Queued (history : List Deed) (p : ReplyId) (frame : Frame) (t : TicketId) : Prop where
  asked : ∃ i, Marked history i t (.asked p frame)
  only : ∀ {i m}, Marked history i t m → markStep m = .asked

/-- A request was put into the queue of a reply socket and taken from there, and is not answered. -/
structure UnderWay (history : List Deed) (p : ReplyId) (t : TicketId) : Prop where
  taken : ∃ i j frame, i < j ∧ Marked history i t (.asked p frame) ∧ Marked history j t (.taken p frame)
  unanswered : ∀ {i m}, Marked history i t m → markStep m ≠ .answered

/-- A request was put into the queue of a reply socket, taken from there and answered, in this order. -/
def Answered (history : List Deed) (i : Nat) (p : ReplyId) (frame : Frame) (k : Nat) (t : TicketId)
    (b : Frame) : Prop :=
  ∃ j, i < j ∧ j < k ∧ Marked history i t (.asked p frame) ∧ Marked history j t (.taken p frame) ∧
    Marked history k t (.answered p b)

/-- The queues, the requests under way and the answers on a network agree with a history, in which nothing
happens to a request twice. -/
structure Kept (history : List Deed) (n : Network) : Prop where
  once : ∀ {p s}, n.replies.get? p = some s → (s.queue.map (·.2) ++ s.pending.toList).Nodup
  queued : ∀ {p s frame t}, n.replies.get? p = some s → (frame, t) ∈ s.queue → Queued history p frame t
  pending : ∀ {p s t}, n.replies.get? p = some s → s.pending = some t → UnderWay history p t
  answered : ∀ {t b}, n.tickets.get? t = some (.answered b) → ∃ i p frame k, Answered history i p frame k t b
  known : ∀ {i t m}, Marked history i t m → t < n.tickets.next
  unique : ∀ {i j t m m'}, Marked history i t m → Marked history j t m' → markStep m = markStep m' → i = j

section Marks
variable {history : List Deed} {o : Deed} {t t' : TicketId} {m m' : Mark} {i j : Nat}

theorem Marked.same (h : Marked history i t m) (h' : Marked history i t' m') : t = t' ∧ m = m' := by
  obtain ⟨o, ho, hm⟩ := h
  obtain ⟨o', ho', hm'⟩ := h'
  obtain rfl : o = o' := Option.some.inj (ho.symm.trans ho')
  exact Prod.mk.inj (Option.some.inj (hm.symm.trans hm'))

theorem Marked.append (h : Marked history i t m) (more : List Deed) : Marked (history ++ more) i t m :=
  At.append h more

/-- What was marked before, or is marked now. -/
theorem marked_concat (h : Marked (history ++ [o]) i t m) :
    Marked history i t m ∨ i = history.length ∧ mark? o = some (t, m) := at_concat.mp h

theorem marked_last (ho : mark? o = some (t, m)) : Marked (history ++ [o]) history.length t m :=
  at_last ho

/-- Nothing happens now to another request than the one that is marked. -/
theorem mark_ne (ho : mark? o = some (t, m)) (hne : t' ≠ t) (m' : Mark) : mark? o ≠ some (t', m') := by
  rw [ho]
  rintro ⟨⟩
  exact hne rfl

variable {p : ReplyId} {frame b : Frame}

theorem Queued.append (h : Queued history p frame t) (ho : ∀ m, mark? o ≠ some (t, m)) :
    Queued (history ++ [o]) p frame t := by
  obtain ⟨⟨i, hi⟩, honly⟩ := h
  refine ⟨⟨i, hi.append _⟩, fun hm => ?_⟩
  rcases marked_concat hm with hm | ⟨-, hm⟩
  · exact honly hm
  · exact absurd hm (ho _)

theorem UnderWay.append (h : UnderWay history p t)
    (ho : ∀ m, mark? o = some (t, m) → markStep m ≠ .answered) : UnderWay (history ++ [o]) p t := by
  obtain ⟨⟨i, j, frame, hij, hi, hj⟩, hun⟩ := h
  refine ⟨⟨i, j, frame, hij, hi.append _, hj.append _⟩, fun hm => ?_⟩
  rcases marked_concat hm with hm | ⟨-, hm⟩
  · exact hun hm
  · exact ho _ hm

theorem Answered.append {k : Nat} (h : Answered history i p frame k t b) (more : List Deed) :
    Answered (history ++ more) i p frame k t b := by
  obtain ⟨j, hij, hjk, hi, hj, hk⟩ := h
  exact ⟨j, hij, hjk, hi.append _, hj.append _, hk.append _⟩

end Marks

section Kept
variable {history : List Deed} {n n' : Network} {o : Deed} {t ticket : TicketId} {p q : ReplyId}
  {s : ReplySocket} {frame : Frame}

theorem Kept.held_lt (h : Kept history n) (hs : n.replies.get? p = some s)
    (ht : t ∈ s.queue.map (·.2) ++ s.pending.toList) : t < n.tickets.next := by
  rcases List.mem_append.mp ht with ht | ht
  · obtain ⟨⟨frame, _⟩, hmem, rfl⟩ := List.mem_map.mp ht
    obtain ⟨i, hi⟩ := (h.queued hs hmem).asked
    exact h.known hi
  · obtain ⟨i, _, _, _, hi, -⟩ := (h.pending hs (Option.mem_toList.mp ht)).taken
    exact h.known hi

theorem Kept.answered_concat (h : Kept history n) {b : Frame}
    (hb : n.tickets.get? t = some (.answered b)) :
    ∃ i p frame k, Answered (history ++ [o]) i p frame k t b := by
  obtain ⟨i, p, frame, k, hk⟩ := h.answered hb
  exact ⟨i, p, frame, k, hk.append _⟩

/-- A request is sent to one reply socket. -/
theorem Kept.same_peer (h : Kept history n) {i j : Nat} {frame' : Frame}
    (hp : Marked history i t (.asked p frame)) (hq : Marked history j t (.asked q frame')) : p = q := by
  obtain rfl : i = j := h.unique hp hq rfl
  cases (hp.same hq).2
  rfl

/-- Requests of different reply sockets are different. -/
theorem Kept.queued_ne (h : Kept history n) {i : Nat} {frame' : Frame}
    (hm : Marked history i ticket (.asked p frame)) (hs : n.replies.get? q = some s)
    (ht : (frame', t) ∈ s.queue) (hne : q ≠ p) : t ≠ ticket := by
  rintro rfl
  obtain ⟨j, hj⟩ := (h.queued hs ht).asked
  exact hne (h.same_peer hj hm)

theorem Kept.pending_ne (h : Kept history n) {i : Nat} (hm : Marked history i ticket (.asked p frame))
    (hs : n.replies.get? q = some s) (ht : s.pending = some t) (hne : q ≠ p) : t ≠ ticket := by
  rintro rfl
  obtain ⟨j, _, _, _, hj, -⟩ := (h.pending hs ht).taken
  exact hne (h.same_peer hj hm)

/-- A new mark that its request does not have yet. -/
theorem Kept.unique_concat (h : Kept history n) {m : Mark} (ho : mark? o = some (ticket, m))
    (hnew : ∀ {i m'}, Marked history i ticket m' → markStep m' ≠ markStep m) {i j : Nat} {m' m'' : Mark}
    (hi : Marked (history ++ [o]) i t m') (hj : Marked (history ++ [o]) j t m'')
    (hm : markStep m' = markStep m'') : i = j := by
  -- Two old marks, a new and an old one in either order, or twice the new one.
  rcases marked_concat hi with hold | ⟨hlast, hi⟩ <;> rcases marked_concat hj with hold' | ⟨hlast', hj⟩
  · exact h.unique hold hold' hm
  · cases ho.symm.trans hj
    exact absurd hm (hnew hold)
  · cases ho.symm.trans hi
    exact absurd hm.symm (hnew hold')
  · exact hlast.trans hlast'.symm

theorem Kept.known_concat (h : Kept history n) {m : Mark} (ho : mark? o = some (ticket, m))
    (hn : n.tickets.next ≤ n'.tickets.next) (hlt : ticket < n'.tickets.next) {i : Nat} {m' : Mark}
    (hi : Marked (history ++ [o]) i t m') : t < n'.tickets.next := by
  rcases marked_concat hi with hi | ⟨-, hi⟩
  · exact Nat.lt_of_lt_of_le (h.known hi) hn
  · cases ho.symm.trans hi
    exact hlt

theorem Kept.quiet (h : Kept history n) (ho : mark? o = none)
    (hr : ∀ {q s'}, n'.replies.get? q = some s' →
      n.replies.get? q = some s' ∨ s'.queue = [] ∧ s'.pending = none)
    (hn : n'.tickets.next = n.tickets.next)
    (ha : ∀ {t b}, n'.tickets.get? t = some (.answered b) → n.tickets.get? t = some (.answered b)) :
    Kept (history ++ [o]) n' := by
  have hold {i t m} (hm : Marked (history ++ [o]) i t m) : Marked history i t m := by
    rcases marked_concat hm with hm | ⟨-, hm⟩
    · exact hm
    · cases ho.symm.trans hm
  have hun (t : TicketId) (m : Mark) : mark? o ≠ some (t, m) := fun hm => nomatch ho.symm.trans hm
  refine ⟨fun hs => ?_, fun hs ht => ?_, fun hs hp => ?_, fun hb => ?_, fun hm => hn ▸ h.known (hold hm),
    fun hm hm' => h.unique (hold hm) (hold hm')⟩
  · rcases hr hs with hs | ⟨hq, hp⟩
    · exact h.once hs
    · simp [hq, hp]
  · rcases hr hs with hs | ⟨hq, -⟩
    · exact (h.queued hs ht).append (hun _)
    · rw [hq] at ht
      cases ht
  · rcases hr hs with hs | ⟨-, hp'⟩
    · exact (h.pending hs hp).append fun m hm => absurd hm (hun _ m)
    · cases hp'.symm.trans hp
  · exact h.answered_concat (ha hb)

theorem Kept.asked (h : Kept history n) (hs : n.replies.get? p = some s)
    (ho : mark? o = some (n.tickets.next, .asked p frame))
    (hr : ∀ {q s'}, n'.replies.get? q = some s' → q ≠ p ∧ n.replies.get? q = some s' ∨
      q = p ∧ s' = { s with queue := s.queue ++ [(frame, n.tickets.next)] })
    (hn : n'.tickets.next = n.tickets.next + 1)
    (ha : ∀ {t b}, n'.tickets.get? t = some (.answered b) → n.tickets.get? t = some (.answered b)) :
    Kept (history ++ [o]) n' := by
  -- The ticket is new: nothing was marked under it, and no queue or request under way has it.
  have hnew {i m} (hm : Marked history i n.tickets.next m) : False :=
    absurd (h.known hm) (Nat.lt_irrefl _)
  have hheld {q s t} (hs : n.replies.get? q = some s) (ht : t ∈ s.queue.map (·.2) ++ s.pending.toList) :
      ∀ m, mark? o ≠ some (t, m) := mark_ne ho (Nat.ne_of_lt (h.held_lt hs ht))
  refine ⟨fun hs' => ?_, fun hs' ht => ?_, fun hs' hp => ?_, fun hb => ?_,
    fun hm => h.known_concat ho (hn ▸ Nat.le_succ _) (hn ▸ Nat.lt_succ_self _) hm,
    fun hm hm' => h.unique_concat ho (fun hm => (hnew hm).elim) hm hm'⟩
  · rcases hr hs' with ⟨-, hs'⟩ | ⟨-, rfl⟩
    · exact h.once hs'
    · have hmem : n.tickets.next ∉ s.queue.map (·.2) ++ s.pending.toList := fun hm =>
        absurd (h.held_lt hs hm) (Nat.lt_irrefl _)
      simp only [List.map_append, List.map_cons, List.map_nil, List.append_assoc, List.singleton_append]
      exact List.perm_middle.nodup_iff.mpr (List.nodup_cons.mpr ⟨hmem, h.once hs⟩)
  · have hkept {q s f t} (hs : n.replies.get? q = some s) (ht : (f, t) ∈ s.queue) :
        Queued (history ++ [o]) q f t :=
      (h.queued hs ht).append (hheld hs (List.mem_append_left _ (List.mem_map.mpr ⟨_, ht, rfl⟩)))
    rcases hr hs' with ⟨-, hs'⟩ | ⟨rfl, rfl⟩
    · exact hkept hs' ht
    · rcases List.mem_append.mp ht with ht | ht
      · exact hkept hs ht
      · cases List.mem_singleton.mp ht
        refine ⟨⟨_, marked_last ho⟩, fun hm => ?_⟩
        rcases marked_concat hm with hm | ⟨-, hm⟩
        · exact (hnew hm).elim
        · cases ho.symm.trans hm
          rfl
  · have hkept {q s t} (hs : n.replies.get? q = some s) (hp : s.pending = some t) :
        UnderWay (history ++ [o]) q t :=
      (h.pending hs hp).append fun m hm =>
        absurd hm (hheld hs (List.mem_append_right _ (Option.mem_toList.mpr hp)) m)
    rcases hr hs' with ⟨-, hs'⟩ | ⟨rfl, rfl⟩
    · exact hkept hs' hp
    · exact hkept hs hp
  · exact h.answered_concat (ha hb)

theorem Kept.taken (h : Kept history n) {rest : List (Frame × TicketId)}
    (hs : n.replies.get? p = some s) (hq : s.queue = (frame, ticket) :: rest)
    (ho : mark? o = some (ticket, .taken p frame))
    (hr : ∀ {q s'}, n'.replies.get? q = some s' → q ≠ p ∧ n.replies.get? q = some s' ∨
      q = p ∧ s' = { s with queue := rest, pending := some ticket })
    (hn : n'.tickets.next = n.tickets.next)
    (ha : ∀ {t b}, n'.tickets.get? t = some (.answered b) → n.tickets.get? t = some (.answered b)) :
    Kept (history ++ [o]) n' := by
  -- The ticket leaves the queue of its only reply socket, where it stood once.
  have hmem : (frame, ticket) ∈ s.queue := hq ▸ List.mem_cons_self
  obtain ⟨⟨i, hi⟩, honly⟩ := h.queued hs hmem
  have honce := h.once hs
  rw [hq, List.map_cons, List.cons_append, List.nodup_cons, List.nodup_append] at honce
  obtain ⟨hfresh, hrest, -, -⟩ := honce
  refine ⟨fun hs' => ?_, fun {q s' f t} hs' ht => ?_, fun hs' hp => ?_, fun hb => ?_,
    fun hm => h.known_concat ho (Nat.le_of_eq hn.symm) (hn ▸ h.known hi) hm,
    fun hm hm' => h.unique_concat ho (fun hm => by rw [honly hm]; nofun) hm hm'⟩
  · rcases hr hs' with ⟨-, hs'⟩ | ⟨-, rfl⟩
    · exact h.once hs'
    · have hmap : ticket ∉ rest.map (·.2) := fun hm => hfresh (List.mem_append_left _ hm)
      have hperm : ([ticket] ++ rest.map (·.2)).Perm (rest.map (·.2) ++ [ticket]) :=
        List.perm_append_comm
      exact hperm.nodup_iff.mp (List.nodup_cons.mpr ⟨hmap, hrest⟩)
  · rcases hr hs' with ⟨hne, hs'⟩ | ⟨rfl, rfl⟩
    · exact (h.queued hs' ht).append (mark_ne ho (h.queued_ne hi hs' ht hne))
    · have hne : t ≠ ticket := fun e =>
        hfresh (List.mem_append_left _ (List.mem_map.mpr ⟨_, ht, e⟩))
      exact (h.queued hs (hq ▸ List.mem_cons_of_mem _ ht)).append (mark_ne ho hne)
  · have hother (m : Mark) (t : TicketId) (hm : mark? o = some (t, m)) : markStep m ≠ .answered := by
      cases ho.symm.trans hm
      nofun
    rcases hr hs' with ⟨-, hs'⟩ | ⟨rfl, rfl⟩
    · exact (h.pending hs' hp).append fun m hm => hother m _ hm
    · cases hp
      refine ⟨⟨i, _, frame, hi.lt, hi.append _, marked_last ho⟩, fun hm => ?_⟩
      rcases marked_concat hm with hm | ⟨-, hm⟩
      · rw [honly hm]
        nofun
      · exact hother _ _ hm
  · exact h.answered_concat (ha hb)

theorem Kept.answers (h : Kept history n) (hs : n.replies.get? p = some s) (hp : s.pending = some ticket)
    (ho : mark? o = some (ticket, .answered p frame))
    (hr : ∀ {q s'}, n'.replies.get? q = some s' → q ≠ p ∧ n.replies.get? q = some s' ∨
      q = p ∧ s' = { s with pending := none })
    (hn : n'.tickets.next = n.tickets.next)
    (ha : ∀ {t b}, n'.tickets.get? t = some (.answered b) →
      n.tickets.get? t = some (.answered b) ∨ t = ticket ∧ b = frame) :
    Kept (history ++ [o]) n' := by
  obtain ⟨⟨i, j, f, hij, hi, hj⟩, hunanswered⟩ := h.pending hs hp
  -- The request under way stands in no queue any more.
  have honce := h.once hs
  rw [hp, Option.toList_some, List.nodup_append] at honce
  obtain ⟨hqueue, -, hapart⟩ := honce
  refine ⟨fun hs' => ?_, fun {q s' f' t} hs' ht => ?_, fun hs' hp' => ?_, fun hb => ?_,
    fun hm => h.known_concat ho (Nat.le_of_eq hn.symm) (hn ▸ h.known hi) hm,
    fun hm hm' => h.unique_concat ho (fun hm => hunanswered hm) hm hm'⟩
  · rcases hr hs' with ⟨-, hs'⟩ | ⟨-, rfl⟩
    · exact h.once hs'
    · simpa using hqueue
  · rcases hr hs' with ⟨hne, hs'⟩ | ⟨rfl, rfl⟩
    · exact (h.queued hs' ht).append (mark_ne ho (h.queued_ne hi hs' ht hne))
    · have hne : t ≠ ticket := hapart t (List.mem_map.mpr ⟨_, ht, rfl⟩) ticket List.mem_cons_self
      exact (h.queued hs ht).append (mark_ne ho hne)
  · rcases hr hs' with ⟨hne, hs'⟩ | ⟨rfl, rfl⟩
    · exact (h.pending hs' hp').append fun m hm => absurd hm (mark_ne ho (h.pending_ne hi hs' hp' hne) m)
    · cases hp'
  · rcases ha hb with hb | ⟨rfl, rfl⟩
    · exact h.answered_concat hb
    · exact ⟨i, p, f, _, j, hij, hj.lt, hi.append _, hj.append _, marked_last ho⟩

theorem Kept.next (h : Kept history n) (hc : Change n n' (mark? o)) : Kept (history ++ [o]) n' := by
  generalize ho : mark? o = mark at hc
  cases hc with
  | quiet hr hn ha => exact h.quiet ho hr hn ha
  | asked hs hr hn ha => exact h.asked hs ho hr hn ha
  | taken hs hq hr hn ha => exact h.taken hs hq ho hr hn ha
  | answered hs hp hr hn ha => exact h.answers hs hp ho hr hn ha

end Kept

theorem Run.kept {capacity : Nat} {history : List Deed} {w : Traffic} (h : Run capacity history w) :
    Kept history w.network := by
  induction h with
  | nothing =>
    have hnone {i t m} (hm : Marked [] i t m) : False := absurd (At.lt hm) (Nat.not_lt_zero _)
    exact ⟨nofun, nofun, nofun, nofun, fun hm => (hnone hm).elim, fun hm => (hnone hm).elim⟩
  | next _ hs ih => exact ih.next (move_change (step_move hs))

end MessageBus.Traffic
