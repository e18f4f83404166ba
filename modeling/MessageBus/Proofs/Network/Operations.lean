import MessageBus.Network.Calls
import MessageBus.Proofs.Lookup
/-!
# What operations on the network change

A request is known by its ticket. `Mark` says what can happen to it: it enters the queue of a reply socket,
the socket takes it, and the socket answers it. `Change` sums up what any operation may do to queues and
tickets, given what it marks. A request socket is changed by operations on itself only (`Spares`).
-/
namespace MessageBus.Network
set_option autoImplicit false

/-! ## Marks -/

/-- What happens to a request. -/
inductive Mark
  /-- Its frame enters the queue of a reply socket. -/
  | asked (p : ReplyId) (frame : Frame)
  /-- The reply socket takes the frame out of its queue. -/
  | taken (p : ReplyId) (frame : Frame)
  /-- The reply socket sends a frame in answer. -/
  | answered (p : ReplyId) (frame : Frame)
deriving DecidableEq

/-- What sending marks, and under which ticket. -/
def asked? (n : Network) (id : SocketId) (frame : Frame) : Option (TicketId × Mark) :=
  match n.sendRequest id frame with
  | some (.ok _) => (n.requests.get? id).map fun r => (n.tickets.next, .asked r.peer frame)
  | _ => none

/-- What taking a request marks. -/
def taken? (n : Network) (p : ReplyId) : Option (TicketId × Mark) :=
  (n.replies.get? p).bind fun s => s.queue.head?.map fun (frame, ticket) => (ticket, .taken p frame)

/-- What answering marks. -/
def answered? (n : Network) (p : ReplyId) (frame : Frame) : Option (TicketId × Mark) :=
  ((n.replies.get? p).bind ReplySocket.pending).map fun ticket => (ticket, .answered p frame)

/-! ## Changes -/

/-- Queues are as before, and no request is answered. -/
structure Calm (n n' : Network) : Prop where
  replies : n'.replies = n.replies
  next : n'.tickets.next = n.tickets.next
  answered : ∀ {t b}, n'.tickets.get? t = some (.answered b) → n.tickets.get? t = some (.answered b)

/-- What may become of queues and tickets. -/
inductive Change (n n' : Network) : Option (TicketId × Mark) → Prop
  /-- Reply sockets come, empty, and go. -/
  | quiet
      (hr : ∀ {q s'}, n'.replies.get? q = some s' →
        n.replies.get? q = some s' ∨ s'.queue = [] ∧ s'.pending = none)
      (hn : n'.tickets.next = n.tickets.next)
      (ha : ∀ {t b}, n'.tickets.get? t = some (.answered b) → n.tickets.get? t = some (.answered b)) :
      Change n n' none
  | asked {p : ReplyId} {s : ReplySocket} {frame : Frame} (hs : n.replies.get? p = some s)
      (hr : ∀ {q s'}, n'.replies.get? q = some s' → q ≠ p ∧ n.replies.get? q = some s' ∨
        q = p ∧ s' = { s with queue := s.queue ++ [(frame, n.tickets.next)] })
      (hn : n'.tickets.next = n.tickets.next + 1)
      (ha : ∀ {t b}, n'.tickets.get? t = some (.answered b) → n.tickets.get? t = some (.answered b)) :
      Change n n' (some (n.tickets.next, .asked p frame))
  | taken {p : ReplyId} {s : ReplySocket} {frame : Frame} {ticket : TicketId}
      {rest : List (Frame × TicketId)} (hs : n.replies.get? p = some s)
      (hq : s.queue = (frame, ticket) :: rest)
      (hr : ∀ {q s'}, n'.replies.get? q = some s' → q ≠ p ∧ n.replies.get? q = some s' ∨
        q = p ∧ s' = { s with queue := rest, pending := some ticket })
      (hn : n'.tickets.next = n.tickets.next)
      (ha : ∀ {t b}, n'.tickets.get? t = some (.answered b) → n.tickets.get? t = some (.answered b)) :
      Change n n' (some (ticket, .taken p frame))
  | answered {p : ReplyId} {s : ReplySocket} {frame : Frame} {ticket : TicketId}
      (hs : n.replies.get? p = some s) (hp : s.pending = some ticket)
      (hr : ∀ {q s'}, n'.replies.get? q = some s' → q ≠ p ∧ n.replies.get? q = some s' ∨
        q = p ∧ s' = { s with pending := none })
      (hn : n'.tickets.next = n.tickets.next)
      (ha : ∀ {t b}, n'.tickets.get? t = some (.answered b) →
        n.tickets.get? t = some (.answered b) ∨ t = ticket ∧ b = frame) :
      Change n n' (some (ticket, .answered p frame))

/-- All request sockets that there are stay as they are, but for one. -/
structure Spares (own : Option SocketId) (n n' : Network) : Prop where
  kept : ∀ {id}, id < n.requests.next → own ≠ some id → n'.requests.get? id = n.requests.get? id
  next : n.requests.next ≤ n'.requests.next

section Changes
variable {n n' n'' : Network} {own : Option SocketId} {mark : Option (TicketId × Mark)}

theorem Calm.refl (n : Network) : Calm n n := ⟨rfl, rfl, id⟩

theorem Calm.change (h : Calm n n') : Change n n' none :=
  .quiet (fun hs => .inl (h.replies ▸ hs)) h.next h.answered

theorem Change.calm (h : Change n n' mark) (hc : Calm n' n'') : Change n n'' mark := by
  cases h with
  | quiet hr hn ha =>
    exact .quiet (fun hs => hr (hc.replies ▸ hs)) (hc.next.trans hn) fun hb => ha (hc.answered hb)
  | asked hs hr hn ha =>
    exact .asked hs (fun hs => hr (hc.replies ▸ hs)) (hc.next.trans hn) fun hb => ha (hc.answered hb)
  | taken hs hq hr hn ha =>
    exact .taken hs hq (fun hs => hr (hc.replies ▸ hs)) (hc.next.trans hn) fun hb => ha (hc.answered hb)
  | answered hs hp hr hn ha =>
    exact .answered hs hp (fun hs => hr (hc.replies ▸ hs)) (hc.next.trans hn) fun hb =>
      ha (hc.answered hb)

theorem Spares.refl (own : Option SocketId) (n : Network) : Spares own n n :=
  ⟨fun _ _ => rfl, Nat.le_refl _⟩

theorem Spares.trans (h : Spares own n n') (h' : Spares own n' n'') : Spares own n n'' :=
  ⟨fun hid hne => (h'.kept (Nat.lt_of_lt_of_le hid h.next) hne).trans (h.kept hid hne),
    Nat.le_trans h.next h'.next⟩

end Changes

/-- A reply socket is changed alone. -/
theorem modified_reply {n : Network} {p q : ReplyId} {s s' : ReplySocket}
    {change : ReplySocket → ReplySocket} (hs : n.replies.get? p = some s)
    (h : (n.replies.modify p change).get? q = some s') :
    q ≠ p ∧ n.replies.get? q = some s' ∨ q = p ∧ s' = change s := by
  rcases Pool.of_get?_modify h with hother | ⟨heq, s₀, hs₀, rfl⟩
  · exact .inl hother
  · cases hs.symm.trans hs₀
    exact .inr ⟨heq, rfl⟩

/-! ## The requesting side -/

section Requesting
variable {n n' : Network} {id : SocketId} {frame : Frame} {ticket : TicketId}

theorem dial_reaches {url : String} (h : n.dial url = .ok (id, n')) :
    ∃ p, n.bound? url = some p ∧ id = n.requests.next ∧
      n' = { n with requests := n.requests.add ⟨p, none⟩ } := by
  unfold dial at h
  split at h
  · next p hp =>
    cases h
    exact ⟨p, hp, rfl, rfl⟩
  · cases h

theorem dial_ok {url : String} (h : n.dial url = .ok (id, n')) :
    id = n.requests.next ∧ ∃ peer, n' = { n with requests := n.requests.add ⟨peer, none⟩ } := by
  obtain ⟨p, -, hid, hn⟩ := dial_reaches h
  exact ⟨hid, p, hn⟩

theorem sendRequest_ok (h : n.sendRequest id frame = some (.ok n')) :
    ∃ r s, n.requests.get? id = some r ∧ r.pending = none ∧ n.replies.get? r.peer = some s ∧
      n' = { n with
        tickets := n.tickets.add .open
        replies := n.replies.modify r.peer fun s =>
          { s with queue := s.queue ++ [(frame, n.tickets.next)] }
        requests := n.requests.modify id fun r => { r with pending := some n.tickets.next } } := by
  unfold sendRequest at h
  split at h
  · cases h
  · next r hr =>
    split at h
    · cases h
    · next hp =>
      split at h
      · cases h
      · next s hs =>
        split at h
        · cases h
        · cases h
          exact ⟨r, s, hr, Option.not_isSome_iff_eq_none.mp hp, hs, rfl⟩

theorem receiveReply_ok (h : n.receiveReply id = some (.ok frame, n')) :
    ∃ r ticket, n.requests.get? id = some r ∧ r.pending = some ticket ∧
      n.tickets.get? ticket = some (.answered frame) ∧ n' = n.clearRequest id ticket := by
  unfold receiveReply at h
  split at h
  · cases h
  · next ticket ht =>
    obtain ⟨r, hr, hp⟩ := Option.bind_eq_some_iff.mp ht
    split at h
    · next ha =>
      cases h
      exact ⟨r, ticket, hr, hp, ha, rfl⟩
    all_goals cases h

theorem receiveReply_error {e : SocketError} (h : n.receiveReply id = some (.error e, n')) :
    n' = n ∨ ∃ ticket, n' = n.clearRequest id ticket := by
  unfold receiveReply at h
  split at h
  · cases h
    exact .inl rfl
  · next ticket _ =>
    split at h
    · cases h
    · cases h
      exact .inr ⟨ticket, rfl⟩
    · cases h
      exact .inr ⟨ticket, rfl⟩
    · cases h

theorem sendRequest_change (h : n.sendRequest id frame = some (.ok n')) :
    Change n n' (n.asked? id frame) := by
  obtain ⟨r, s, hr, -, hs, rfl⟩ := sendRequest_ok h
  rw [asked?, h, hr]
  refine .asked hs (modified_reply hs) rfl fun {t b} ht => ?_
  rcases Pool.of_get?_add ht with ⟨-, hopen⟩ | ⟨-, ht⟩
  · cases hopen
  · exact ht

theorem sendRequest_spares (h : n.sendRequest id frame = some (.ok n')) : Spares (some id) n n' := by
  obtain ⟨r, s, -, -, -, rfl⟩ := sendRequest_ok h
  refine ⟨fun {id'} _ hne => ?_, Nat.le_refl _⟩
  rw [Pool.get?_modify, if_neg fun e => hne (congrArg some e.symm)]

theorem dial_calm {url : String} (h : n.dial url = .ok (id, n')) : Calm n n' := by
  obtain ⟨-, peer, rfl⟩ := dial_ok h
  exact ⟨rfl, rfl, fun ht => ht⟩

theorem dial_spares {url : String} (own : Option SocketId) (h : n.dial url = .ok (id, n')) :
    Spares own n n' := by
  obtain ⟨-, peer, rfl⟩ := dial_ok h
  refine ⟨fun hid _ => ?_, Nat.le_succ _⟩
  rw [Pool.get?_add, if_neg (Nat.ne_of_lt hid)]

theorem removed_answered {tickets : Pool Ticket} {t : TicketId} {b : Frame}
    (h : (tickets.remove ticket).get? t = some (.answered b)) : tickets.get? t = some (.answered b) :=
  (Pool.of_get?_remove h).2

theorem clearRequest_calm (n : Network) (id : SocketId) (ticket : TicketId) :
    Calm n (n.clearRequest id ticket) := ⟨rfl, rfl, removed_answered⟩

theorem clearRequest_spares (n : Network) (id : SocketId) (ticket : TicketId) :
    Spares (some id) n (n.clearRequest id ticket) := by
  refine ⟨fun {id'} _ hne => ?_, Nat.le_refl _⟩
  rw [clearRequest, Pool.get?_modify, if_neg fun e => hne (congrArg some e.symm)]

theorem receiveReply_replies {r : Except SocketError Frame}
    (h : n.receiveReply id = some (r, n')) : n'.replies = n.replies := by
  cases r with
  | ok frame =>
    obtain ⟨_, ticket, -, -, -, rfl⟩ := receiveReply_ok h
    rfl
  | error why => obtain rfl | ⟨ticket, rfl⟩ := receiveReply_error h <;> rfl

theorem receiveReply_spares {r : Except SocketError Frame}
    (h : n.receiveReply id = some (r, n')) : Spares (some id) n n' := by
  cases r with
  | ok frame =>
    obtain ⟨_, ticket, -, -, -, rfl⟩ := receiveReply_ok h
    exact clearRequest_spares ..
  | error why =>
    obtain rfl | ⟨ticket, rfl⟩ := receiveReply_error h
    · exact .refl ..
    · exact clearRequest_spares ..

theorem closeRequest_calm (n : Network) (id : SocketId) : Calm n (n.closeRequest id) := by
  unfold closeRequest
  split
  · exact .refl n
  · next s _ =>
    refine ⟨rfl, ?_, fun {t b} ht => ?_⟩
    · cases s.pending <;> rfl
    · cases hp : s.pending with
      | none => simpa only [hp, Option.elim_none] using ht
      | some ticket =>
        simp only [hp, Option.elim_some] at ht
        exact removed_answered ht

theorem closeRequest_spares (n : Network) (id : SocketId) : Spares (some id) n (n.closeRequest id) := by
  unfold closeRequest
  split
  · exact .refl _ n
  · refine ⟨fun {id'} _ hne => ?_, Nat.le_refl _⟩
    rw [Pool.get?_remove, if_neg fun e => hne (congrArg some e.symm)]

theorem release_calm (n : Network) (before after : Option SocketId) : Calm n (n.release before after) := by
  unfold release
  split
  · exact .refl n
  · split
    · exact .refl n
    · exact closeRequest_calm ..

theorem release_spares (n : Network) (before after : Option SocketId) :
    Spares before n (n.release before after) := by
  unfold release
  split
  · exact .refl _ n
  · split
    · exact .refl _ n
    · exact closeRequest_spares ..

/-- Nothing is closed while the client keeps its socket. -/
theorem release_self (n : Network) (socket : Option SocketId) : n.release socket socket = n := by
  cases socket with
  | none => rfl
  | some id => exact if_pos rfl

end Requesting

/-! ## The replying side -/

section Replying
variable {n n' : Network} {p : ReplyId} {frame : Frame}

theorem bindReply_new {url : String} (h : n.bindReply url = .ok (p, n')) :
    p = n.replies.next ∧ n.bound? url = none ∧ n' = { n with replies := n.replies.add ⟨url, [], none⟩ } := by
  unfold bindReply at h
  split at h
  · cases h
  · next hnone =>
    cases h
    exact ⟨rfl, hnone, rfl⟩

theorem receiveRequest_ok (h : n.receiveRequest p = some (.ok frame, n')) :
    ∃ s ticket rest, n.replies.get? p = some s ∧ s.queue = (frame, ticket) :: rest ∧
      n' = { n.lose s.pending.toList with
        replies := n.replies.modify p fun s => { s with queue := rest, pending := some ticket } } := by
  unfold receiveRequest at h
  split at h
  · cases h
  · next s hs =>
    split at h
    · cases h
    · next ticket rest hqueue =>
      cases h
      exact ⟨s, ticket, rest, hs, hqueue, rfl⟩

theorem receiveRequest_error {why : SocketError}
    (h : n.receiveRequest p = some (.error why, n')) : n' = n := by
  unfold receiveRequest at h
  split at h
  · cases h
    rfl
  · split at h <;> cases h

theorem sendReply_ok (h : n.sendReply p frame = .ok n') :
    ∃ s ticket, n.replies.get? p = some s ∧ s.pending = some ticket ∧
      n' = { n with
        tickets := n.tickets.modify ticket fun _ => .answered frame
        replies := n.replies.modify p fun s => { s with pending := none } } := by
  unfold sendReply at h
  split at h
  · cases h
  · next ticket hpending =>
    obtain ⟨s, hs, hpending⟩ := Option.bind_eq_some_iff.mp hpending
    cases h
    exact ⟨s, ticket, hs, hpending, rfl⟩

theorem lose_next (n : Network) (tickets : List TicketId) :
    (n.lose tickets).tickets.next = n.tickets.next := by
  unfold lose
  induction tickets generalizing n with
  | nil => rfl
  | cons t tickets ih => exact ih { n with tickets := n.tickets.modify t fun _ => .lost }

theorem lose_answered {tickets : List TicketId} {t : TicketId} {b : Frame}
    (h : (n.lose tickets).tickets.get? t = some (.answered b)) :
    n.tickets.get? t = some (.answered b) := by
  unfold lose at h
  induction tickets generalizing n with
  | nil => exact h
  | cons ticket tickets ih =>
    -- The first ticket is lost, which is no answer; the others are lost on the network that is left.
    have ht := ih (n := { n with tickets := n.tickets.modify ticket fun _ => .lost }) h
    rcases Pool.of_get?_modify ht with ⟨-, ht⟩ | ⟨-, _, -, hlost⟩
    · exact ht
    · cases hlost

theorem bindReply_change {url : String} (h : n.bindReply url = .ok (p, n')) : Change n n' none := by
  obtain ⟨-, -, rfl⟩ := bindReply_new h
  refine .quiet (fun {q s'} hs => ?_) rfl id
  rcases Pool.of_get?_add hs with ⟨-, rfl⟩ | ⟨-, hs⟩
  · exact .inr ⟨rfl, rfl⟩
  · exact .inl hs

theorem closeReply_change (n : Network) (p : ReplyId) : Change n (n.closeReply p) none := by
  unfold closeReply
  split
  · exact (Calm.refl n).change
  · exact .quiet (fun hs => .inl (Pool.of_get?_remove hs).2) (lose_next ..) lose_answered

theorem receiveRequest_change {r : Except SocketError Frame}
    (h : n.receiveRequest p = some (r, n')) : Change n n' (n.taken? p) := by
  unfold receiveRequest at h
  rw [taken?]
  split at h
  · next hs =>
    cases h
    rw [hs]
    exact (Calm.refl n).change
  · next s hs =>
    rw [hs]
    split at h
    · cases h
    · next frame ticket rest hq =>
      cases h
      simp only [Option.bind_some, hq, List.head?_cons, Option.map_some]
      exact .taken hs hq (modified_reply hs) (lose_next ..) lose_answered

theorem sendReply_change (h : n.sendReply p frame = .ok n') : Change n n' (n.answered? p frame) := by
  obtain ⟨s, ticket, hs, hpending, rfl⟩ := sendReply_ok h
  rw [answered?, hs, Option.bind_some, hpending]
  refine .answered hs hpending (modified_reply hs) rfl fun {t b} ht => ?_
  rcases Pool.of_get?_modify ht with ⟨-, ht⟩ | ⟨heq, _, -, hb⟩
  · exact .inl ht
  · cases hb
    exact .inr ⟨heq, rfl⟩

/-- A reply that is refused marks nothing. -/
theorem answered?_refused {e : SocketError} (h : n.sendReply p frame = .error e) :
    n.answered? p frame = none := by
  unfold sendReply at h
  split at h
  · next hp => rw [answered?, hp]; rfl
  · cases h

theorem bindReply_requests {url : String} (h : n.bindReply url = .ok (p, n')) :
    n'.requests = n.requests := by
  obtain ⟨-, -, rfl⟩ := bindReply_new h
  rfl

theorem closeReply_requests (n : Network) (p : ReplyId) : (n.closeReply p).requests = n.requests := by
  unfold closeReply
  split <;> rfl

theorem receiveRequest_requests {r : Except SocketError Frame}
    (h : n.receiveRequest p = some (r, n')) : n'.requests = n.requests := by
  unfold receiveRequest at h
  split at h
  · cases h
    rfl
  · split at h <;> cases h
    rfl

theorem sendReply_requests (h : n.sendReply p frame = .ok n') : n'.requests = n.requests := by
  obtain ⟨_, _, -, -, rfl⟩ := sendReply_ok h
  rfl

end Replying

/-! ## Operations that succeed -/

section Success
variable {n n' : Network} {url : String} {p : ReplyId} {id : SocketId} {frame : Frame} {ticket : TicketId}

theorem bindReply_ok (h : n.bindReply url = .ok (p, n')) :
    n'.bound? url = some p ∧ n'.replies.get? p = some ⟨url, [], none⟩ := by
  obtain ⟨rfl, -, rfl⟩ := bindReply_new h
  refine ⟨?_, by rw [Pool.get?_add, if_pos rfl]⟩
  simp [bound?, Pool.find?, Pool.add]

theorem dial_of_bound (h : n.bound? url = some p) :
    n.dial url = .ok (n.requests.next, { n with requests := n.requests.add ⟨p, none⟩ }) := by
  rw [dial, h]

theorem sendRequest_of_free {s : ReplySocket} (hid : n.requests.get? id = some ⟨p, none⟩)
    (hp : n.replies.get? p = some s) (hq : s.queue.length < queueDepth) :
    n.sendRequest id frame = some (.ok { n with
      tickets := n.tickets.add .open
      replies := n.replies.modify p fun r => { r with queue := r.queue ++ [(frame, n.tickets.next)] }
      requests := n.requests.modify id fun r => { r with pending := some n.tickets.next } }) := by
  simp [sendRequest, hid, hp, Nat.not_le.mpr hq]

/-- A request socket waits as long as its reply is open. -/
theorem receiveReply_of_open (hid : n.requests.get? id = some ⟨p, some ticket⟩)
    (ht : n.tickets.get? ticket = some .open) : n.receiveReply id = none := by
  simp [receiveReply, hid, ht]

theorem receiveReply_of_answered (hid : n.requests.get? id = some ⟨p, some ticket⟩)
    (ht : n.tickets.get? ticket = some (.answered frame)) :
    n.receiveReply id = some (.ok frame, n.clearRequest id ticket) := by
  simp [receiveReply, hid, ht]

theorem receiveRequest_of_empty {pending : Option TicketId}
    (hp : n.replies.get? p = some ⟨url, [], pending⟩) : n.receiveRequest p = none := by
  simp [receiveRequest, hp]

theorem receiveRequest_of_queue {rest : List (Frame × TicketId)}
    (hp : n.replies.get? p = some ⟨url, (frame, ticket) :: rest, none⟩) :
    n.receiveRequest p = some (.ok frame, { n with
      replies := n.replies.modify p fun r => { r with queue := rest, pending := some ticket } }) := by
  simp [receiveRequest, hp, lose]

theorem sendReply_of_pending {queue : List (Frame × TicketId)}
    (hp : n.replies.get? p = some ⟨url, queue, some ticket⟩) :
    n.sendReply p frame = .ok { n with
      tickets := n.tickets.modify ticket fun _ => .answered frame
      replies := n.replies.modify p fun r => { r with pending := none } } := by
  simp [sendReply, hp]

end Success
end MessageBus.Network
