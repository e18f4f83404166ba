import MessageBus.Proofs.Client.Caller
import MessageBus.Proofs.Network.Operations
/-!
# Traffic on a network

Any number of clients on one network, each with a user who has it do one thing after the other, and
whoever binds reply sockets there, takes requests from them and answers as it likes. Every interleaving of
what they do is a history of this system.
-/
namespace MessageBus
set_option autoImplicit false
open Network (ReplyId TicketId Mark Change Spares)

structure Traffic where
  network : Network
  callers : Pool Caller

namespace Traffic

abbrev CallerId := Nat

inductive Act
  /-- A client comes. -/
  | enters (endpoint : Endpoint) (config : TransportConfig)
  /-- A caller does something by its user, its canceller or its clock. -/
  | does (c : CallerId) (e : Caller.Event)
  /-- The dial, the send or the receive that a caller waits for comes to its end. -/
  | operates (c : CallerId)
  /-- What a caller is doing is dropped where it stands; the client keeps its socket. -/
  | drops (c : CallerId)
  /-- A client goes, and its socket with it. -/
  | leaves (c : CallerId)
  | binds (url : String)
  /-- A reply socket is closed. -/
  | closes (p : ReplyId)
  /-- A reply socket takes the oldest request. -/
  | takes (p : ReplyId)
  /-- A reply socket answers the request that it took. -/
  | answers (p : ReplyId) (frame : Frame)

inductive Output
  | nothing
  | returned (r : Caller.Answer)
  | taken (r : Except SocketError Frame)
  | refused (e : SocketError)

/-- Whether an event comes from the user, the canceller or the clock of a caller. -/
def isOwn : Caller.Event → Bool
  | .connect | .ask _ _ | .signal | .act .begin | .act .expired | .act .cancelled => true
  | _ => false

/-- How the operation that a caller waits for ends; `none` while it has to wait. -/
def goesOn (n : Network) (u : Caller) : Option (Caller.Event × Network) :=
  match u.activity with
  | .idle => none
  | .connecting =>
    match n.dial u.client.endpoint.url with
    | .ok (id, n) => some (.dialed (.ok id), n)
    | .error e => some (.dialed (.error e), n)
  | .calling call _ => (n.operate u.client call).map fun (e, n) => (.act e, n)

def output (out : Caller.Output) : Output := out.answer?.elim .nothing .returned

/-- A caller becomes another, and the socket that it gave up is closed. -/
def moved (w : Traffic) (n : Network) (c : CallerId) (u u' : Caller) : Traffic :=
  ⟨n.release u.client.socket u'.client.socket, w.callers.modify c fun _ => u'⟩

/-- What an act makes of the system; `none` if it cannot happen now. -/
def step (w : Traffic) : Act → Option (Traffic × Output)
  | .enters endpoint config =>
    some ({ w with callers := w.callers.add (.start endpoint config) }, .nothing)
  | .does c e =>
    if isOwn e then
      (w.callers.get? c).bind fun u =>
        (u.step e).map fun (u', out) => (w.moved w.network c u u', output out)
    else none
  | .operates c =>
    (w.callers.get? c).bind fun u =>
      (goesOn w.network u).bind fun (e, n) =>
        (u.step e).map fun (u', out) => (w.moved n c u u', output out)
  | .drops c =>
    (w.callers.get? c).map fun u =>
      ({ w with callers := w.callers.modify c fun _ => { u with activity := .idle } }, .nothing)
  | .leaves c =>
    (w.callers.get? c).map fun u =>
      (⟨w.network.release u.client.socket none, w.callers.remove c⟩, .nothing)
  | .binds url =>
    match w.network.bindReply url with
    | .ok (_, n) => some ({ w with network := n }, .nothing)
    | .error e => some (w, .refused e)
  | .closes p => some ({ w with network := w.network.closeReply p }, .nothing)
  | .takes p => (w.network.receiveRequest p).map fun (r, n) => ({ w with network := n }, .taken r)
  | .answers p frame =>
    match w.network.sendReply p frame with
    | .ok n => some ({ w with network := n }, .nothing)
    | .error e => some (w, .refused e)

def start (capacity : Nat) : Traffic := ⟨.new capacity, .empty⟩

abbrev Deed := Occurrence Traffic Act Output

/-- What happened on a network since nothing was bound there. -/
def Run (capacity : Nat) : List Deed → Traffic → Prop := Occurs step (start capacity)

/-! ## What a step can do -/

/-- How the operation that a caller waits for can end. -/
inductive Went (n : Network) (u : Caller) : Caller.Event → Network → Prop
  | dialed {id : SocketId} {n' : Network} {e : Caller.Event}
      (he : e = .dialed (.ok id) ∨ e = .act (.dialed id))
      (h : n.dial u.client.endpoint.url = .ok (id, n')) (hq : u.dialing = true) : Went n u e n'
  | undialed {why : SocketError} {e : Caller.Event}
      (he : e = .dialed (.error why) ∨ e = .act (.refused why)) (hq : u.dialing = true) : Went n u e n
  | sent {call : Call} {signal? : Option Bool} {id : SocketId} {n' : Network}
      (ha : u.activity = .calling call signal?) (hp : call.phase = .sending)
      (hs : u.client.socket = some id) (h : n.sendRequest id call.request.encode = some (.ok n')) :
      Went n u (.act .sent) n'
  | unsent {call : Call} {signal? : Option Bool} {id : SocketId} {why : SocketError}
      (ha : u.activity = .calling call signal?) (hp : call.phase = .sending)
      (hs : u.client.socket = some id) (h : n.sendRequest id call.request.encode = some (.error why)) :
      Went n u (.act (.sendFailed why)) n
  | received {call : Call} {signal? : Option Bool} {id : SocketId} {frame : Frame} {n' : Network}
      (ha : u.activity = .calling call signal?) (hp : call.phase = .receiving)
      (hs : u.client.socket = some id) (h : n.receiveReply id = some (.ok frame, n')) :
      Went n u (.act (.received frame)) n'
  | unreceived {call : Call} {signal? : Option Bool} {id : SocketId} {why : SocketError} {n' : Network}
      (ha : u.activity = .calling call signal?) (hp : call.phase = .receiving)
      (hs : u.client.socket = some id) (h : n.receiveReply id = some (.error why, n')) :
      Went n u (.act (.receiveFailed why)) n'

inductive Move (w : Traffic) : Act → Traffic → Output → Prop
  | enters {endpoint : Endpoint} {config : TransportConfig} :
      Move w (.enters endpoint config) { w with callers := w.callers.add (.start endpoint config) }
        .nothing
  | does {c : CallerId} {u u' : Caller} {e : Caller.Event} {out : Caller.Output}
      (hu : w.callers.get? c = some u) (ho : isOwn e = true) (hm : Caller.Move u e u' out) :
      Move w (.does c e) (w.moved w.network c u u') (output out)
  | operates {c : CallerId} {u u' : Caller} {e : Caller.Event} {n : Network} {out : Caller.Output}
      (hu : w.callers.get? c = some u) (hg : Went w.network u e n) (hm : Caller.Move u e u' out) :
      Move w (.operates c) (w.moved n c u u') (output out)
  | drops {c : CallerId} {u : Caller} (hu : w.callers.get? c = some u) :
      Move w (.drops c)
        { w with callers := w.callers.modify c fun _ => { u with activity := .idle } } .nothing
  | leaves {c : CallerId} {u : Caller} (hu : w.callers.get? c = some u) :
      Move w (.leaves c) ⟨w.network.release u.client.socket none, w.callers.remove c⟩ .nothing
  | binds {url : String} {p : ReplyId} {n : Network} (h : w.network.bindReply url = .ok (p, n)) :
      Move w (.binds url) { w with network := n } .nothing
  | unbound {url : String} {e : SocketError} : Move w (.binds url) w (.refused e)
  | closes {p : ReplyId} : Move w (.closes p) { w with network := w.network.closeReply p } .nothing
  | takes {p : ReplyId} {r : Except SocketError Frame} {n : Network}
      (h : w.network.receiveRequest p = some (r, n)) :
      Move w (.takes p) { w with network := n } (.taken r)
  | answers {p : ReplyId} {frame : Frame} {n : Network} (h : w.network.sendReply p frame = .ok n) :
      Move w (.answers p frame) { w with network := n } .nothing
  | unanswered {p : ReplyId} {frame : Frame} {e : SocketError}
      (h : w.network.sendReply p frame = .error e) : Move w (.answers p frame) w (.refused e)

section Steps
variable {n n' : Network} {u : Caller}

theorem operate_went {call : Call} {signal? : Option Bool} {e : Call.Event}
    (ha : u.activity = .calling call signal?) (h : n.operate u.client call = some (e, n')) :
    Went n u (.act e) n' := by
  unfold Network.operate at h
  split at h
  · cases h
  · cases h
  · next hp =>
    have hq : u.dialing = true := by
      obtain ⟨request, k, phase⟩ := call
      obtain rfl : phase = .dialing := hp
      simp only [Caller.dialing, ha]
    split at h
    · next hd =>
      cases h
      exact .dialed (.inr rfl) hd hq
    · cases h
      exact .undialed (.inr rfl) hq
  · next hp =>
    obtain ⟨id, hs, h⟩ := Option.bind_eq_some_iff.mp h
    obtain ⟨r, hr, h⟩ := Option.map_eq_some_iff.mp h
    cases r <;> cases h
    · exact .unsent ha hp hs hr
    · exact .sent ha hp hs hr
  · next hp =>
    obtain ⟨id, hs, h⟩ := Option.bind_eq_some_iff.mp h
    obtain ⟨⟨r, n⟩, hr, h⟩ := Option.map_eq_some_iff.mp h
    cases r <;> cases h
    · exact .unreceived ha hp hs hr
    · exact .received ha hp hs hr

theorem goesOn_went {e : Caller.Event} (h : goesOn n u = some (e, n')) : Went n u e n' := by
  unfold goesOn at h
  split at h
  · cases h
  · next ha =>
    have hq : u.dialing = true := by simp only [Caller.dialing, ha]
    split at h
    · next hd =>
      cases h
      exact .dialed (.inl rfl) hd hq
    · cases h
      exact .undialed (.inl rfl) hq
  · next ha =>
    obtain ⟨⟨e, n⟩, ho, h⟩ := Option.map_eq_some_iff.mp h
    cases h
    exact operate_went ha ho

theorem step_move {w w' : Traffic} {act : Act} {out : Output} (h : w.step act = some (w', out)) :
    Move w act w' out := by
  cases act with
  | enters endpoint config =>
    cases h
    exact .enters
  | does c e =>
    rw [step] at h
    split at h
    · next ho =>
      obtain ⟨u, hu, h⟩ := Option.bind_eq_some_iff.mp h
      obtain ⟨⟨u', out⟩, hs, h⟩ := Option.map_eq_some_iff.mp h
      cases h
      exact .does hu ho (Caller.step_move hs)
    · cases h
  | operates c =>
    obtain ⟨u, hu, h⟩ := Option.bind_eq_some_iff.mp h
    obtain ⟨⟨e, n⟩, hg, h⟩ := Option.bind_eq_some_iff.mp h
    obtain ⟨⟨u', out⟩, hs, h⟩ := Option.map_eq_some_iff.mp h
    cases h
    exact .operates hu (goesOn_went hg) (Caller.step_move hs)
  | drops c =>
    obtain ⟨u, hu, h⟩ := Option.map_eq_some_iff.mp h
    cases h
    exact .drops hu
  | leaves c =>
    obtain ⟨u, hu, h⟩ := Option.map_eq_some_iff.mp h
    cases h
    exact .leaves hu
  | binds url =>
    rw [step] at h
    split at h
    · next hb =>
      cases h
      exact .binds hb
    · cases h
      exact .unbound
  | closes p =>
    cases h
    exact .closes
  | takes p =>
    obtain ⟨⟨r, n⟩, hr, h⟩ := Option.map_eq_some_iff.mp h
    cases h
    exact .takes hr
  | answers p frame =>
    rw [step] at h
    split at h
    · next hs =>
      cases h
      exact .answers hs
    · next hs =>
      cases h
      exact .unanswered hs

end Steps

/-! ## Sockets of callers -/

section Sockets
variable {n n' : Network} {u u' : Caller} {e : Caller.Event} {out : Caller.Output}

theorem went_spares (h : Went n u e n') : Spares u.client.socket n n' := by
  cases h with
  | dialed _ hd => exact Network.dial_spares _ hd
  | undialed | unsent => exact .refl _ n
  | sent _ _ hs hr =>
    rw [hs]
    exact Network.sendRequest_spares hr
  | received _ _ hs hr =>
    obtain ⟨_, ticket, -, -, -, rfl⟩ := Network.receiveReply_ok hr
    rw [hs]
    exact Network.clearRequest_spares ..
  | unreceived _ _ hs hr =>
    obtain rfl | ⟨ticket, rfl⟩ := Network.receiveReply_error hr
    · exact .refl _ _
    · rw [hs]
      exact Network.clearRequest_spares ..

/-- Where a caller has its socket from. -/
theorem move_socket (h : Caller.Move u e u' out) :
    u'.client.socket = none ∨ u'.client.socket = u.client.socket ∨
      ∃ id, u'.client.socket = some id ∧ (e = .dialed (.ok id) ∨ e = .act (.dialed id)) := by
  cases h with
  | kept | connects | unconnected | asked | signalled => exact .inr (.inl rfl)
  | connected => exact .inr (.inr ⟨_, Client.install_socket .., .inl rfl⟩)
  | goesOn _ hm =>
    cases hm with
    | reuses | dials | undialed | rested | sent => exact .inr (.inl rfl)
    | dialed => exact .inr (.inr ⟨_, Client.install_socket .., .inr rfl⟩)
    | failed => exact .inl (Client.discard_socket _)
  | ends _ hm =>
    cases hm with
    | exhausted | answered => exact .inr (.inl rfl)
    | forestalled | abandoned => exact .inl (Client.discard_socket _)

/-- No two clients hold the same socket. -/
structure Held (w : Traffic) : Prop where
  known : ∀ {c u id}, w.callers.get? c = some u → u.client.socket = some id → id < w.network.requests.next
  apart : ∀ {c d u v id}, w.callers.get? c = some u → w.callers.get? d = some v →
    u.client.socket = some id → v.client.socket = some id → c = d

end Sockets

section Held
variable {w w' : Traffic} {n : Network} {c : CallerId} {u u' : Caller}

theorem get?_moved {d : CallerId} {v : Caller} (h : (w.moved n c u u').callers.get? d = some v) :
    d = c ∧ v = u' ∨ d ≠ c ∧ w.callers.get? d = some v := by
  rcases Pool.of_get?_modify h with hother | ⟨heq, _, -, rfl⟩
  · exact .inr hother
  · exact .inl ⟨heq, rfl⟩

/-- Other sockets than those of callers may come. -/
theorem Held.widen (h : Held w) (hn : w.network.requests.next ≤ n.requests.next) :
    Held { w with network := n } :=
  ⟨fun hc hs => Nat.lt_of_lt_of_le (h.known hc hs) hn, h.apart⟩

/-- A caller that takes a socket takes a new one. -/
theorem Held.moved (h : Held w) (hu : w.callers.get? c = some u)
    (hn : w.network.requests.next ≤ n.requests.next)
    (hs : ∀ {id}, u'.client.socket = some id →
      u.client.socket = some id ∨ w.network.requests.next ≤ id ∧ id < n.requests.next) :
    Held (w.moved n c u u') := by
  have hnext : n.requests.next ≤ (w.moved n c u u').network.requests.next :=
    (Network.release_spares ..).next
  -- Nobody else holds the socket that the caller now has: either it had it before, or it is new.
  have hfresh {d v id} (hd : w.callers.get? d = some v) (hdc : d ≠ c) (hv : v.client.socket = some id)
      (hu' : u'.client.socket = some id) : False := by
    rcases hs hu' with hold | ⟨hge, -⟩
    · exact hdc (h.apart hd hu hv hold)
    · exact absurd (h.known hd hv) (Nat.not_lt.mpr hge)
  refine ⟨fun {d v id} hd hv => ?_, fun {d d' v v' id} hd hd' hv hv' => ?_⟩
  · rcases get?_moved hd with ⟨-, rfl⟩ | ⟨-, hd⟩
    · rcases hs hv with hold | ⟨-, hlt⟩
      · exact Nat.lt_of_lt_of_le (Nat.lt_of_lt_of_le (h.known hu hold) hn) hnext
      · exact Nat.lt_of_lt_of_le hlt hnext
    · exact Nat.lt_of_lt_of_le (Nat.lt_of_lt_of_le (h.known hd hv) hn) hnext
  · rcases get?_moved hd with ⟨rfl, rfl⟩ | ⟨hne, hold⟩ <;>
      rcases get?_moved hd' with ⟨rfl, rfl⟩ | ⟨hne', hold'⟩
    · rfl
    · exact (hfresh hold' hne' hv' hv).elim
    · exact (hfresh hold hne hv hv').elim
    · exact h.apart hold hold' hv hv'

theorem went_fresh {e : Caller.Event} {n' : Network} {id : SocketId} (h : Went n u e n')
    (he : e = .dialed (.ok id) ∨ e = .act (.dialed id)) :
    n.requests.next ≤ id ∧ id < n'.requests.next := by
  cases h with
  | dialed he' hd =>
    obtain ⟨rfl, peer, rfl⟩ := Network.dial_ok hd
    obtain rfl : id = n.requests.next := by
      rcases he with rfl | rfl <;> rcases he' with he' | he' <;> cases he' <;> rfl
    exact ⟨Nat.le_refl _, Nat.lt_succ_self _⟩
  | undialed he' => rcases he with rfl | rfl <;> rcases he' with he' | he' <;> cases he'
  | sent | unsent | received | unreceived => rcases he with he | he <;> cases he

theorem Held.next {act : Act} {out : Output} (h : Held w) (hm : Move w act w' out) : Held w' := by
  cases hm with
  | @enters endpoint config =>
    -- A caller that has just come holds no socket.
    have hold {d v id} (hd : (w.callers.add (.start endpoint config)).get? d = some v)
        (hv : v.client.socket = some id) : w.callers.get? d = some v := by
      rcases Pool.of_get?_add hd with ⟨-, rfl⟩ | ⟨-, hd⟩
      · cases hv
      · exact hd
    exact ⟨fun hd hv => h.known (hold hd hv) hv,
      fun hd hd' hv hv' => h.apart (hold hd hv) (hold hd' hv') hv hv'⟩
  | does hu ho hm =>
    refine h.moved hu (Nat.le_refl _) fun {id} hs => .inl ?_
    rcases move_socket hm with hn | hk | ⟨_, -, rfl | rfl⟩
    · cases hn.symm.trans hs
    · exact hk.symm.trans hs
    · cases ho
    · cases ho
  | operates hu hg hm =>
    refine h.moved hu (went_spares hg).next fun {id} hs => ?_
    rcases move_socket hm with hn | hk | ⟨id', hid, he⟩
    · cases hn.symm.trans hs
    · exact .inl (hk.symm.trans hs)
    · obtain rfl : id' = id := Option.some.inj (hid.symm.trans hs)
      exact .inr (went_fresh hg he)
  | @drops c u hu =>
    have hidle : Held (w.moved w.network c u { u with activity := .idle }) :=
      h.moved hu (Nat.le_refl _) .inl
    simpa only [Traffic.moved, Network.release_self] using hidle
  | @leaves c u hu =>
    have hnext := (Network.release_spares w.network u.client.socket none).next
    exact ⟨fun hd hv => Nat.lt_of_lt_of_le (h.known (Pool.of_get?_remove hd).2 hv) hnext,
      fun hd hd' => h.apart (Pool.of_get?_remove hd).2 (Pool.of_get?_remove hd').2⟩
  | binds hb => exact h.widen (Nat.le_of_eq (congrArg _ (Network.bindReply_requests hb).symm))
  | closes => exact h.widen (Nat.le_of_eq (congrArg _ (Network.closeReply_requests ..).symm))
  | takes ht => exact h.widen (Nat.le_of_eq (congrArg _ (Network.receiveRequest_requests ht).symm))
  | answers ha => exact h.widen (Nat.le_of_eq (congrArg _ (Network.sendReply_requests ha).symm))
  | unbound | unanswered => exact h

theorem Run.held {capacity : Nat} {history : List Deed} (h : Run capacity history w) : Held w := by
  induction h with
  | nothing => exact ⟨nofun, nofun⟩
  | next _ hs ih => exact ih.next (step_move hs)

end Held
end Traffic
end MessageBus
