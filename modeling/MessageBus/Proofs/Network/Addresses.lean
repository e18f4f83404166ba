import MessageBus.Proofs.Network.Acts
import MessageBus.Proofs.Text.Parting
/-!
# Addresses of reply sockets

`reply_addresses_exclusive`: at an address there is one reply socket at a time, and a socket that was dialed
to it reaches that one or none. What holds an address is told from what was done (`Live`): a reply socket was
bound there and is not closed. `Leased` says that the network knows it, `Connected` that a request socket stays
with the reply socket to which it was dialed, and `Queued` that what waits in a queue was sent by such a socket.
-/
namespace MessageBus
set_option autoImplicit false

/-! ## The addresses of endpoints -/

theorem toDigits_colon (k : Nat) : ':' ∉ Nat.toDigits 10 k := by
  intro h
  have hdigit := Nat.isDigit_of_mem_toDigits (by decide) (by decide) h
  revert hdigit
  decide

theorem toDigits_inj {k l : Nat} (h : Nat.toDigits 10 k = Nat.toDigits 10 l) : k = l := by
  have hread := congrArg (fun digits => Nat.ofDigitChars 10 digits 0) h
  simpa only [Nat.ofDigitChars_ten_toDigits] using hread

/-- A host may have colons in it; the port has none. -/
theorem Endpoint.url_eq_iff {e e' : Endpoint} : e.url = e'.url ↔ e.host = e'.host ∧ e.port = e'.port := by
  constructor
  · intro h
    have hchars := congrArg String.toList h
    simp only [Endpoint.url, String.toList_append, List.append_assoc, Nat.toString_eq_repr,
      Nat.toList_repr] at hchars
    obtain ⟨hhost, hport⟩ :=
      append_mark_inj (toDigits_colon _) (toDigits_colon _) (List.append_cancel_left hchars)
    exact ⟨String.toList_inj.mp hhost, UInt16.toNat_inj.mp (toDigits_inj hport)⟩
  · rintro ⟨hhost, hport⟩
    simp only [Endpoint.url, hhost, hport]

/-! ## Pools that name nothing twice -/

namespace Pool
variable {α : Type} {p : Pool α}

def Distinct (p : Pool α) : Prop := (p.entries.map Prod.fst).Nodup

theorem distinct_empty : (empty : Pool α).Distinct := List.nodup_nil

theorem Distinct.add (h : p.Distinct) (value : α) : (p.add value).Distinct := by
  refine List.nodup_cons.mpr ⟨fun hmem => ?_, h⟩
  obtain ⟨e, he, heq⟩ := List.mem_map.mp hmem
  exact Nat.lt_irrefl _ (heq ▸ p.fresh e he)

theorem Distinct.modify (h : p.Distinct) (id : Nat) (change : α → α) : (p.modify id change).Distinct := by
  have hkeys : (p.modify id change).entries.map Prod.fst = p.entries.map Prod.fst := by
    simp only [Pool.modify, List.map_map]
    refine List.map_congr_left fun e _ => ?_
    simp only [Function.comp_apply]
    split <;> rfl
  rwa [Distinct, hkeys]

theorem Distinct.remove (h : p.Distinct) (id : Nat) : (p.remove id).Distinct :=
  h.sublist (List.filter_sublist.map _)

theorem Distinct.get?_of_find? {test : α → Bool} {id : Nat} (h : p.Distinct) (hf : p.find? test = some id) :
    ∃ value, p.get? id = some value ∧ test value = true := by
  obtain ⟨⟨id, value⟩, hfind, rfl⟩ := Option.map_eq_some_iff.mp hf
  have htest := List.find?_some hfind
  exact ⟨value, lookup_of_mem h (List.mem_of_find?_eq_some hfind), htest⟩

theorem test_of_find?_none {test : α → Bool} {id : Nat} {value : α} (hf : p.find? test = none)
    (h : p.get? id = some value) : test value = false := by
  have hall := List.find?_eq_none.mp (Option.map_eq_none_iff.mp hf) _ (mem_of_lookup h)
  exact Bool.eq_false_iff.mpr hall

end Pool

namespace Network

/-! ## What is done about addresses -/

def Binds (p : ReplyId) (e : Endpoint) (o : Deed) : Prop := o.event = .bindReply e ∧ o.output = .bound p

def Closes (p : ReplyId) (o : Deed) : Prop := o.event = .closeReply p

def Dials (id : SocketId) (e : Endpoint) (o : Deed) : Prop := o.event = .dial e ∧ o.output = .dialed id

/-- A frame is sent on a request socket. -/
def Asks (id : SocketId) (frame : Frame) (o : Deed) : Prop :=
  o.event = .sendRequest id frame ∧ o.output = .done

/-- A reply socket receives a frame. -/
def Takes (p : ReplyId) (frame : Frame) (o : Deed) : Prop :=
  o.event = .receiveRequest p ∧ o.output = .received frame

/-- A reply socket was bound to the host and the port of an endpoint, and was not closed. -/
def Live (history : List Deed) (p : ReplyId) (e : Endpoint) : Prop :=
  ∃ i e', At history i (Binds p e') ∧ e'.host = e.host ∧ e'.port = e.port ∧
    ∀ j, i < j → ¬At history j (Closes p)

/-- A request socket was dialed to the address of a reply socket while that was there. -/
def DialedTo (history : List Deed) (id : SocketId) (p : ReplyId) : Prop :=
  ∃ i e, At history i (Dials id e) ∧ Live (history.take i) p e

/-- A frame was sent on a request socket that had been dialed to a reply socket. -/
def SentTo (history : List Deed) (p : ReplyId) (frame : Frame) : Prop :=
  ∃ k id, At history k (Asks id frame) ∧ DialedTo (history.take k) id p

section Deeds
variable {history : List Deed} {o : Deed} {p : ReplyId} {id : SocketId} {e : Endpoint} {frame : Frame}

theorem live_concat : Live (history ++ [o]) p e ↔
    (∃ e', Binds p e' o ∧ e'.host = e.host ∧ e'.port = e.port) ∨ Live history p e ∧ ¬Closes p o := by
  constructor
  · rintro ⟨i, e', hi, hhost, hport, hopen⟩
    rcases at_concat.mp hi with hi | ⟨-, hb⟩
    · exact .inr ⟨⟨i, e', hi, hhost, hport, fun j hij hj => hopen j hij (hj.append _)⟩,
        fun hc => hopen _ hi.lt (at_last hc)⟩
    · exact .inl ⟨e', hb, hhost, hport⟩
  · rintro (⟨e', hb, hhost, hport⟩ | ⟨⟨i, e', hi, hhost, hport, hopen⟩, hkept⟩)
    · refine ⟨_, e', at_last hb, hhost, hport, fun j hj hc => ?_⟩
      have hlt := hc.lt
      rw [List.length_append, List.length_singleton] at hlt
      omega
    · refine ⟨i, e', hi.append _, hhost, hport, fun j hij hj => ?_⟩
      rcases at_concat.mp hj with hj | ⟨-, hc⟩
      · exact hopen j hij hj
      · exact hkept hc

theorem DialedTo.concat (h : DialedTo history id p) (o : Deed) : DialedTo (history ++ [o]) id p := by
  obtain ⟨i, e, hi, hlive⟩ := h
  refine ⟨i, e, hi.append _, ?_⟩
  rwa [List.take_append_of_le_length (Nat.le_of_lt hi.lt)]

theorem dialedTo_last (h : Dials id e o) (hlive : Live history p e) : DialedTo (history ++ [o]) id p := by
  refine ⟨_, e, at_last h, ?_⟩
  rwa [List.take_append_of_le_length (Nat.le_refl _), List.take_length]

theorem SentTo.concat (h : SentTo history p frame) (o : Deed) : SentTo (history ++ [o]) p frame := by
  obtain ⟨k, id, hk, hdialed⟩ := h
  refine ⟨k, id, hk.append _, ?_⟩
  rwa [List.take_append_of_le_length (Nat.le_of_lt hk.lt)]

theorem sentTo_last (h : Asks id frame o) (hdialed : DialedTo history id p) :
    SentTo (history ++ [o]) p frame := by
  refine ⟨_, id, at_last h, ?_⟩
  rwa [List.take_append_of_le_length (Nat.le_refl _), List.take_length]

end Deeds

/-! ## How an act can change addresses -/

/-- The address at which a reply socket is bound. -/
def address? (n : Network) (p : ReplyId) : Option String := (n.replies.get? p).map ReplySocket.url

inductive Lease (n n' : Network) : Act → Output → Prop
  | bound {e : Endpoint} {p : ReplyId} (hp : p = n.replies.next) (hfree : n.bound? e.url = none)
      (h : ∀ q, n'.address? q = if q = p then some e.url else n.address? q) :
      Lease n n' (.bindReply e) (.bound p)
  | closed {p : ReplyId} (h : ∀ q, n'.address? q = if q = p then none else n.address? q) :
      Lease n n' (.closeReply p) .done
  | kept {a : Act} {out : Output} (hb : ∀ p, out ≠ .bound p) (hc : ∀ p, a ≠ .closeReply p)
      (h : ∀ q, n'.address? q = n.address? q) : Lease n n' a out

section Moves
variable {n n' : Network} {a : Act} {out : Output}

theorem modify_address {replies : Pool ReplySocket} {p : ReplyId} {change : ReplySocket → ReplySocket}
    (hurl : ∀ s, (change s).url = s.url) (q : ReplyId) :
    ((replies.modify p change).get? q).map ReplySocket.url = (replies.get? q).map ReplySocket.url := by
  rw [Pool.get?_modify]
  split
  · rw [Option.map_map]
    exact congrArg (fun f => (replies.get? q).map f) (funext hurl)
  · rfl

theorem Move.lease (h : Move n a n' out) : Lease n n' a out := by
  have hof {r : Except SocketError Frame} {p : ReplyId} : Output.of r ≠ .bound p := by
    cases r <;> exact nofun
  have hline := h.offLine
  cases h with
  | binds h =>
    obtain ⟨hp, hfree, rfl⟩ := bindReply_new h
    refine .bound hp hfree fun q => ?_
    rw [address?, Pool.get?_add, hp]
    split <;> rfl
  | @closes p =>
    refine .closed fun q => ?_
    unfold closeReply
    split
    · next hnone =>
      split
      · next heq => rw [heq, address?, hnone, Option.map_none]
      · rfl
    · rw [address?, Pool.get?_remove]
      split <;> rfl
  | dials h => exact .kept nofun nofun fun q => by rw [address?, (dial_calm h).replies, address?]
  | hangsUp => exact .kept nofun nofun fun q => by rw [address?, (closeRequest_calm ..).replies, address?]
  | asks h =>
    obtain ⟨_, _, -, -, -, rfl⟩ := sendRequest_ok h
    exact .kept nofun nofun (modify_address fun _ => rfl)
  | gets h => exact .kept (fun _ => hof) nofun fun q => by rw [address?, receiveReply_replies h, address?]
  | @takes _ r _ h =>
    cases r with
    | ok frame =>
      obtain ⟨_, _, _, -, -, rfl⟩ := receiveRequest_ok h
      exact .kept nofun nofun (modify_address fun _ => rfl)
    | error why =>
      obtain rfl := receiveRequest_error h
      exact .kept nofun nofun fun _ => rfl
  | answers h =>
    obtain ⟨_, _, -, -, rfl⟩ := sendReply_ok h
    exact .kept nofun nofun (modify_address fun _ => rfl)
  | refused hf =>
    refine .kept nofun ?_ fun _ => rfl
    rintro p rfl
    cases hf
  | opens | publishes | connects | leaves | hears =>
    exact .kept nofun nofun fun q => by rw [address?, (hline rfl).1, address?]

theorem Move.distinct (h : Move n a n' out) (hd : n.replies.Distinct) : n'.replies.Distinct := by
  have hline := h.offLine
  cases h with
  | binds h =>
    obtain ⟨-, -, rfl⟩ := bindReply_new h
    exact hd.add _
  | closes =>
    unfold closeReply
    split
    · exact hd
    · exact hd.remove _
  | dials h => rwa [(dial_calm h).replies]
  | hangsUp => rwa [(closeRequest_calm ..).replies]
  | asks h =>
    obtain ⟨_, _, -, -, -, rfl⟩ := sendRequest_ok h
    exact hd.modify ..
  | gets h => rwa [receiveReply_replies h]
  | @takes _ r _ h =>
    cases r with
    | ok frame =>
      obtain ⟨_, _, _, -, -, rfl⟩ := receiveRequest_ok h
      exact hd.modify ..
    | error why => rwa [receiveRequest_error h]
  | answers h =>
    obtain ⟨_, _, -, -, rfl⟩ := sendReply_ok h
    exact hd.modify ..
  | refused => exact hd
  | opens | publishes | connects | leaves | hears => rwa [(hline rfl).1]

/-- How an act can change which reply sockets the request sockets reach. -/
inductive Line (n n' : Network) : Act → Output → Prop
  | dialed {e : Endpoint} {p : ReplyId} (hp : n.bound? e.url = some p)
      (h : n'.requests = n.requests.add ⟨p, none⟩) : Line n n' (.dial e) (.dialed n.requests.next)
  | kept {a : Act} {out : Output} (hd : ∀ id, out ≠ .dialed id)
      (h : ∀ {id r'}, n'.requests.get? id = some r' → ∃ r, n.requests.get? id = some r ∧ r.peer = r'.peer) :
      Line n n' a out

theorem modify_peer {requests : Pool RequestSocket} {id id' : SocketId} {r' : RequestSocket}
    {pending : Option TicketId}
    (h : (requests.modify id fun r => { r with pending := pending }).get? id' = some r') :
    ∃ r, requests.get? id' = some r ∧ r.peer = r'.peer := by
  rcases Pool.of_get?_modify h with ⟨-, hr⟩ | ⟨rfl, r, hr, rfl⟩
  · exact ⟨r', hr, rfl⟩
  · exact ⟨r, hr, rfl⟩

theorem closeRequest_peer {id id' : SocketId} {r' : RequestSocket}
    (h : (n.closeRequest id).requests.get? id' = some r') : n.requests.get? id' = some r' := by
  unfold closeRequest at h
  split at h
  · exact h
  · exact (Pool.of_get?_remove h).2

theorem Move.line (h : Move n a n' out) : Line n n' a out := by
  have hof {r : Except SocketError Frame} {id : SocketId} : Output.of r ≠ .dialed id := by
    cases r <;> exact nofun
  have hline := h.offLine
  cases h with
  | binds h => exact .kept nofun fun hr => ⟨_, bindReply_requests h ▸ hr, rfl⟩
  | closes => exact .kept nofun fun hr => ⟨_, closeReply_requests .. ▸ hr, rfl⟩
  | dials h =>
    obtain ⟨p, hp, rfl, rfl⟩ := dial_reaches h
    exact .dialed hp rfl
  | hangsUp => exact .kept nofun fun hr => ⟨_, closeRequest_peer hr, rfl⟩
  | asks h =>
    obtain ⟨_, _, -, -, -, rfl⟩ := sendRequest_ok h
    exact .kept nofun modify_peer
  | @gets _ r _ h =>
    cases r with
    | ok frame =>
      obtain ⟨_, ticket, -, -, -, rfl⟩ := receiveReply_ok h
      exact .kept nofun modify_peer
    | error why =>
      obtain rfl | ⟨ticket, rfl⟩ := receiveReply_error h
      · exact .kept nofun fun hr => ⟨_, hr, rfl⟩
      · exact .kept nofun modify_peer
  | takes h => exact .kept (fun _ => hof) fun hr => ⟨_, receiveRequest_requests h ▸ hr, rfl⟩
  | answers h => exact .kept nofun fun hr => ⟨_, sendReply_requests h ▸ hr, rfl⟩
  | refused => exact .kept nofun fun hr => ⟨_, hr, rfl⟩
  | opens | publishes | connects | leaves | hears =>
    exact .kept nofun fun hr => ⟨_, (hline rfl).2.1 ▸ hr, rfl⟩

/-- What waits in a queue was there before, or it was sent just now. -/
theorem Move.queue (h : Move n a n' out) {q : ReplyId} {s' : ReplySocket} {x : Frame × TicketId}
    (hs : n'.replies.get? q = some s') (hx : x ∈ s'.queue) :
    (∃ s, n.replies.get? q = some s ∧ x ∈ s.queue) ∨
      ∃ id r, a = .sendRequest id x.1 ∧ out = .done ∧ n.requests.get? id = some r ∧ r.peer = q := by
  have hline := h.offLine
  cases h with
  | binds h =>
    obtain ⟨-, -, rfl⟩ := bindReply_new h
    rcases Pool.of_get?_add hs with ⟨-, rfl⟩ | ⟨-, hs⟩
    · cases hx
    · exact .inl ⟨s', hs, hx⟩
  | closes =>
    unfold closeReply at hs
    split at hs
    · exact .inl ⟨s', hs, hx⟩
    · exact .inl ⟨s', (Pool.of_get?_remove hs).2, hx⟩
  | dials h => exact .inl ⟨s', (dial_calm h).replies ▸ hs, hx⟩
  | hangsUp => exact .inl ⟨s', (closeRequest_calm ..).replies ▸ hs, hx⟩
  | @asks id frame _ h =>
    obtain ⟨r, s, hr, -, hpeer, rfl⟩ := sendRequest_ok h
    rcases modified_reply hpeer hs with ⟨-, hs⟩ | ⟨rfl, rfl⟩
    · exact .inl ⟨s', hs, hx⟩
    · rcases List.mem_append.mp hx with hx | hx
      · exact .inl ⟨s, hpeer, hx⟩
      · rw [List.mem_singleton.mp hx]
        exact .inr ⟨id, r, rfl, rfl, hr, rfl⟩
  | gets h => exact .inl ⟨s', receiveReply_replies h ▸ hs, hx⟩
  | @takes _ r _ h =>
    cases r with
    | ok frame =>
      obtain ⟨s, ticket, rest, hget, hqueue, rfl⟩ := receiveRequest_ok h
      rcases modified_reply hget hs with ⟨-, hs⟩ | ⟨rfl, rfl⟩
      · exact .inl ⟨s', hs, hx⟩
      · exact .inl ⟨s, hget, hqueue ▸ List.mem_cons_of_mem _ hx⟩
    | error why => exact .inl ⟨s', receiveRequest_error h ▸ hs, hx⟩
  | answers h =>
    obtain ⟨s, _, hget, -, rfl⟩ := sendReply_ok h
    rcases modified_reply hget hs with ⟨-, hs⟩ | ⟨rfl, rfl⟩
    · exact .inl ⟨s', hs, hx⟩
    · exact .inl ⟨s, hget, hx⟩
  | refused => exact .inl ⟨s', hs, hx⟩
  | opens | publishes | connects | leaves | hears => exact .inl ⟨s', (hline rfl).1 ▸ hs, hx⟩

end Moves

/-! ## What the network knows -/

/-- The network holds the addresses that are taken, each for one reply socket. -/
structure Leased (history : List Deed) (n : Network) : Prop where
  distinct : n.replies.Distinct
  known : ∀ {p url}, n.address? p = some url → ∃ e : Endpoint, e.url = url
  live : ∀ {p} {e : Endpoint}, n.address? p = some e.url ↔ Live history p e
  alone : ∀ {p q url}, n.address? p = some url → n.address? q = some url → p = q

/-- Every request socket stays with the reply socket to which it was dialed. -/
def Connected (history : List Deed) (n : Network) : Prop :=
  ∀ {id r}, n.requests.get? id = some r → DialedTo history id r.peer

/-- What waits at a reply socket was sent to it. -/
def Queued (history : List Deed) (n : Network) : Prop :=
  ∀ {p s x}, n.replies.get? p = some s → x ∈ s.queue → SentTo history p x.1

section Invariants
variable {history : List Deed} {n n' : Network} {a : Act} {out : Output} {p : ReplyId} {e : Endpoint}

theorem address_next (n : Network) : n.address? n.replies.next = none := by
  rw [address?, Pool.get?_next, Option.map_none]

theorem Leased.of_bound (h : Leased history n) {url : String} (hp : n.bound? url = some p) :
    n.address? p = some url := by
  obtain ⟨s, hs, hurl⟩ := h.distinct.get?_of_find? hp
  rw [address?, hs, Option.map_some, of_decide_eq_true hurl]

theorem address_of_unbound {url : String} (h : n.bound? url = none) (p : ReplyId) :
    n.address? p ≠ some url := by
  intro hp
  obtain ⟨s, hs, hurl⟩ := Option.map_eq_some_iff.mp hp
  have htest := Pool.test_of_find?_none h hs
  exact of_decide_eq_false htest hurl

theorem Leased.bound_of_live (h : Leased history n) (hlive : Live history p e) :
    n.bound? e.url = some p := by
  cases hb : n.bound? e.url with
  | none => exact absurd (h.live.mpr hlive) (address_of_unbound hb p)
  | some q => rw [h.alone (h.of_bound hb) (h.live.mpr hlive)]

theorem Leased.unbound (h : Leased history n) (hfree : ¬∃ p, Live history p e) :
    n.bound? e.url = none := by
  cases hb : n.bound? e.url with
  | none => rfl
  | some p => exact absurd ⟨p, h.live.mp (h.of_bound hb)⟩ hfree

theorem Leased.known_next (h : Leased history n) (hl : Lease n n' a out) {url : String}
    (hp : n'.address? p = some url) : ∃ e : Endpoint, e.url = url := by
  cases hl with
  | @bound e _ _ _ haddress =>
    rw [haddress] at hp
    split at hp
    · exact ⟨e, Option.some.inj hp⟩
    · exact h.known hp
  | closed haddress =>
    rw [haddress] at hp
    split at hp
    · cases hp
    · exact h.known hp
  | kept _ _ haddress => exact h.known (haddress p ▸ hp)

theorem Leased.alone_next (h : Leased history n) (hl : Lease n n' a out) {q : ReplyId} {url : String}
    (hp : n'.address? p = some url) (hq : n'.address? q = some url) : p = q := by
  cases hl with
  | bound _ hfree haddress =>
    -- The address that is taken now was free.
    rw [haddress] at hp hq
    split at hp <;> split at hq
    · next heq heq' => rw [heq, heq']
    · cases hp
      exact absurd hq (address_of_unbound hfree q)
    · cases hq
      exact absurd hp (address_of_unbound hfree p)
    · exact h.alone hp hq
  | closed haddress =>
    rw [haddress] at hp hq
    split at hp
    · cases hp
    · split at hq
      · cases hq
      · exact h.alone hp hq
  | kept _ _ haddress => exact h.alone (haddress p ▸ hp) (haddress q ▸ hq)

theorem Leased.live_next (h : Leased history n) (hl : Lease n n' a out) :
    n'.address? p = some e.url ↔ Live (history ++ [⟨n, a, n', out⟩]) p e := by
  rw [live_concat, ← h.live]
  cases hl with
  | @bound e' p' hp' _ haddress =>
    rw [haddress]
    split
    · next heq =>
      rw [heq, hp', address_next, Option.some_inj, Endpoint.url_eq_iff]
      constructor
      · exact fun hsame => .inl ⟨e', ⟨rfl, by rw [← hp']⟩, hsame⟩
      · rintro (⟨_, ⟨hevent, -⟩, hsame⟩ | ⟨hnone, -⟩)
        · cases hevent
          exact hsame
        · cases hnone
    · next hne =>
      constructor
      · exact fun hold => .inr ⟨hold, nofun⟩
      · rintro (⟨_, ⟨-, hout⟩, -⟩ | ⟨hold, -⟩)
        · cases hout
          exact absurd rfl hne
        · exact hold
  | closed haddress =>
    rw [haddress]
    split
    · next heq =>
      constructor
      · exact nofun
      · rintro (⟨_, ⟨hevent, -⟩, -⟩ | ⟨-, hopen⟩)
        · cases hevent
        · exact absurd (congrArg Act.closeReply heq.symm) hopen
    · next hne =>
      constructor
      · refine fun hold => .inr ⟨hold, fun hc => ?_⟩
        cases hc
        exact hne rfl
      · rintro (⟨_, ⟨hevent, -⟩, -⟩ | ⟨hold, -⟩)
        · cases hevent
        · exact hold
  | kept hb hc haddress =>
    rw [haddress]
    constructor
    · exact fun hold => .inr ⟨hold, hc p⟩
    · rintro (⟨_, ⟨-, hout⟩, -⟩ | ⟨hold, -⟩)
      · exact absurd hout (hb p)
      · exact hold

theorem Leased.next (h : Leased history n) (hm : Move n a n' out) :
    Leased (history ++ [⟨n, a, n', out⟩]) n' where
  distinct := hm.distinct h.distinct
  known := h.known_next hm.lease
  live := h.live_next hm.lease
  alone := h.alone_next hm.lease

theorem Connected.next (h : Connected history n) (hl : Leased history n) (hm : Move n a n' out) :
    Connected (history ++ [⟨n, a, n', out⟩]) n' := by
  intro id r' hr'
  cases hm.line with
  | dialed hp hrequests =>
    rw [hrequests] at hr'
    rcases Pool.of_get?_add hr' with ⟨rfl, rfl⟩ | ⟨-, hr⟩
    · exact dialedTo_last ⟨rfl, rfl⟩ (hl.live.mp (hl.of_bound hp))
    · exact (h hr).concat _
  | kept hd hk =>
    obtain ⟨r, hr, hpeer⟩ := hk hr'
    exact hpeer ▸ (h hr).concat _

theorem Queued.next (h : Queued history n) (hc : Connected history n) (hm : Move n a n' out) :
    Queued (history ++ [⟨n, a, n', out⟩]) n' := by
  intro q s' x hs hx
  rcases hm.queue hs hx with ⟨s, hs, hx⟩ | ⟨id, r, ha, hout, hr, rfl⟩
  · exact (h hs hx).concat _
  · exact sentTo_last ⟨ha, hout⟩ (hc hr)

variable {capacity : Nat}

theorem Run.leased (h : Run capacity history n) : Leased history n := by
  induction h with
  | nothing =>
    refine ⟨Pool.distinct_empty, nofun, ⟨nofun, ?_⟩, nofun⟩
    rintro ⟨i, e, hi, -⟩
    cases hi.lt
  | next _ hs ih => exact ih.next (step_move hs)

theorem Run.connected (h : Run capacity history n) : Connected history n := by
  induction h with
  | nothing => exact nofun
  | next hrun hs ih => exact Connected.next ih (Run.leased hrun) (step_move hs)

theorem Run.queued (h : Run capacity history n) : Queued history n := by
  induction h with
  | nothing => exact nofun
  | next hrun hs ih => exact Queued.next ih (Run.connected hrun) (step_move hs)

end Invariants

/-! ## Every run -/

section Runs
variable {capacity : Nat} {history : List Deed} {n n' : Network} {i j : Nat} {p : ReplyId} {id : SocketId}
  {e e' : Endpoint} {frame : Frame}

theorem Run.bound_once (h : Run capacity history n) (hi : At history i (Binds p e))
    (hj : At history j (Binds p e')) : i = j ∧ e = e' := h.opened_once Act.bindReply.inj rfl hi hj

theorem Run.dialed_once (h : Run capacity history n) (hi : At history i (Dials id e))
    (hj : At history j (Dials id e')) : i = j ∧ e = e' := h.opened_once Act.dial.inj rfl hi hj

theorem Run.live_unique (h : Run capacity history n) {q : ReplyId} (hp : Live history p e)
    (hq : Live history q e') (hurl : e.url = e'.url) : p = q :=
  h.leased.alone (h.leased.live.mpr hp) (hurl ▸ h.leased.live.mpr hq)

/-- A reply socket that still holds an address has held it all the time. -/
theorem Run.live_of_take (h : Run capacity history n) (hlive : Live (history.take i) p e) {url : String}
    (hp : n.address? p = some url) : Live history p e := by
  obtain ⟨k, e₀, hk, hhost, hport, -⟩ := hlive
  obtain ⟨e₁, rfl⟩ := h.leased.known hp
  obtain ⟨k', e₂, hk', -, -, hopen⟩ := h.leased.live.mp hp
  obtain ⟨rfl, rfl⟩ := h.bound_once (at_take.mp hk).2 hk'
  exact ⟨k, e₀, hk', hhost, hport, hopen⟩

theorem Run.live_at_dial (h : Run capacity history n) (hi : At history i (Dials id e)) :
    ∃ p, Live (history.take i) p e := by
  obtain ⟨o, ho, hevent, hout⟩ := hi
  obtain ⟨hrun, hs⟩ := h.of_getElem? ho
  have hm := step_move hs
  rw [hevent, hout] at hm
  cases hm.line with
  | dialed hp => exact ⟨_, (Run.leased hrun).live.mp ((Run.leased hrun).of_bound hp)⟩
  | kept hd => exact absurd rfl (hd id)

theorem Run.peer_of_dialed (h : Run capacity history n) (hi : At history i (Dials id e))
    (hlive : Live (history.take i) p e) {r : RequestSocket} (hr : n.requests.get? id = some r) :
    r.peer = p := by
  obtain ⟨k, e', hk, hlive'⟩ := h.connected hr
  obtain ⟨rfl, rfl⟩ := h.dialed_once hk hi
  obtain ⟨o, ho, -⟩ := hk
  exact Run.live_unique (h.of_getElem? ho).1 hlive' hlive rfl

theorem step_sendRequest_done (h : n.step (.sendRequest id frame) = some (n', .done)) :
    n.sendRequest id frame = some (.ok n') := by
  obtain ⟨r, hr, h⟩ := Option.map_eq_some_iff.mp h
  cases r <;> cases h
  exact hr

theorem step_receiveRequest_received (h : n.step (.receiveRequest p) = some (n', .received frame)) :
    n.receiveRequest p = some (.ok frame, n') := by
  obtain ⟨⟨r, n₁⟩, hr, h⟩ := Option.map_eq_some_iff.mp h
  cases r <;> cases h
  exact hr

/-- Nothing can be sent to a reply socket that is closed. -/
theorem sendRequest_refused
    (h : ∀ r, n.requests.get? id = some r → n.replies.get? r.peer = none) (frame : Frame) :
    ∃ why, n.sendRequest id frame = some (.error why) := by
  unfold sendRequest
  split
  · exact ⟨_, rfl⟩
  · next r hr =>
    split
    · exact ⟨_, rfl⟩
    · rw [h r hr]
      exact ⟨_, rfl⟩

theorem Run.sends_to_peer (h : Run capacity history n) (hi : At history i (Dials id e))
    (hlive : Live (history.take i) p e) (hs : n.step (.sendRequest id frame) = some (n', .done)) :
    Live history p e ∧ ∀ q, q ≠ p → n'.replies.get? q = n.replies.get? q := by
  obtain ⟨r, s, hr, -, hpeer, rfl⟩ := sendRequest_ok (step_sendRequest_done hs)
  obtain rfl := h.peer_of_dialed hi hlive hr
  refine ⟨h.live_of_take hlive (congrArg (Option.map ReplySocket.url) hpeer), fun q hq => ?_⟩
  rw [Pool.get?_modify, if_neg hq]

theorem Run.sends_nowhere (h : Run capacity history n) (hi : At history i (Dials id e))
    (hlive : Live (history.take i) p e) (hgone : ¬Live history p e) (frame : Frame) :
    ∃ why, n.step (.sendRequest id frame) = some (n, .refused why) := by
  have hclosed (r) (hr : n.requests.get? id = some r) : n.replies.get? r.peer = none := by
    rw [h.peer_of_dialed hi hlive hr]
    cases hp : n.replies.get? p with
    | none => rfl
    | some s => exact absurd (h.live_of_take hlive (congrArg (Option.map ReplySocket.url) hp)) hgone
  obtain ⟨why, hsend⟩ := sendRequest_refused hclosed frame
  exact ⟨why, by rw [step, hsend]; rfl⟩

theorem Run.takes_sent (h : Run capacity history n) (hj : At history j (Takes p frame)) :
    SentTo (history.take j) p frame := by
  obtain ⟨o, ho, hevent, hout⟩ := hj
  obtain ⟨hrun, hs⟩ := h.of_getElem? ho
  rw [hevent, hout] at hs
  obtain ⟨s, ticket, rest, hget, hqueue, -⟩ := receiveRequest_ok (step_receiveRequest_received hs)
  exact Run.queued hrun hget (hqueue ▸ List.mem_cons_self)

/-- Whatever is done on a network, reply sockets that are there have different addresses. Binding one
succeeds if and only if no other has its address, and dialing if and only if one has; where they fail, they
change nothing. A socket that was dialed sends to the reply socket that was there then and to no other, and
when that is closed each of its sends fails; whatever a reply socket receives was sent so. Two endpoints have
the same address if and only if they agree in host and port. -/
theorem reply_addresses_exclusive (h : Run capacity history n) :
    (∀ {p q} {e e' : Endpoint}, Live history p e → Live history q e' → e.url = e'.url → p = q) ∧
    (∀ e : Endpoint, (∃ p, Live history p e) →
      n.step (.bindReply e) = some (n, .refused (.bind e.url "address in use")) ∧
        ∃ id n', n.step (.dial e) = some (n', .dialed id)) ∧
    (∀ e : Endpoint, (¬∃ p, Live history p e) →
      (∃ p n', n.step (.bindReply e) = some (n', .bound p)) ∧
        n.step (.dial e) = some (n, .refused (.connect e.url "no reply socket bound"))) ∧
    (∀ {i j p} {e e' : Endpoint}, At history i (Binds p e) → At history j (Binds p e') → i = j) ∧
    (∀ {i j id} {e e' : Endpoint}, At history i (Dials id e) → At history j (Dials id e') → i = j) ∧
    (∀ {i id} {e : Endpoint}, At history i (Dials id e) → ∃ p, Live (history.take i) p e ∧
      (∀ {frame n'}, n.step (.sendRequest id frame) = some (n', .done) →
        Live history p e ∧ ∀ q, q ≠ p → n'.replies.get? q = n.replies.get? q) ∧
      (¬Live history p e → ∀ frame, ∃ why, n.step (.sendRequest id frame) = some (n, .refused why))) ∧
    (∀ {j p frame}, At history j (Takes p frame) → SentTo (history.take j) p frame) ∧
    ∀ e e' : Endpoint, e.url = e'.url ↔ e.host = e'.host ∧ e.port = e'.port := by
  refine ⟨h.live_unique, fun e hlive => ?_, fun e hfree => ?_, fun hi hj => (h.bound_once hi hj).1,
    fun hi hj => (h.dialed_once hi hj).1, fun {i id e} hi => ?_, h.takes_sent, fun _ _ => Endpoint.url_eq_iff⟩
  · obtain ⟨p, hlive⟩ := hlive
    have hbound := h.leased.bound_of_live hlive
    exact ⟨by rw [step, bindReply, hbound], _, _, by rw [step, dial_of_bound hbound]⟩
  · have hfree := h.leased.unbound hfree
    have hbind : n.bindReply e.url =
        .ok (n.replies.next, { n with replies := n.replies.add ⟨e.url, [], none⟩ }) := by
      rw [bindReply, hfree]
    exact ⟨⟨_, _, by rw [step, hbind]⟩, by rw [step, dial, hfree]⟩
  · obtain ⟨p, hlive⟩ := h.live_at_dial hi
    exact ⟨p, hlive, h.sends_to_peer hi hlive, h.sends_nowhere hi hlive⟩

/-- A server is closed and another is bound to its address: what was dialed to the first does not reach the
second, which can be dialed. -/
theorem reply_addresses_exclusive_rebound :
    let e : Endpoint := ⟨"gauge", "::1", 7000, none, none⟩
    ∃ history n, Run 16 history n ∧
      history.map (fun o => (o.event, o.output)) =
        [(.bindReply e, .bound 0), (.dial e, .dialed 0), (.sendRequest 0 [1], .done),
          (.receiveRequest 0, .received [1]), (.dial e, .dialed 1), (.closeReply 0, .done),
          (.bindReply e, .bound 1)] ∧
      Live history 1 e ∧ ¬Live history 0 e ∧
      (∀ frame, ∃ why, n.step (.sendRequest 1 frame) = some (n, .refused why)) ∧
      (∃ id n', n.step (.dial e) = some (n', .dialed id)) ∧ SentTo (history.take 3) 0 [1] := by
  intro e
  have hread : (follow step (.new 16) [.bindReply e, .dial e, .sendRequest 0 [1], .receiveRequest 0, .dial e,
      .closeReply 0, .bindReply e]).map (fun r => r.1.map fun o => (o.event, o.output)) =
      some [(.bindReply e, .bound 0), (.dial e, .dialed 0), (.sendRequest 0 [1], .done),
        (.receiveRequest 0, .received [1]), (.dial e, .dialed 1), (.closeReply 0, .done),
        (.bindReply e, .bound 1)] := by decide +kernel
  obtain ⟨history, n, hrun, -, hdeeds⟩ := Occurs.of_reading hread
  have hlength : history.length = 7 := by simpa using congrArg List.length hdeeds
  have hsecond : At history 6 (Binds 1 e) := at_of_deeds hdeeds rfl
  have hlive : Live history 1 e := by
    refine ⟨6, e, hsecond, rfl, rfl, fun j hj hc => ?_⟩
    have hlt := hc.lt
    omega
  obtain ⟨halone, htaken, -, hbinds, -, hdials, htakes, -⟩ := reply_addresses_exclusive hrun
  obtain ⟨p, hthen, -, hgone⟩ := hdials (at_of_deeds hdeeds rfl : At history 4 (Dials 1 e))
  refine ⟨history, n, hrun, hdeeds, hlive, fun hfirst => ?_, hgone fun hp => ?_, (htaken e ⟨1, hlive⟩).2,
    htakes (at_of_deeds hdeeds rfl)⟩
  · cases halone hfirst hlive rfl
  · -- What is there now was not there when the socket was dialed.
    obtain rfl := halone hp hlive rfl
    obtain ⟨k, e', hk, -⟩ := hthen
    obtain ⟨hlt, hk⟩ := at_take.mp hk
    have hposition := hbinds hk hsecond
    omega

end Runs
end Network
end MessageBus
