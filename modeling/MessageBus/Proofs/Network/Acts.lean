import MessageBus.Endpoint
import MessageBus.Proofs.History
import MessageBus.Proofs.Network.Broadcasts
import MessageBus.Proofs.Network.Operations
/-!
# Whatever is done on a network

Anybody may bind and dial sockets on a network, and whoever holds a socket may use it and close it. What
they do is a history of `Act`s, in the order in which these take effect; an operation that has to wait takes
effect when it need not wait any more, and one that is given up while it waits takes none. `Move` tells how
each act can end. `Run.named_once`: a number that was given to a socket is never given to another of its kind.
-/
namespace MessageBus.Network
set_option autoImplicit false

/-! ## Acts -/

inductive Act
  | bindReply (e : Endpoint)
  | closeReply (p : ReplyId)
  | dial (e : Endpoint)
  | closeRequest (id : SocketId)
  | sendRequest (id : SocketId) (frame : Frame)
  | receiveReply (id : SocketId)
  | receiveRequest (p : ReplyId)
  | sendReply (p : ReplyId) (frame : Frame)
  /-- A sink is bound to an endpoint. -/
  | bindSink (e : Endpoint)
  /-- A frame is sent on a sink that is bound to an endpoint. -/
  | publish (e : Endpoint) (frame : Frame)
  /-- A source is attached to an endpoint. -/
  | connect (e : Endpoint)
  | closeSource (id : SourceId)
  | receiveBroadcast (id : SourceId)
deriving DecidableEq

inductive Output
  | done
  | bound (p : ReplyId)
  | dialed (id : SocketId)
  | connected (id : SourceId)
  | received (frame : Frame)
  | refused (why : SocketError)
deriving DecidableEq

def Output.of : Except SocketError Frame → Output
  | .ok frame => .received frame
  | .error why => .refused why

/-- An operation that fails leaves the network as it was. -/
def settle (n : Network) : Except SocketError Network → Network × Output
  | .ok n' => (n', .done)
  | .error why => (n, .refused why)

/-- What an act makes of a network; `none` if it cannot take effect now. -/
def step (n : Network) : Act → Option (Network × Output)
  | .bindReply e =>
    match n.bindReply e.url with
    | .ok (p, n') => some (n', .bound p)
    | .error why => some (n, .refused why)
  | .closeReply p => some (n.closeReply p, .done)
  | .dial e =>
    match n.dial e.url with
    | .ok (id, n') => some (n', .dialed id)
    | .error why => some (n, .refused why)
  | .closeRequest id => some (n.closeRequest id, .done)
  | .sendRequest id frame => (n.sendRequest id frame).map n.settle
  | .receiveReply id => (n.receiveReply id).map fun (r, n') => (n', .of r)
  | .receiveRequest p => (n.receiveRequest p).map fun (r, n') => (n', .of r)
  | .sendReply p frame => some (n.settle (n.sendReply p frame))
  | .bindSink e => (n.openChannel e.url).map fun n' => (n', .done)
  | .publish e frame =>
    if n.channels.contains e.url then some (n.publish e.url frame, .done) else none
  | .connect e => (n.connect e.url).map fun (id, n') => (n', .connected id)
  | .closeSource id => some (n.closeSource id, .done)
  | .receiveBroadcast id => (n.receiveBroadcast id).map fun (frame, n') => (n', .received frame)

abbrev Deed := Occurrence Network Act Output

/-- What is done on a network on which nothing was bound. -/
def Run (capacity : Nat) : List Deed → Network → Prop := Occurs step (.new capacity)

/-! ## How acts can end -/

/-- Whether a socket is opened or something is sent on it, so that the network may refuse it as it stands. -/
def Act.mayFail : Act → Bool
  | .bindReply _ | .dial _ | .sendRequest _ _ | .sendReply _ _ => true
  | _ => false

inductive Move (n : Network) : Act → Network → Output → Prop
  | binds {e : Endpoint} {p : ReplyId} {n' : Network} (h : n.bindReply e.url = .ok (p, n')) :
      Move n (.bindReply e) n' (.bound p)
  | closes {p : ReplyId} : Move n (.closeReply p) (n.closeReply p) .done
  | dials {e : Endpoint} {id : SocketId} {n' : Network} (h : n.dial e.url = .ok (id, n')) :
      Move n (.dial e) n' (.dialed id)
  | hangsUp {id : SocketId} : Move n (.closeRequest id) (n.closeRequest id) .done
  | asks {id : SocketId} {frame : Frame} {n' : Network} (h : n.sendRequest id frame = some (.ok n')) :
      Move n (.sendRequest id frame) n' .done
  | gets {id : SocketId} {r : Except SocketError Frame} {n' : Network}
      (h : n.receiveReply id = some (r, n')) : Move n (.receiveReply id) n' (.of r)
  | takes {p : ReplyId} {r : Except SocketError Frame} {n' : Network}
      (h : n.receiveRequest p = some (r, n')) : Move n (.receiveRequest p) n' (.of r)
  | answers {p : ReplyId} {frame : Frame} {n' : Network} (h : n.sendReply p frame = .ok n') :
      Move n (.sendReply p frame) n' .done
  | opens {e : Endpoint} {n' : Network} (h : n.openChannel e.url = some n') :
      Move n (.bindSink e) n' .done
  | publishes {e : Endpoint} {frame : Frame} (h : n.channels.contains e.url = true) :
      Move n (.publish e frame) (n.publish e.url frame) .done
  | connects {e : Endpoint} {id : SourceId} {n' : Network} (h : n.connect e.url = some (id, n')) :
      Move n (.connect e) n' (.connected id)
  | leaves {id : SourceId} : Move n (.closeSource id) (n.closeSource id) .done
  | hears {id : SourceId} {frame : Frame} {n' : Network} (h : n.receiveBroadcast id = some (frame, n')) :
      Move n (.receiveBroadcast id) n' (.received frame)
  | refused {a : Act} {why : SocketError} (ha : a.mayFail = true) : Move n a n (.refused why)

section Moves
variable {n n' : Network} {a : Act} {out : Output}

theorem step_move (h : n.step a = some (n', out)) : Move n a n' out := by
  cases a with
  | bindReply e =>
    simp only [step] at h
    split at h
    · next hb =>
      cases h
      exact .binds hb
    · cases h
      exact .refused rfl
  | closeReply p =>
    cases h
    exact .closes
  | dial e =>
    simp only [step] at h
    split at h
    · next hd =>
      cases h
      exact .dials hd
    · cases h
      exact .refused rfl
  | closeRequest id =>
    cases h
    exact .hangsUp
  | sendRequest id frame =>
    obtain ⟨r, hr, h⟩ := Option.map_eq_some_iff.mp h
    cases r <;> cases h
    · exact .refused rfl
    · exact .asks hr
  | receiveReply id =>
    obtain ⟨⟨r, n₁⟩, hr, h⟩ := Option.map_eq_some_iff.mp h
    cases h
    exact .gets hr
  | receiveRequest p =>
    obtain ⟨⟨r, n₁⟩, hr, h⟩ := Option.map_eq_some_iff.mp h
    cases h
    exact .takes hr
  | sendReply p frame =>
    simp only [step] at h
    cases hr : n.sendReply p frame with
    | error why =>
      rw [hr] at h
      cases h
      exact .refused rfl
    | ok n₁ =>
      rw [hr] at h
      cases h
      exact .answers hr
  | bindSink e =>
    obtain ⟨n₁, hn, h⟩ := Option.map_eq_some_iff.mp h
    cases h
    exact .opens hn
  | publish e frame =>
    simp only [step] at h
    split at h
    · next hc =>
      cases h
      exact .publishes hc
    · cases h
  | connect e =>
    obtain ⟨⟨id, n₁⟩, hc, h⟩ := Option.map_eq_some_iff.mp h
    cases h
    exact .connects hc
  | closeSource id =>
    cases h
    exact .leaves
  | receiveBroadcast id =>
    obtain ⟨⟨frame, n₁⟩, hr, h⟩ := Option.map_eq_some_iff.mp h
    cases h
    exact .hears hr

/-! ## What an act leaves alone -/

/-- Whether an act is about broadcasts, and not about requests and their replies. -/
def Act.isBroadcast : Act → Bool
  | .bindSink _ | .publish _ _ | .connect _ | .closeSource _ | .receiveBroadcast _ => true
  | _ => false

theorem isBroadcast_of_mayFail (h : a.mayFail = true) : a.isBroadcast = false := by
  cases a <;> first | rfl | cases h

/-- Requests and replies do not notice broadcasts. -/
theorem Move.offLine (h : Move n a n' out) (ha : a.isBroadcast = true) :
    n'.replies = n.replies ∧ n'.requests = n.requests ∧ n'.tickets = n.tickets := by
  cases h with
  | opens h =>
    obtain ⟨_, rfl, -⟩ := openChannel_some h
    exact ⟨rfl, rfl, rfl⟩
  | publishes =>
    unfold publish
    split
    · exact ⟨rfl, rfl, rfl⟩
    · split <;> exact ⟨rfl, rfl, rfl⟩
  | connects h =>
    obtain ⟨n₁, hopen, hadd⟩ := Option.map_eq_some_iff.mp h
    cases hadd
    obtain ⟨_, rfl, -⟩ := openChannel_some hopen
    exact ⟨rfl, rfl, rfl⟩
  | leaves => exact ⟨rfl, rfl, rfl⟩
  | hears h =>
    obtain ⟨change, rfl⟩ := receiveBroadcast_some h
    exact ⟨rfl, rfl, rfl⟩
  | refused hf => cases (isBroadcast_of_mayFail hf).symm.trans ha
  | binds | closes | dials | hangsUp | asks | gets | takes | answers => cases ha

/-- Broadcasts do not notice requests and replies. -/
theorem Move.offAir (h : Move n a n' out) (ha : a.isBroadcast = false) : OffAir n n' := by
  cases h with
  | binds h =>
    obtain ⟨-, -, rfl⟩ := bindReply_new h
    exact ⟨rfl, rfl, rfl⟩
  | closes => exact closeReply_offAir ..
  | dials h => exact dial_offAir h
  | hangsUp => exact closeRequest_offAir ..
  | asks h => exact sendRequest_offAir h
  | gets h => exact receiveReply_offAir h
  | takes h => exact receiveRequest_offAir h
  | answers h => exact sendReply_offAir h
  | refused => exact .refl n
  | opens | publishes | connects | leaves | hears => cases ha

/-! ## Numbers of sockets -/

/-- A number together with the kind of socket that it names. -/
inductive Name
  | reply (p : ReplyId)
  | request (id : SocketId)
  | source (id : SourceId)

/-- The socket that an act brought about. -/
def Output.name? : Output → Option Name
  | .bound p => some (.reply p)
  | .dialed id => some (.request id)
  | .connected id => some (.source id)
  | .done | .received _ | .refused _ => none

/-- The number was given out. -/
def Given (n : Network) : Name → Prop
  | .reply p => p < n.replies.next
  | .request id => id < n.requests.next
  | .source id => id < n.sources.next

theorem Move.replies_next (h : Move n a n' out) : n.replies.next ≤ n'.replies.next := by
  cases ha : a.isBroadcast with
  | true => exact Nat.le_of_eq (congrArg _ (h.offLine ha).1.symm)
  | false =>
    cases h with
    | binds h =>
      obtain ⟨-, -, rfl⟩ := bindReply_new h
      exact Nat.le_succ _
    | closes =>
      unfold closeReply
      split <;> exact Nat.le_refl _
    | dials h => exact Nat.le_of_eq (congrArg _ (dial_calm h).replies.symm)
    | hangsUp => exact Nat.le_of_eq (congrArg _ (closeRequest_calm ..).replies.symm)
    | asks h =>
      obtain ⟨_, _, -, -, -, rfl⟩ := sendRequest_ok h
      exact Nat.le_refl _
    | gets h => exact Nat.le_of_eq (congrArg _ (receiveReply_replies h).symm)
    | @takes _ r _ h =>
      cases r with
      | ok frame =>
        obtain ⟨_, _, _, -, -, rfl⟩ := receiveRequest_ok h
        exact Nat.le_refl _
      | error why => exact Nat.le_of_eq (by rw [receiveRequest_error h])
    | answers h =>
      obtain ⟨_, _, -, -, rfl⟩ := sendReply_ok h
      exact Nat.le_refl _
    | refused => exact Nat.le_refl _
    | opens | publishes | connects | leaves | hears => cases ha

theorem Move.requests_next (h : Move n a n' out) : n.requests.next ≤ n'.requests.next := by
  cases ha : a.isBroadcast with
  | true => exact Nat.le_of_eq (congrArg _ (h.offLine ha).2.1.symm)
  | false =>
    cases h with
    | binds h => exact Nat.le_of_eq (congrArg _ (bindReply_requests h).symm)
    | closes => exact Nat.le_of_eq (congrArg _ (closeReply_requests ..).symm)
    | dials h => exact (dial_spares none h).next
    | hangsUp => exact (closeRequest_spares ..).next
    | asks h => exact (sendRequest_spares h).next
    | gets h => exact (receiveReply_spares h).next
    | takes h => exact Nat.le_of_eq (congrArg _ (receiveRequest_requests h).symm)
    | answers h => exact Nat.le_of_eq (congrArg _ (sendReply_requests h).symm)
    | refused => exact Nat.le_refl _
    | opens | publishes | connects | leaves | hears => cases ha

theorem Move.sources_next (h : Move n a n' out) : n.sources.next ≤ n'.sources.next := by
  cases ha : a.isBroadcast with
  | false => exact Nat.le_of_eq (congrArg _ (h.offAir ha).sources.symm)
  | true =>
    cases h with
    | opens h =>
      obtain ⟨_, rfl, -⟩ := openChannel_some h
      exact Nat.le_refl _
    | publishes => exact Nat.le_of_eq (congrArg _ (publish_sources ..).symm)
    | connects h =>
      obtain ⟨-, -, -, position, hsources, -⟩ := connect_some h
      rw [hsources]
      exact Nat.le_succ _
    | leaves => exact Nat.le_refl _
    | hears h =>
      obtain ⟨change, rfl⟩ := receiveBroadcast_some h
      exact Nat.le_refl _
    | refused => exact Nat.le_refl _
    | binds | closes | dials | hangsUp | asks | gets | takes | answers => cases ha

theorem Move.given (h : Move n a n' out) {name : Name} (hn : n.Given name) : n'.Given name := by
  cases name with
  | reply p => exact Nat.lt_of_lt_of_le hn h.replies_next
  | request id => exact Nat.lt_of_lt_of_le hn h.requests_next
  | source id => exact Nat.lt_of_lt_of_le hn h.sources_next

/-- The number of a socket is new when the socket is opened. -/
theorem Move.gives (h : Move n a n' out) {name : Name} (hn : out.name? = some name) :
    ¬n.Given name ∧ n'.Given name := by
  cases h with
  | binds h =>
    obtain ⟨rfl, -, rfl⟩ := bindReply_new h
    cases hn
    exact ⟨Nat.lt_irrefl _, Nat.lt_succ_self _⟩
  | dials h =>
    obtain ⟨rfl, peer, rfl⟩ := dial_ok h
    cases hn
    exact ⟨Nat.lt_irrefl _, Nat.lt_succ_self _⟩
  | connects h =>
    obtain ⟨rfl, -, -, position, hsources, -⟩ := connect_some h
    cases hn
    refine ⟨Nat.lt_irrefl _, ?_⟩
    rw [Given, hsources]
    exact Nat.lt_succ_self _
  | @gets _ r | @takes _ r => cases r <;> cases hn
  | closes | hangsUp | asks | answers | opens | publishes | leaves | hears | refused => cases hn

end Moves

/-! ## Runs -/

section Runs
variable {capacity : Nat} {history : List Deed} {n : Network}

theorem Run.given (h : Run capacity history n) {i : Nat} {name : Name}
    (hi : At history i fun o => o.output.name? = some name) : n.Given name := by
  induction h with
  | nothing => cases hi.lt
  | next _ hs ih =>
    rcases at_concat.mp hi with hi | ⟨-, hn⟩
    · exact (step_move hs).given (ih hi)
    · exact ((step_move hs).gives hn).2

/-- No two sockets of a kind ever have the same number. -/
theorem Run.named_once (h : Run capacity history n) {i j : Nat} {name : Name}
    (hi : At history i fun o => o.output.name? = some name)
    (hj : At history j fun o => o.output.name? = some name) : i = j := by
  -- At the later of two positions the number would have been given out before.
  have hlater {i j : Nat} (hi : At history i fun o => o.output.name? = some name)
      (hj : At history j fun o => o.output.name? = some name) : ¬i < j := by
    intro hij
    obtain ⟨o, ho, hn⟩ := hj
    obtain ⟨hrun, hs⟩ := h.of_getElem? ho
    exact ((step_move hs).gives hn).1 (Run.given hrun (at_take.mpr ⟨hij, hi⟩))
  have hij := hlater hi hj
  have hji := hlater hj hi
  omega

/-- A socket is opened once, on one endpoint. -/
theorem Run.opened_once (h : Run capacity history n) {name : Name} {act : Endpoint → Act} {out : Output}
    {e e' : Endpoint} {i j : Nat} (hact : ∀ {e e'}, act e = act e' → e = e') (hout : out.name? = some name)
    (hi : At history i fun o => o.event = act e ∧ o.output = out)
    (hj : At history j fun o => o.event = act e' ∧ o.output = out) : i = j ∧ e = e' := by
  have hname {e₀} (o : Deed) (ho : o.event = act e₀ ∧ o.output = out) : o.output.name? = some name :=
    ho.2 ▸ hout
  obtain rfl := h.named_once (hi.imp hname) (hj.imp hname)
  obtain ⟨o, ho, hevent, -⟩ := hi
  obtain ⟨o', ho', hevent', -⟩ := hj
  cases ho.symm.trans ho'
  exact ⟨rfl, hact (hevent.symm.trans hevent')⟩

end Runs
end MessageBus.Network
