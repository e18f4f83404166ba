import MessageBus.Proofs.Client.Caller
/-!
# How a client uses its sockets

`sockets_used_in_turn`: on every socket that a client is given, sends and receives alternate, each after
the one before it was completed; after one that failed, took too long or was interrupted, the socket is
closed. The client dials only while it holds no socket, and a cancelled call leaves it without one.

`Stage` says how far a socket has come in its life, and `Stage.after` which uses it admits there. `Flow`
sums up what an occurrence can do with sockets, and `Tracked` says that what a history did with a socket
brought it to the stage at which its caller's state puts it.
-/
namespace MessageBus.Caller
set_option autoImplicit false

/-! ## Uses -/

/-- What happens to a socket. -/
inductive Use
  | opened
  | send
  | sent
  | receive
  | received
  /-- The operation under way fails, takes too long, or is interrupted by a cancellation. -/
  | spoiled
  | closed
deriving DecidableEq

/-- The socket that a dial gives to the client. -/
def opened? (o : Deed) : Option SocketId :=
  match o.before.activity, o.event with
  | .connecting, .dialed (.ok socket) => some socket
  | .calling ⟨_, _, .dialing⟩ _, .act (.dialed socket) => some socket
  | _, _ => none

def ending? (o : Deed) : Option Use :=
  match o.before.activity, o.event with
  | .calling ⟨_, _, .sending⟩ _, .act .sent => some .sent
  | .calling ⟨_, _, .receiving⟩ _, .act (.received _) => some .received
  | .calling call _, .act e =>
    if call.phase.fails e || call.phase.exchanging && e = .cancelled then some .spoiled else none
  | _, _ => none

def beginning? (o : Deed) : Option Use :=
  match o.event, o.after.activity with
  | .act _, .calling ⟨_, _, .sending⟩ _ => some .send
  | .act _, .calling ⟨_, _, .receiving⟩ _ => some .receive
  | _, _ => none

/-- What an occurrence does with a socket, in order. -/
def usesBy (id : SocketId) (o : Deed) : List Use :=
  (if o.before.client.socket = some id then (ending? o).toList else [])
    ++ (if o.before.client.socket = some id ∧ o.after.client.socket ≠ some id then [.closed] else [])
    ++ (if opened? o = some id then [.opened] else [])
    ++ (if o.after.client.socket = some id then (beginning? o).toList else [])

def usesOf (id : SocketId) (history : List Deed) : List Use := history.flatMap (usesBy id)

def opened (history : List Deed) : List SocketId := history.filterMap opened?

/-! ## Stages -/

/-- How far a socket has come. -/
inductive Stage
  | unopened
  | ready
  | sending
  | awaiting
  | receiving
  | spoiled
  | closed
deriving DecidableEq

namespace Stage

/-- The stage after a use; `none` if the socket does not admit it. -/
def after : Stage → Use → Option Stage
  | .unopened, .opened => some .ready
  | .ready, .send => some .sending
  | .sending, .sent => some .awaiting
  | .awaiting, .receive => some .receiving
  | .receiving, .received => some .ready
  | .sending, .spoiled | .receiving, .spoiled => some .spoiled
  | .ready, .closed | .spoiled, .closed => some .closed
  | _, _ => none

/-- The stage to which uses bring a socket, if it admits them all. -/
def afterAll (s : Stage) (uses : List Use) : Option Stage := uses.foldlM after s

def held : Stage → Bool
  | .unopened | .closed => false
  | .ready | .sending | .awaiting | .receiving | .spoiled => true

theorem afterAll_append (s : Stage) (uses more : List Use) :
    s.afterAll (uses ++ more) = (s.afterAll uses).bind fun s' => s'.afterAll more :=
  List.foldlM_append

end Stage

/-- The stage at which a caller's state puts the socket that it holds. -/
def stage (u : Caller) : Stage :=
  match u.activity with
  | .calling ⟨_, _, .sending⟩ _ => .sending
  | .calling ⟨_, _, .receiving⟩ _ => .receiving
  | _ => .ready

theorem stage_held (u : Caller) : u.stage.held = true := by
  unfold stage
  split <;> rfl

/-! ## What an occurrence does with sockets -/

/-- What an occurrence does with the socket of its caller, and where that leaves the socket. -/
inductive Flow (o : Deed) : Prop
  | still (hs : o.after.client.socket = o.before.client.socket) (ho : opened? o = none)
      (he : ending? o = none) (hb : beginning? o = none) (ht : o.after.stage = o.before.stage)
  | turns {id : SocketId} (hs : o.before.client.socket = some id)
      (hs' : o.after.client.socket = some id) (ho : opened? o = none)
      (ht : o.before.stage.afterAll ((ending? o).toList ++ (beginning? o).toList) =
        some o.after.stage)
  | closes {id : SocketId} (hs : o.before.client.socket = some id)
      (hs' : o.after.client.socket = none) (ho : opened? o = none)
      (ht : o.before.stage.afterAll ((ending? o).toList ++ [.closed]) = some .closed)
  | opens {id : SocketId} (hs : o.before.client.socket = none)
      (hs' : o.after.client.socket = some id) (ho : opened? o = some id)
      (ht : Stage.unopened.afterAll (.opened :: (beginning? o).toList) = some o.after.stage)

/-- A caller whose call gives up the socket in the middle of an exchange. -/
theorem flow_spoiled {c : Client} {call : Call} {signal? : Option Bool} {e : Call.Event} {u' : Caller}
    {out : Output} (hq : Equipped ⟨c, .calling call signal?⟩)
    (he : ending? ⟨⟨c, .calling call signal?⟩, .act e, u', out⟩ = some .spoiled)
    (hp : call.phase.exchanging = true) (hs' : u'.client.socket = none)
    (ho : opened? ⟨⟨c, .calling call signal?⟩, .act e, u', out⟩ = none) :
    Flow ⟨⟨c, .calling call signal?⟩, .act e, u', out⟩ := by
  obtain ⟨request, k, phase⟩ := call
  cases phase with
  | checking | dialing | pausing => cases hp
  | sending | receiving =>
    obtain ⟨id, hs⟩ := Option.isSome_iff_exists.mp hq
    exact .closes hs hs' ho (by rw [he]; rfl)

theorem goesOn_flow {c c' : Client} {call call' : Call} {signal? : Option Bool} {e : Call.Event}
    {ms : List Telemetry.Metric} {out : Output} (hq : Equipped ⟨c, .calling call signal?⟩)
    (hm : Call.Move (signal?.getD false) c call e (.running c' call') ms) :
    Flow ⟨⟨c, .calling call signal?⟩, .act e, ⟨c', .calling call' signal?⟩, out⟩ := by
  obtain ⟨request, k, phase⟩ := call
  cases hm with
  | reuses hp _ _ hs =>
    obtain rfl : phase = .checking := hp
    obtain ⟨id, hs⟩ := Option.isSome_iff_exists.mp hs
    exact .turns hs hs rfl rfl
  | dials hp =>
    obtain rfl : phase = .checking := hp
    exact .still rfl rfl rfl rfl rfl
  | dialed hp =>
    obtain rfl : phase = .dialing := hp
    exact .opens hq (Client.install_socket ..) rfl rfl
  | undialed hp he =>
    obtain rfl : phase = .dialing := hp
    obtain rfl | ⟨why, rfl⟩ := he <;> exact .still rfl rfl rfl rfl rfl
  | rested hp =>
    obtain rfl : phase = .pausing := hp
    exact .still rfl rfl rfl rfl rfl
  | sent hp =>
    obtain rfl : phase = .sending := hp
    obtain ⟨id, hs⟩ := Option.isSome_iff_exists.mp hq
    exact .turns hs hs rfl rfl
  | failed he =>
    have hp : phase.exchanging = true := by cases phase <;> first | rfl | cases he
    refine flow_spoiled hq ?_ hp (Client.discard_socket c) ?_
    · cases phase <;> cases e <;> first | rfl | cases he
    · cases phase <;> first | rfl | cases he

theorem ends_flow {c c' : Client} {call : Call} {signal? : Option Bool} {e : Call.Event}
    {r : Except CallError Reply} {ms : List Telemetry.Metric} {out : Output}
    (hq : Equipped ⟨c, .calling call signal?⟩)
    (hm : Call.Move (signal?.getD false) c call e (.finished c' r) ms) :
    Flow ⟨⟨c, .calling call signal?⟩, .act e, ⟨c', .idle⟩, out⟩ := by
  obtain ⟨request, k, phase⟩ := call
  cases hm with
  | exhausted hp =>
    obtain rfl : phase = .checking := hp
    exact .still rfl rfl rfl rfl rfl
  | forestalled hp =>
    obtain rfl : phase = .checking := hp
    cases hs : c.socket with
    | none => exact .still ((Client.discard_socket c).trans hs.symm) rfl rfl rfl rfl
    | some id => exact .closes hs (Client.discard_socket c) rfl rfl
  | answered hp =>
    obtain rfl : phase = .receiving := hp
    obtain ⟨id, hs⟩ := Option.isSome_iff_exists.mp hq
    exact .turns hs hs rfl rfl
  | abandoned hp =>
    cases phase with
    | checking => exact absurd rfl hp
    | dialing | pausing => exact .still ((Client.discard_socket c).trans hq.symm) rfl rfl rfl rfl
    | sending | receiving => exact flow_spoiled hq rfl rfl (Client.discard_socket c) rfl

theorem move_flow {u u' : Caller} {e : Event} {out : Output} (hq : Equipped u) (hm : Move u e u' out) :
    Flow ⟨u, e, u', out⟩ := by
  obtain ⟨c, activity⟩ := u
  cases hm with
  | kept h | asked h =>
    obtain rfl : activity = .idle := h
    exact .still rfl rfl rfl rfl rfl
  | connects h =>
    obtain rfl : activity = .idle := h
    exact .still rfl rfl rfl rfl rfl
  | connected h =>
    obtain rfl : activity = .connecting := h
    exact .opens hq (Client.install_socket ..) rfl rfl
  | unconnected h =>
    obtain rfl : activity = .connecting := h
    exact .still rfl rfl rfl rfl rfl
  | @signalled call _ h =>
    obtain ⟨request, k, phase⟩ := call
    obtain rfl : activity = .calling ⟨request, k, phase⟩ (some _) := h
    cases phase <;> exact .still rfl rfl rfl rfl rfl
  | goesOn h hm =>
    obtain rfl : activity = .calling _ _ := h
    exact goesOn_flow hq hm
  | ends h hm =>
    obtain rfl : activity = .calling _ _ := h
    exact ends_flow hq hm

/-! ## Histories -/

/-- The stage to which a history has brought a socket. -/
def stageOf (history : List Deed) (u : Caller) (id : SocketId) : Stage :=
  if u.client.socket = some id then u.stage
  else if id ∈ opened history then .closed
  else .unopened

/-- A history and its uses of sockets agree with the state to which it led. -/
structure Tracked (history : List Deed) (u : Caller) : Prop where
  known : ∀ id, u.client.socket = some id → id ∈ opened history
  stages : ∀ id, Stage.unopened.afterAll (usesOf id history) = some (stageOf history u id)

section Histories
variable {history : List Deed} {o : Deed} {id : SocketId}

theorem usesOf_concat (id : SocketId) (history : List Deed) (o : Deed) :
    usesOf id (history ++ [o]) = usesOf id history ++ usesBy id o := by
  simp [usesOf]

theorem opened_none (h : opened? o = none) : opened (history ++ [o]) = opened history := by
  simp [opened, h]

theorem opened_some (h : opened? o = some id) : opened (history ++ [o]) = opened history ++ [id] := by
  simp [opened, h]

/-- Nothing is done with a socket that is neither held nor opened. -/
theorem usesBy_other (hs : o.before.client.socket ≠ some id) (hs' : o.after.client.socket ≠ some id)
    (ho : opened? o ≠ some id) : usesBy id o = [] := by
  simp [usesBy, hs, hs', ho]

theorem usesBy_kept (hs : o.before.client.socket = some id) (hs' : o.after.client.socket = some id)
    (ho : opened? o = none) : usesBy id o = (ending? o).toList ++ (beginning? o).toList := by
  simp [usesBy, hs, hs', ho]

theorem usesBy_closed (hs : o.before.client.socket = some id) (hs' : o.after.client.socket = none)
    (ho : opened? o = none) : usesBy id o = (ending? o).toList ++ [.closed] := by
  simp [usesBy, hs, hs', ho]

theorem usesBy_opened (hs : o.before.client.socket = none) (hs' : o.after.client.socket = some id)
    (ho : opened? o = some id) : usesBy id o = .opened :: (beginning? o).toList := by
  simp [usesBy, hs, hs', ho]

/-- A socket to which nothing happens stays at its stage. -/
theorem stages_other (h : Stage.unopened.afterAll (usesOf id history) = some (stageOf history o.before id))
    (hs : o.before.client.socket ≠ some id) (hs' : o.after.client.socket ≠ some id)
    (ho : opened? o ≠ some id) :
    Stage.unopened.afterAll (usesOf id (history ++ [o])) =
      some (stageOf (history ++ [o]) o.after id) := by
  have hmem : id ∈ opened (history ++ [o]) ↔ id ∈ opened history := by
    cases ho' : opened? o with
    | none => rw [opened_none ho']
    | some id' =>
      have hne : id ≠ id' := fun e => ho (e ▸ ho')
      rw [opened_some ho', List.mem_append, List.mem_singleton]
      exact or_iff_left hne
  rw [usesOf_concat, usesBy_other hs hs' ho, List.append_nil, h]
  simp only [stageOf, if_neg hs, if_neg hs', hmem]

theorem stages_used {uses : List Use} {s t : Stage} (hu : usesBy id o = uses)
    (h : Stage.unopened.afterAll (usesOf id history) = some s) (ht : s.afterAll uses = some t) :
    Stage.unopened.afterAll (usesOf id (history ++ [o])) = some t := by
  rw [usesOf_concat, hu, Stage.afterAll_append, h]
  exact ht

theorem Tracked.next (h : Tracked history o.before) (hf : Flow o)
    (hfresh : ∀ id, opened? o = some id → id ∉ opened history) :
    Tracked (history ++ [o]) o.after := by
  obtain ⟨hknown, hstages⟩ := h
  -- In each case one socket at most is used, and every other one stays at its stage.
  cases hf with
  | still hs ho he hb ht =>
    refine ⟨fun id hid => ?_, fun id => ?_⟩
    · rw [opened_none ho]
      exact hknown id (hs ▸ hid)
    · by_cases hid : o.before.client.socket = some id
      · have hid' : o.after.client.socket = some id := hs.trans hid
        refine stages_used (usesBy_kept hid hid' ho) (hstages id) ?_
        simp only [stageOf, if_pos hid, if_pos hid', he, hb, ht]
        rfl
      · exact stages_other (hstages id) hid (hs ▸ hid) (by simp [ho])
  | @turns held hs hs' ho ht =>
    refine ⟨fun id hid => ?_, fun id => ?_⟩
    · rw [opened_none ho]
      exact hknown id (hs.trans (hs'.symm.trans hid))
    · by_cases hid : held = id
      · subst hid
        refine stages_used (usesBy_kept hs hs' ho) (hstages held) ?_
        simp only [stageOf, if_pos hs, if_pos hs', ht]
      · exact stages_other (hstages id) (by simp [hs, hid]) (by simp [hs', hid]) (by simp [ho])
  | @closes held hs hs' ho ht =>
    refine ⟨fun id hid => ?_, fun id => ?_⟩
    · rw [hs'] at hid
      cases hid
    · by_cases hid : held = id
      · subst hid
        refine stages_used (usesBy_closed hs hs' ho) (hstages held) ?_
        have hmem : held ∈ opened (history ++ [o]) := by
          rw [opened_none ho]
          exact hknown held hs
        simp only [stageOf, if_pos hs, if_pos hmem, hs', ht]
        rfl
      · exact stages_other (hstages id) (by simp [hs, hid]) (by simp [hs']) (by simp [ho])
  | @opens got hs hs' ho ht =>
    refine ⟨fun id hid => ?_, fun id => ?_⟩
    · obtain rfl : got = id := Option.some.inj (hs'.symm.trans hid)
      simp [opened_some ho]
    · by_cases hid : got = id
      · subst hid
        refine stages_used (usesBy_opened hs hs' ho) (hstages got) ?_
        simp only [stageOf, hs, if_neg (hfresh got ho), if_pos hs', ← ht]
        rfl
      · exact stages_other (hstages id) (by simp [hs]) (by simp [hs', hid]) (by simp [ho, hid])

end Histories

/-- If no socket is given twice, a history tells at which stage each of them is. -/
theorem Run.tracked {endpoint : Endpoint} {config : TransportConfig} {history : List Deed} {u : Caller}
    (h : Run endpoint config history u) (hd : (opened history).Nodup) : Tracked history u := by
  induction h with
  | nothing => exact ⟨fun id hid => absurd hid (by simp [start, Client.new]), fun id => rfl⟩
  | @next history s s' e out h hs ih =>
    have hf := move_flow (Run.equipped h) (step_move hs)
    have hsplit : opened (history ++ [⟨s, e, s', out⟩]) =
        opened history ++ (opened? ⟨s, e, s', out⟩).toList := by
      cases ho : opened? ⟨s, e, s', out⟩ <;> simp [opened, ho]
    rw [hsplit, List.nodup_append] at hd
    -- A dial gives a socket that none before it gave.
    refine (ih hd.1).next hf fun id ho hmem => ?_
    exact hd.2.2 id hmem id (by simp [ho]) rfl

theorem unheld_of_cancelled {u u' : Caller} {e : Event} {out : Output} (hm : Move u e u' out)
    (hc : cancelled ⟨u, e, u', out⟩ = true) : u'.client.socket = none := by
  cases hm with
  | kept | connects | connected | unconnected | asked | signalled | goesOn => cases hc
  | ends _ hm =>
    cases hm with
    | exhausted => cases hc
    | forestalled | abandoned => exact Client.discard_socket _
    | answered => exact absurd hc (Bool.eq_false_iff.mp (verdict_not_cancelled ..))

/-- What a caller does with sockets, if every dial opens another one: to every socket happens only what
`Stage.after` admits, and those that were opened and not closed are the one that the client holds; none
is held while a dial is under way, one is held during a send or a receive, and none after a cancelled
call. -/
theorem sockets_used_in_turn {endpoint : Endpoint} {config : TransportConfig} {history : List Deed}
    {u : Caller} (h : Run endpoint config history u) (hd : (opened history).Nodup) :
    (∀ id, ∃ s, Stage.unopened.afterAll (usesOf id history) = some s ∧ s ≠ .spoiled ∧
      (s.held = true ↔ u.client.socket = some id)) ∧
    (u.dialing = true → u.client.socket = none) ∧
    (u.exchanging = true → u.client.socket.isSome = true) ∧
    ∀ o ∈ history, cancelled o = true → o.after.client.socket = none := by
  refine ⟨fun id => ⟨stageOf history u id, (Run.tracked h hd).stages id, ?_, ?_⟩,
    (Run.equipped h).unheld_of_dialing, (Run.equipped h).held_of_exchanging, ?_⟩
  · unfold stageOf stage
    split
    · split <;> decide
    · split <;> decide
  · unfold stageOf
    by_cases hid : u.client.socket = some id
    · rw [if_pos hid]
      exact iff_of_true (stage_held u) hid
    · rw [if_neg hid]
      refine iff_of_false ?_ hid
      split <;> decide
  · intro o ho hc
    exact unheld_of_cancelled (Run.move h ho) hc

/-- A connection is made, a call on it is cancelled while it waits for its reply, and the next call dials
anew. -/
def interrupted : List Event :=
  [.connect, .dialed (.ok 0), .ask ⟨"park", .empty⟩ (some false), .act .begin, .act .sent, .signal,
    .act .cancelled, .ask ⟨"park", .empty⟩ none, .act .begin, .act (.dialed 1), .act .sent]

theorem sockets_used_in_turn_interrupted :
    ∃ history u, Run ⟨"dome", "localhost", 7000, none, none⟩ .default history u ∧
      history.map Occurrence.event = interrupted ∧ (opened history).Nodup ∧
      usesOf 0 history = [.opened, .send, .sent, .receive, .spoiled, .closed] ∧
      usesOf 1 history = [.opened, .send, .sent, .receive] ∧
      ∀ id, ∃ s, Stage.unopened.afterAll (usesOf id history) = some s ∧ s ≠ .spoiled ∧
        (s.held = true ↔ u.client.socket = some id) := by
  have hread : (follow step (start ⟨"dome", "localhost", 7000, none, none⟩ .default) interrupted).map
      (fun r => (opened r.1, usesOf 0 r.1, usesOf 1 r.1)) =
        some ([0, 1], [.opened, .send, .sent, .receive, .spoiled, .closed],
          [.opened, .send, .sent, .receive]) := rfl
  obtain ⟨history, u, hrun, hevents, huses⟩ := Occurs.of_reading hread
  obtain ⟨hopened, h₀, h₁⟩ : opened history = [0, 1] ∧ _ ∧ _ := by simpa only [Prod.mk.injEq] using huses
  have hd : (opened history).Nodup := by rw [hopened]; decide
  exact ⟨history, u, hrun, hevents, hd, h₀, h₁, (sockets_used_in_turn hrun hd).1⟩

end MessageBus.Caller
