import MessageBus.Proofs.Network.Acts
/-!
# Broadcasts reach every source

`broadcasts_fan_out`: a source receives the frames that are sent on its address after it was connected, in
the order in which they were sent, and passes over a frame only if as many newer ones as a channel holds were
sent before the source came to it. `Aired` says that every channel ends with what was sent last, and `Tuned`
where a source stands in what was sent since it was connected. What holds of each receipt (`Receipt`) follows
from where the source stood before it.
-/
namespace MessageBus.Network
set_option autoImplicit false

/-! ## What is done about broadcasts -/

def Connects (id : SourceId) (e : Endpoint) (o : Deed) : Prop :=
  o.event = .connect e ∧ o.output = .connected id

def Leaves (id : SourceId) (o : Deed) : Prop := o.event = .closeSource id

/-- A source receives a frame. -/
def Receives (id : SourceId) (frame : Frame) (o : Deed) : Prop :=
  o.event = .receiveBroadcast id ∧ o.output = .received frame

/-- The frame that is sent on an address, by whatever sink. -/
def published? (url : String) (o : Deed) : Option Frame :=
  match o.event with
  | .publish e frame => if e.url = url then some frame else none
  | _ => none

/-- The frames that were sent on an address after a position, oldest first. -/
def sentSince (url : String) (i : Nat) (history : List Deed) : List Frame :=
  (history.drop (i + 1)).filterMap (published? url)

/-- How many frames of its channel a source had passed after a position. -/
def passedAt (history : List Deed) (id : SourceId) (i : Nat) : Nat :=
  ((history[i]?.bind fun o => o.after.sources.get? id).map Source.position).getD 0

section Deeds
variable {history : List Deed} {o : Deed} {url : String} {id : SourceId} {i : Nat}

theorem sentSince_concat (hi : i < history.length) :
    sentSince url i (history ++ [o]) = sentSince url i history ++ (published? url o).toList := by
  rw [sentSince, List.drop_append_of_le_length hi, filterMap_concat, sentSince]

theorem sentSince_quiet (hi : i < history.length) (ho : published? url o = none) :
    sentSince url i (history ++ [o]) = sentSince url i history := by
  rw [sentSince_concat hi, ho, Option.toList_none, List.append_nil]

theorem sentSince_last (url : String) (history : List Deed) (o : Deed) :
    sentSince url history.length (history ++ [o]) = [] := by
  rw [sentSince, List.drop_eq_nil_of_le (by simp), List.filterMap_nil]

theorem sentSince_take_le (url : String) (i : Nat) (history : List Deed) {j k : Nat} (hjk : j ≤ k) :
    (sentSince url i (history.take j)).length ≤ (sentSince url i (history.take k)).length := by
  have hpart : (history.take j).Sublist (history.take k) := (List.take_prefix_take_left hjk).sublist
  exact ((hpart.drop _).filterMap _).length_le

theorem passedAt_concat (hi : i < history.length) :
    passedAt (history ++ [o]) id i = passedAt history id i := by
  rw [passedAt, List.getElem?_append_left hi, passedAt]

theorem passedAt_last {s : Source} (hs : o.after.sources.get? id = some s) :
    passedAt (history ++ [o]) id history.length = s.position := by
  rw [passedAt, List.getElem?_concat_length, Option.bind_some, hs]
  rfl

theorem passedAt_take {j : Nat} (hi : i < j) : passedAt (history.take j) id i = passedAt history id i := by
  rw [passedAt, List.getElem?_take, if_pos hi, passedAt]

end Deeds

/-! ## Channels -/

/-- Every channel holds the last of some frames. -/
def Aired (n : Network) : Prop := ∀ url c, n.channels.get? url = some c → ∃ frames, Airs n url frames

section Moves
variable {n n' : Network} {a : Act} {out : Output} {url : String} {frames : List Frame} {id : SourceId}

theorem Aired.kept (h : Aired n) (hcapacity : n'.capacity = n.capacity)
    (hchannels : n'.channels = n.channels) : Aired n' := by
  intro url c hget
  obtain ⟨frames, hairs⟩ := h url c (hchannels ▸ hget)
  exact ⟨frames, hairs.kept hcapacity fun hget => hchannels ▸ hget⟩

theorem openChannel_aired (h : n.openChannel url = some n') (ha : Aired n) : Aired n' := by
  obtain ⟨channels, rfl, -, hkept, hnew⟩ := openChannel_some h
  intro url' c hget
  rcases hnew hget with hold | rfl
  · obtain ⟨frames, hairs⟩ := ha url' c hold
    exact ⟨frames, hairs.kept rfl hkept⟩
  · exact ⟨[], _, hget, rfl, List.drop_nil.symm⟩

/-- A source is attached behind everything that was sent. -/
theorem connect_airs (h : n.connect url = some (id, n')) (ha : Aired n) :
    Aired n' ∧ id = n.sources.next ∧
      ∃ frames, Airs n' url frames ∧ n'.sources = n.sources.add ⟨url, frames.length⟩ := by
  obtain ⟨n₁, hopen, hadd⟩ := Option.map_eq_some_iff.mp h
  have haired := openChannel_aired hopen ha
  obtain ⟨channels, rfl, hthere, -⟩ := openChannel_some hopen
  obtain ⟨c₀, hthere⟩ := Option.isSome_iff_exists.mp hthere
  obtain ⟨frames, c, hget, hsent, hheld⟩ := haired url c₀ hthere
  cases hadd
  refine ⟨haired.kept rfl rfl, rfl, frames, ⟨c, hget, hsent, hheld⟩, ?_⟩
  simp only [hget, Option.map_some, Option.getD_some, hsent]

theorem published?_offAir (ha : a.isBroadcast = false) : published? url ⟨n, a, n', out⟩ = none := by
  cases a <;> first | rfl | cases ha

/-- While a source is attached, the channel takes what is sent and nothing else. -/
theorem Move.airs (h : Move n a n' out) (hairs : Airs n url frames) (hl : 0 < n.attached url) :
    Airs n' url (frames ++ (published? url ⟨n, a, n', out⟩).toList) := by
  have hquiet (hp : published? url ⟨n, a, n', out⟩ = none) (hairs' : Airs n' url frames) :
      Airs n' url (frames ++ (published? url ⟨n, a, n', out⟩).toList) := by
    rwa [hp, Option.toList_none, List.append_nil]
  cases ha : a.isBroadcast with
  | false => exact hquiet (published?_offAir ha) (hairs.offAir (h.offAir ha))
  | true =>
    cases h with
    | @publishes e frame =>
      by_cases hurl : e.url = url
      · subst hurl
        simpa [published?] using (hairs.publish hl frame).1
      · refine hquiet (if_neg hurl) (hairs.kept (publish_capacity ..) fun hget => ?_)
        rwa [publish_elsewhere (Ne.symm hurl)]
    | opens h =>
      obtain ⟨channels, rfl, -, hkept, -⟩ := openChannel_some h
      exact hquiet rfl (hairs.kept rfl hkept)
    | connects h =>
      obtain ⟨-, hcapacity, hkept, -⟩ := connect_some h
      exact hquiet rfl (hairs.kept hcapacity hkept)
    | leaves => exact hquiet rfl (hairs.kept rfl id)
    | hears h =>
      obtain ⟨change, rfl⟩ := receiveBroadcast_some h
      exact hquiet rfl (hairs.kept rfl id)
    | refused hf => cases (isBroadcast_of_mayFail hf).symm.trans ha
    | binds | closes | dials | hangsUp | asks | gets | takes | answers => cases ha

theorem publish_aired (h : Aired n) (url : String) (frame : Frame) : Aired (n.publish url frame) := by
  rcases Nat.eq_zero_or_pos (n.attached url) with hz | hl
  · rwa [publish_unheard hz]
  · intro url' c hget
    by_cases hurl : url' = url
    · subst hurl
      cases hc : n.channels.get? url' with
      | none =>
        rw [publish, hc, hc] at hget
        cases hget
      | some c₀ =>
        obtain ⟨frames, hairs⟩ := h url' c₀ hc
        exact ⟨_, (hairs.publish hl frame).1⟩
    · rw [publish_elsewhere hurl] at hget
      obtain ⟨frames, hairs⟩ := h url' c hget
      exact ⟨frames, hairs.kept (publish_capacity ..) fun hget => by rwa [publish_elsewhere hurl]⟩

theorem Move.aired (h : Move n a n' out) (hn : Aired n) : Aired n' := by
  cases ha : a.isBroadcast with
  | false => exact hn.kept (h.offAir ha).capacity (h.offAir ha).channels
  | true =>
    cases h with
    | publishes => exact publish_aired hn _ _
    | opens h => exact openChannel_aired h hn
    | connects h => exact (connect_airs h hn).1
    | leaves => exact hn.kept rfl rfl
    | hears h =>
      obtain ⟨change, rfl⟩ := receiveBroadcast_some h
      exact hn.kept rfl rfl
    | refused => exact hn
    | binds | closes | dials | hangsUp | asks | gets | takes | answers => cases ha

end Moves

/-! ## Sources -/

/-- Where a source stands that was connected at a position. -/
structure Tuned (history : List Deed) (n : Network) (id : SourceId) (s : Source) (i : Nat) (e : Endpoint) :
    Prop where
  connected : At history i (Connects id e)
  url : s.url = e.url
  airs : ∃ old, List.length old = passedAt history id i ∧ Airs n e.url (old ++ sentSince e.url i history)
  began : passedAt history id i ≤ s.position
  passed : ∀ {j frame}, i < j → At history j (Receives id frame) → passedAt history id j ≤ s.position
  /-- It has received nothing, or it stands where the last receipt left it. -/
  stands : s.position = passedAt history id i ∨
    ∃ j frame, At history j (Receives id frame) ∧ passedAt history id j = s.position

section Sources
variable {history : List Deed} {n n' : Network} {a : Act} {out : Output} {id : SourceId} {s s' : Source}
  {i : Nat} {e : Endpoint} {frame : Frame}

/-- How a source came to be where it is. -/
theorem Move.source (h : Move n a n' out) (hs : n'.sources.get? id = some s') :
    (n.sources.get? id = some s' ∧ a ≠ .receiveBroadcast id) ∨
      (∃ e, a = .connect e ∧ out = .connected id ∧ n.connect e.url = some (id, n')) ∨
      ∃ s frame, a = .receiveBroadcast id ∧ out = .received frame ∧ n.sources.get? id = some s ∧
        n.receiveBroadcast id = some (frame, n') := by
  have hair := h.offAir
  cases h with
  | opens h =>
    obtain ⟨_, rfl, -⟩ := openChannel_some h
    exact .inl ⟨hs, nofun⟩
  | publishes => exact .inl ⟨publish_sources .. ▸ hs, nofun⟩
  | @connects e id' _ h =>
    obtain ⟨rfl, -, -, position, hsources, -⟩ := connect_some h
    rw [hsources] at hs
    rcases Pool.of_get?_add hs with ⟨rfl, -⟩ | ⟨-, hs⟩
    · exact .inr (.inl ⟨e, rfl, rfl, h⟩)
    · exact .inl ⟨hs, nofun⟩
  | leaves => exact .inl ⟨(Pool.of_get?_remove hs).2, nofun⟩
  | @hears id' frame _ h =>
    obtain ⟨change, rfl⟩ := receiveBroadcast_some h
    rcases Pool.of_get?_modify hs with ⟨hne, hs⟩ | ⟨rfl, s, hs, -⟩
    · refine .inl ⟨hs, fun heq => hne ?_⟩
      cases heq
      rfl
    · exact .inr (.inr ⟨s, frame, rfl, rfl, hs, h⟩)
  | refused hf =>
    refine .inl ⟨hs, ?_⟩
    rintro rfl
    cases hf
  | binds | closes | dials | hangsUp | asks | gets | takes | answers =>
    exact .inl ⟨(hair rfl).sources ▸ hs, nofun⟩

theorem Move.attached (h : Move n a n' out) (hs : n.sources.get? id = some s) (ha : a ≠ .closeSource id) :
    ∃ s', n'.sources.get? id = some s' := by
  have hair := h.offAir
  cases h with
  | opens h =>
    obtain ⟨_, rfl, -⟩ := openChannel_some h
    exact ⟨s, hs⟩
  | publishes => exact ⟨s, by rw [publish_sources, hs]⟩
  | connects h =>
    obtain ⟨rfl, -, -, position, hsources, -⟩ := connect_some h
    exact ⟨s, by rw [hsources, Pool.get?_add, if_neg (Nat.ne_of_lt (Pool.get?_lt hs)), hs]⟩
  | @leaves id' =>
    have hne : id ≠ id' := fun heq => ha (congrArg Act.closeSource heq.symm)
    exact ⟨s, by rw [closeSource, Pool.get?_remove, if_neg hne, hs]⟩
  | @hears id' _ _ h =>
    obtain ⟨change, rfl⟩ := receiveBroadcast_some h
    rw [Pool.get?_modify, hs]
    split
    · exact ⟨_, rfl⟩
    · exact ⟨_, rfl⟩
  | refused => exact ⟨s, hs⟩
  | binds | closes | dials | hangsUp | asks | gets | takes | answers =>
    exact ⟨s, (hair rfl).sources ▸ hs⟩

theorem Tuned.start {frames : List Frame} (h : Airs n' e.url frames)
    (hs : n'.sources.get? id = some ⟨e.url, frames.length⟩) :
    Tuned (history ++ [⟨n, .connect e, n', .connected id⟩]) n' id ⟨e.url, frames.length⟩ history.length
      e := by
  have hbase : passedAt (history ++ [⟨n, .connect e, n', .connected id⟩]) id history.length = frames.length :=
    passedAt_last (s := ⟨e.url, frames.length⟩) hs
  refine ⟨at_last ⟨rfl, rfl⟩, rfl, ⟨frames, hbase.symm, ?_⟩, Nat.le_of_eq hbase, fun {j frame} hlt hj => ?_,
    .inl hbase.symm⟩
  · rwa [sentSince_last, List.append_nil]
  · have hle := hj.lt
    rw [List.length_append, List.length_singleton] at hle
    omega

/-- The source goes on standing where it stands while others act. -/
theorem Tuned.aside (h : Tuned history n id s i e) (hm : Move n a n' out) (hs : n.sources.get? id = some s)
    (ha : a ≠ .receiveBroadcast id) : Tuned (history ++ [⟨n, a, n', out⟩]) n' id s i e where
  connected := h.connected.append _
  url := h.url
  airs := by
    obtain ⟨old, hold, hairs⟩ := h.airs
    refine ⟨old, by rw [passedAt_concat h.connected.lt, hold], ?_⟩
    rw [sentSince_concat h.connected.lt, ← List.append_assoc]
    exact hm.airs hairs (Pool.count_pos hs (decide_eq_true h.url))
  began := by
    rw [passedAt_concat h.connected.lt]
    exact h.began
  passed := by
    intro j frame hlt hj
    rcases at_concat.mp hj with hj | ⟨-, hevent, -⟩
    · rw [passedAt_concat hj.lt]
      exact h.passed hlt hj
    · exact absurd hevent ha
  stands := by
    rcases h.stands with hbase | ⟨j, frame, hj, hlast⟩
    · exact .inl (by rw [passedAt_concat h.connected.lt, hbase])
    · exact .inr ⟨j, frame, hj.append _, by rw [passedAt_concat hj.lt, hlast]⟩

theorem Tuned.hears (h : Tuned history n id s i e) (hs : n.sources.get? id = some s)
    (hr : n.receiveBroadcast id = some (frame, n')) (hs' : n'.sources.get? id = some s') :
    Tuned (history ++ [⟨n, .receiveBroadcast id, n', .received frame⟩]) n' id s' i e := by
  obtain ⟨old, hold, hairs⟩ := h.airs
  have hurl : s = ⟨e.url, s.position⟩ := by rw [← h.url]
  obtain ⟨-, rfl⟩ := hairs.receives (hurl ▸ hs) hr
  obtain rfl : s' = { s with
      position := max s.position ((old ++ sentSince e.url i history).length - n.held) + 1 } := by
    rw [Pool.get?_modify, if_pos rfl, hs] at hs'
    exact (Option.some.inj hs').symm
  have hbase := h.began
  refine ⟨h.connected.append _, h.url, ⟨old, ?_, ?_⟩, ?_, fun {j frame} hlt hj => ?_, ?_⟩
  · rw [passedAt_concat h.connected.lt, hold]
  · rw [sentSince_quiet h.connected.lt rfl]
    exact hairs.kept rfl fun hget => hget
  · rw [passedAt_concat h.connected.lt]
    exact Nat.le_succ_of_le (Nat.le_trans hbase (Nat.le_max_left ..))
  · rcases at_concat.mp hj with hj | ⟨rfl, -⟩
    · rw [passedAt_concat hj.lt]
      exact Nat.le_succ_of_le (Nat.le_trans (h.passed hlt hj) (Nat.le_max_left ..))
    · exact Nat.le_of_eq (passedAt_last hs')
  · exact .inr ⟨history.length, frame, at_last ⟨rfl, rfl⟩, passedAt_last hs'⟩

end Sources

/-! ## Runs -/

section Runs
variable {n n' : Network} {a : Act} {out : Output} {url : String}

theorem Move.capacity (h : Move n a n' out) : n'.capacity = n.capacity := by
  have hair := h.offAir
  cases h with
  | opens h =>
    obtain ⟨_, rfl, -⟩ := openChannel_some h
    rfl
  | publishes => exact publish_capacity ..
  | connects h => exact (connect_some h).2.1
  | leaves => rfl
  | hears h =>
    obtain ⟨change, rfl⟩ := receiveBroadcast_some h
    rfl
  | refused => rfl
  | binds | closes | dials | hangsUp | asks | gets | takes | answers => exact (hair rfl).capacity

theorem publish_contains (frame : Frame) (e : Endpoint) (h : n.channels.contains url = true) :
    (n.publish e.url frame).channels.contains url = true := by
  unfold publish
  split
  · exact h
  · split
    · exact h
    · rw [Table.contains, Table.get?_insert]
      split
      · rfl
      · exact h

/-- A channel is never given up. -/
theorem Move.channel (h : Move n a n' out) (hc : n.channels.contains url = true) :
    n'.channels.contains url = true := by
  have hair := h.offAir
  have hkept {channels : Table Channel}
      (hkept : ∀ {url c}, n.channels.get? url = some c → channels.get? url = some c) :
      channels.contains url = true := by
    obtain ⟨c, hget⟩ := Option.isSome_iff_exists.mp hc
    rw [Table.contains, hkept hget]
    rfl
  cases h with
  | opens h =>
    obtain ⟨_, rfl, -, hchannels, -⟩ := openChannel_some h
    exact hkept hchannels
  | publishes => exact publish_contains _ _ hc
  | connects h => exact hkept (connect_some h).2.2.1
  | leaves => exact hc
  | hears h =>
    obtain ⟨change, rfl⟩ := receiveBroadcast_some h
    exact hc
  | refused => exact hc
  | binds | closes | dials | hangsUp | asks | gets | takes | answers => rwa [(hair rfl).channels]

variable {capacity : Nat} {history : List Deed} {id : SourceId} {s : Source} {i j : Nat} {e e' : Endpoint}
  {frame : Frame}

theorem Run.capacity_eq (h : Run capacity history n) : n.capacity = capacity := by
  induction h with
  | nothing => rfl
  | next _ hs ih => exact (step_move hs).capacity.trans ih

theorem Run.held_eq (h : Run capacity history n) : n.held = capacity.nextPowerOfTwo := by
  rw [held, h.capacity_eq]

theorem Run.aired (h : Run capacity history n) : Aired n := by
  induction h with
  | nothing => exact fun _ _ => nofun
  | next _ hs ih => exact (step_move hs).aired ih

theorem Run.sink_bound (h : Run capacity history n) (hi : At history i fun o => o.event = .bindSink e) :
    n.channels.contains e.url = true := by
  induction h with
  | nothing => cases hi.lt
  | next _ hs ih =>
    rcases at_concat.mp hi with hi | ⟨-, hevent⟩
    · exact (step_move hs).channel (ih hi)
    · cases hevent
      obtain ⟨n₁, hopen, heq⟩ := Option.map_eq_some_iff.mp hs
      cases heq
      obtain ⟨_, rfl, hthere, -⟩ := openChannel_some hopen
      exact hthere

/-- A source is there until it is closed. -/
theorem Run.attached (h : Run capacity history n) (hi : At history i (Connects id e))
    (hopen : ∀ k, i < k → ¬At history k (Leaves id)) : ∃ s, n.sources.get? id = some s := by
  induction h with
  | nothing => cases hi.lt
  | next _ hs ih =>
    rcases at_concat.mp hi with hi | ⟨-, hevent, hout⟩
    · obtain ⟨s, hs'⟩ := ih hi fun k hk hl => hopen k hk (hl.append _)
      exact (step_move hs).attached hs' fun ha => hopen _ hi.lt (at_last ha)
    · cases hevent
      cases hout
      cases step_move hs with
      | connects h =>
        obtain ⟨rfl, -, -, position, hsources, -⟩ := connect_some h
        exact ⟨⟨e.url, position⟩, by rw [hsources, Pool.get?_add, if_pos rfl]⟩

theorem Run.tuned (h : Run capacity history n) (hs : n.sources.get? id = some s) :
    ∃ i e, Tuned history n id s i e := by
  induction h generalizing id s with
  | nothing => cases hs
  | next hrun hstep ih =>
    rcases (step_move hstep).source hs with ⟨hs₀, ha⟩ | ⟨e, rfl, rfl, hc⟩ | ⟨s₀, frame, rfl, rfl, hs₀, hr⟩
    · obtain ⟨i, e, ht⟩ := ih hs₀
      exact ⟨i, e, ht.aside (step_move hstep) hs₀ ha⟩
    · obtain ⟨-, rfl, frames, hairs, hsources⟩ := connect_airs hc (Run.aired hrun)
      have hget := hs
      rw [hsources, Pool.get?_add, if_pos rfl] at hget
      cases hget
      exact ⟨_, e, .start hairs hs⟩
    · obtain ⟨i, e, ht⟩ := ih hs₀
      exact ⟨i, e, ht.hears hs₀ hr hs⟩

theorem Run.connected_once (h : Run capacity history n) (hi : At history i (Connects id e))
    (hj : At history j (Connects id e')) : i = j ∧ e = e' := h.opened_once Act.connect.inj rfl hi hj

/-! ## Receipts -/

/-- Where a source stood when it received a frame, and which of the frames sent since it was connected that
was. -/
structure Receipt (held : Nat) (history : List Deed) (id : SourceId) (e : Endpoint) (i j : Nat)
    (frame : Frame) (position : Nat) : Prop where
  later : i < j
  began : passedAt history id i ≤ position
  passed : ∀ {k frame}, i < k → k < j → At history k (Receives id frame) → passedAt history id k ≤ position
  stands : position = passedAt history id i ∨
    ∃ k frame, k < j ∧ At history k (Receives id frame) ∧ passedAt history id k = position
  goesOn : passedAt history id j =
    max position (passedAt history id i + (sentSince e.url i (history.take j)).length - held) + 1
  hears : (sentSince e.url i (history.take j))[
      max position (passedAt history id i + (sentSince e.url i (history.take j)).length - held) -
        passedAt history id i]? = some frame

theorem step_receiveBroadcast (h : n.step (.receiveBroadcast id) = some (n', .received frame)) :
    n.receiveBroadcast id = some (frame, n') := by
  obtain ⟨⟨frame', n₁⟩, hr, h⟩ := Option.map_eq_some_iff.mp h
  cases h
  exact hr

theorem Run.receipt (h : Run capacity history n) (hi : At history i (Connects id e))
    (hj : At history j (Receives id frame)) :
    ∃ position, Receipt capacity.nextPowerOfTwo history id e i j frame position := by
  obtain ⟨o, ho, hevent, hout⟩ := hj
  obtain ⟨hrun, hstep⟩ := h.of_getElem? ho
  rw [hevent, hout] at hstep
  have hr := step_receiveBroadcast hstep
  obtain ⟨s, hs, -⟩ := Option.bind_eq_some_iff.mp hr
  obtain ⟨i', e', ht⟩ := Run.tuned hrun hs
  obtain ⟨hlater, hi'⟩ := at_take.mp ht.connected
  obtain ⟨rfl, rfl⟩ := h.connected_once hi hi'
  obtain ⟨old, hold, hairs⟩ := ht.airs
  have hurl : s = ⟨e.url, s.position⟩ := by rw [← ht.url]
  obtain ⟨hframe, hafter⟩ := hairs.receives (hurl ▸ hs) hr
  have hlength : (old ++ sentSince e.url i (history.take j)).length =
      passedAt history id i + (sentSince e.url i (history.take j)).length := by
    rw [List.length_append, hold, passedAt_take hlater]
  rw [hlength, Run.held_eq hrun] at hframe hafter
  have hbegan := ht.began
  rw [passedAt_take hlater] at hbegan hold
  refine ⟨s.position, hlater, hbegan, fun {k frame} hik hkj hk => ?_, ?_, ?_, ?_⟩
  · rw [← passedAt_take hkj]
    exact ht.passed hik (at_take.mpr ⟨hkj, hk⟩)
  · rcases ht.stands with hfirst | ⟨k, frame, hk, hlast⟩
    · exact .inl (hfirst.trans (passedAt_take hlater))
    · obtain ⟨hkj, hk⟩ := at_take.mp hk
      exact .inr ⟨k, frame, hkj, hk, (passedAt_take hkj).symm.trans hlast⟩
  · rw [passedAt, ho, Option.bind_some, hafter, Pool.get?_modify, if_pos rfl, hs]
    rfl
  · rwa [List.getElem?_append_right (by omega), hold] at hframe

/-- The number, from zero on, of the frame that a source receives at a position among those sent since it was
connected. -/
def numberAt (history : List Deed) (id : SourceId) (i j : Nat) : Nat :=
  passedAt history id j - 1 - passedAt history id i

theorem Run.number_frame (h : Run capacity history n) (hi : At history i (Connects id e))
    (hj : At history j (Receives id frame)) :
    (sentSince e.url i (history.take j))[numberAt history id i j]? = some frame := by
  obtain ⟨position, hr⟩ := h.receipt hi hj
  have hnumber : numberAt history id i j = max position (passedAt history id i +
      (sentSince e.url i (history.take j)).length - capacity.nextPowerOfTwo) - passedAt history id i := by
    rw [numberAt, hr.goesOn, Nat.add_sub_cancel]
  rw [hnumber]
  exact hr.hears

theorem Run.number_lt (h : Run capacity history n) (hi : At history i (Connects id e)) {k : Nat}
    {frame' : Frame} (hkj : k < j) (hk : At history k (Receives id frame')) (hj : At history j (Receives id frame)) :
    numberAt history id i k < numberAt history id i j := by
  obtain ⟨position, hr⟩ := h.receipt hi hj
  obtain ⟨position', hr'⟩ := h.receipt hi hk
  have hpassed := hr.passed hr'.later hkj hk
  have hbegan := hr'.began
  have hgoes := hr.goesOn
  have hgoes' := hr'.goesOn
  simp only [numberAt]
  omega

/-- A source receives the first frame, or the one after a frame that it received before, or the oldest that is
still held. -/
theorem Run.number_next (h : Run capacity history n) (hi : At history i (Connects id e))
    (hj : At history j (Receives id frame)) :
    numberAt history id i j = 0 ∨
      (∃ k frame', k < j ∧ At history k (Receives id frame') ∧
        numberAt history id i k + 1 = numberAt history id i j) ∨
      numberAt history id i j + capacity.nextPowerOfTwo = (sentSince e.url i (history.take j)).length := by
  obtain ⟨position, hr⟩ := h.receipt hi hj
  have hbegan := hr.began
  have hgoes := hr.goesOn
  simp only [numberAt]
  rcases Nat.lt_or_ge position (passedAt history id i + (sentSince e.url i (history.take j)).length -
      capacity.nextPowerOfTwo) with hbehind | hfollows
  · exact .inr (.inr (by omega))
  · rcases hr.stands with hfirst | ⟨k, frame', hkj, hk, hlast⟩
    · exact .inl (by omega)
    · obtain ⟨position', hr'⟩ := h.receipt hi hk
      have hbegan' := hr'.began
      have hgoes' := hr'.goesOn
      exact .inr (.inl ⟨k, frame', hkj, hk, by omega⟩)

/-- Whatever a source did not receive before it came to a later frame was given up by the channel. -/
theorem Run.number_missed (h : Run capacity history n) (hi : At history i (Connects id e))
    (hj : At history j (Receives id frame)) {m : Nat} (hm : m < numberAt history id i j) :
    (∃ k frame', k < j ∧ At history k (Receives id frame') ∧ numberAt history id i k = m) ∨
      m + capacity.nextPowerOfTwo < (sentSince e.url i (history.take j)).length := by
  induction j using Nat.strongRecOn generalizing frame with
  | ind j ih =>
    rcases h.number_next hi hj with hzero | ⟨k, frame', hkj, hk, hnext⟩ | holdest
    · omega
    · rcases Nat.lt_or_eq_of_le (show m ≤ numberAt history id i k by omega) with hlt | rfl
      · rcases ih k hkj hk hlt with ⟨k', frame'', hk', hreceived⟩ | hgone
        · exact .inl ⟨k', frame'', Nat.lt_trans hk' hkj, hreceived⟩
        · exact .inr (Nat.lt_of_lt_of_le hgone (sentSince_take_le _ _ _ (Nat.le_of_lt hkj)))
      · exact .inl ⟨k, frame', hkj, hk, rfl⟩
    · exact .inr (by omega)

/-- A source that is not closed has something to receive, or it has come to the end of what was sent. -/
theorem Run.hears_or_done (h : Run capacity history n) (hi : At history i (Connects id e))
    (hopen : ∀ k, i < k → ¬At history k (Leaves id)) :
    (∃ frame n', n.step (.receiveBroadcast id) = some (n', .received frame)) ∨
      sentSince e.url i history = [] ∨
      ∃ j frame, At history j (Receives id frame) ∧
        numberAt history id i j + 1 = (sentSince e.url i history).length := by
  obtain ⟨s, hs⟩ := h.attached hi hopen
  obtain ⟨i', e', ht⟩ := h.tuned hs
  obtain ⟨rfl, rfl⟩ := h.connected_once hi ht.connected
  cases hr : n.receiveBroadcast id with
  | some r =>
    obtain ⟨frame, n'⟩ := r
    exact .inl ⟨frame, n', by rw [step, hr]; rfl⟩
  | none =>
    obtain ⟨old, hold, hairs⟩ := ht.airs
    have hurl : s = ⟨e.url, s.position⟩ := by rw [← ht.url]
    have hend := hairs.waits (hurl ▸ hs) hr
    rw [List.length_append, hold] at hend
    rcases ht.stands with hfirst | ⟨j, frame, hj, hlast⟩
    · exact .inr (.inl (List.eq_nil_of_length_eq_zero (by omega)))
    · have hlt := (List.getElem?_eq_some_iff.mp (h.number_frame hi hj)).1
      have hle := sentSince_take_le e.url i history (Nat.le_of_lt hj.lt)
      rw [List.take_length] at hle
      obtain ⟨position, hr⟩ := h.receipt hi hj
      have hbegan := hr.began
      have hgoes := hr.goesOn
      refine .inr (.inr ⟨j, frame, hj, ?_⟩)
      simp only [numberAt] at hlt ⊢
      omega

theorem openChannel_ok (h : 0 < n.capacity) (url : String) : ∃ n', n.openChannel url = some n' := by
  unfold openChannel
  split
  · exact ⟨_, rfl⟩
  · rw [if_neg (Nat.ne_of_gt h)]
    exact ⟨_, rfl⟩

/-- Whatever is done on a network whose channels can hold something, sinks and sources can be bound to every
endpoint, and sending on a sink never fails. What a source receives are frames that were sent on its address
after it was connected, by whatever sink: they come in the order in which they were sent, none comes twice,
and a frame is passed over only if as many newer ones were sent, before the source came to it, as a channel
holds. The source then goes on with the oldest frame that is held, and it waits only where nothing is left. -/
theorem broadcasts_fan_out (hcapacity : 0 < capacity) (h : Run capacity history n) :
    (∀ e : Endpoint, (∃ n', n.step (.bindSink e) = some (n', .done)) ∧
      ∃ id n', n.step (.connect e) = some (n', .connected id)) ∧
    (∀ {k} {e : Endpoint}, At history k (fun o => o.event = .bindSink e) → ∀ frame,
      ∃ n', n.step (.publish e frame) = some (n', .done)) ∧
    (∀ {i j id} {e e' : Endpoint}, At history i (Connects id e) → At history j (Connects id e') → i = j) ∧
    ∀ {i id} {e : Endpoint}, At history i (Connects id e) → ∃ number : Nat → Nat,
      (∀ {j frame}, At history j (Receives id frame) → i < j ∧
        (sentSince e.url i (history.take j))[number j]? = some frame ∧
        (∀ {k frame'}, k < j → At history k (Receives id frame') → number k < number j) ∧
        (∀ {m}, m < number j →
          (∃ k frame', k < j ∧ At history k (Receives id frame') ∧ number k = m) ∨
            m + capacity.nextPowerOfTwo < (sentSince e.url i (history.take j)).length) ∧
        (number j = 0 ∨
          (∃ k frame', k < j ∧ At history k (Receives id frame') ∧ number k + 1 = number j) ∨
          number j + capacity.nextPowerOfTwo = (sentSince e.url i (history.take j)).length)) ∧
      ((∀ k, i < k → ¬At history k (Leaves id)) →
        (∃ frame n', n.step (.receiveBroadcast id) = some (n', .received frame)) ∨
          sentSince e.url i history = [] ∨
          ∃ j frame, At history j (Receives id frame) ∧
            number j + 1 = (sentSince e.url i history).length) := by
  refine ⟨fun e => ?_, fun {k e} hk frame => ?_, fun hi hj => (h.connected_once hi hj).1,
    fun {i id e} hi => ?_⟩
  · obtain ⟨n', hopen⟩ := openChannel_ok (h.capacity_eq.symm ▸ hcapacity) e.url
    obtain ⟨⟨id, n''⟩, hconnect⟩ : ∃ r, n.connect e.url = some r := ⟨_, by rw [connect, hopen]; rfl⟩
    exact ⟨⟨n', by rw [step, hopen]; rfl⟩, id, n'', by rw [step, hconnect]; rfl⟩
  · exact ⟨_, by rw [step, if_pos (h.sink_bound hk)]⟩
  · refine ⟨numberAt history id i, fun {j frame} hj => ?_, h.hears_or_done hi⟩
    obtain ⟨position, hr⟩ := h.receipt hi hj
    exact ⟨hr.later, h.number_frame hi hj, fun hkj hk => h.number_lt hi hkj hk hj, h.number_missed hi hj,
      h.number_next hi hj⟩

/-- A channel for three frames holds four. Of five that are sent before the source receives one, the first is
passed over. -/
theorem broadcasts_fan_out_behind :
    let e : Endpoint := ⟨"gauge", "localhost", 7001, none, none⟩
    ∃ history n, Run 3 history n ∧
      history.map (fun o => (o.event, o.output)) =
        [(.bindSink e, .done), (.connect e, .connected 0), (.publish e [1], .done), (.publish e [2], .done),
          (.publish e [3], .done), (.publish e [4], .done), (.publish e [5], .done),
          (.receiveBroadcast 0, .received [2]), (.receiveBroadcast 0, .received [3])] ∧
      (∃ number : Nat → Nat, number 7 = 1 ∧ number 7 < number 8) ∧
      ∃ n', n.step (.publish e [6]) = some (n', .done) := by
  intro e
  have hread : (follow step (.new 3) [.bindSink e, .connect e, .publish e [1], .publish e [2], .publish e [3],
      .publish e [4], .publish e [5], .receiveBroadcast 0, .receiveBroadcast 0]).map
        (fun r => (r.1.map fun o => (o.event, o.output), sentSince e.url 1 (r.1.take 7))) =
      some ([(.bindSink e, .done), (.connect e, .connected 0), (.publish e [1], .done),
        (.publish e [2], .done), (.publish e [3], .done), (.publish e [4], .done), (.publish e [5], .done),
        (.receiveBroadcast 0, .received [2]), (.receiveBroadcast 0, .received [3])],
        [[1], [2], [3], [4], [5]]) := by decide +kernel
  obtain ⟨history, n, hrun, -, hread⟩ := Occurs.of_reading hread
  obtain ⟨hdeeds, hsent⟩ := Prod.mk.inj hread
  obtain ⟨-, hsends, -, hsources⟩ := broadcasts_fan_out (by decide) hrun
  obtain ⟨number, hreceipts, -⟩ := hsources (at_of_deeds hdeeds rfl : At history 1 (Connects 0 e))
  have hfirst : At history 7 (Receives 0 [2]) := at_of_deeds hdeeds rfl
  have hsecond : At history 8 (Receives 0 [3]) := at_of_deeds hdeeds rfl
  have hbound : At history 0 fun o => o.event = .bindSink e ∧ o.output = .done := at_of_deeds hdeeds rfl
  have hsink : At history 0 fun o => o.event = .bindSink e := hbound.imp fun _ => And.left
  refine ⟨history, n, hrun, hdeeds, ⟨number, ?_, (hreceipts hsecond).2.2.1 (by decide) hfirst⟩,
    hsends hsink _⟩
  have hframe := (hreceipts hfirst).2.1
  rw [hsent] at hframe
  have hlt : number 7 < 5 := (List.getElem?_eq_some_iff.mp hframe).1
  have honly : ∀ k, k < 5 → ([[1], [2], [3], [4], [5]] : List Frame)[k]? = some [2] → k = 1 := by decide
  exact honly _ hlt hframe

end Runs
end MessageBus.Network
