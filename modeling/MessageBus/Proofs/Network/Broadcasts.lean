import MessageBus.Network.Broadcasts
import MessageBus.Network.Calls
import MessageBus.Proofs.Lookup
/-!
# What a channel carries

A channel holds a window of the frames that were sent on it (`Airs`), and a source that has not fallen behind
the window receives them one after the other. Operations on requests and replies leave the broadcasts alone
(`OffAir`).
-/
namespace MessageBus
set_option autoImplicit false

theorem Pool.count_pos {α : Type} {p : Pool α} {id : Nat} {value : α} {test : α → Bool}
    (h : p.get? id = some value) (ht : test value = true) : 0 < p.count test :=
  List.countP_pos_iff.mpr ⟨_, mem_of_lookup h, ht⟩

namespace Network

/-! ## Operations on requests and replies -/

structure OffAir (n n' : Network) : Prop where
  capacity : n'.capacity = n.capacity
  channels : n'.channels = n.channels
  sources : n'.sources = n.sources

section OffAir
variable {n n' n'' : Network}

theorem OffAir.refl (n : Network) : OffAir n n := ⟨rfl, rfl, rfl⟩

theorem OffAir.trans (h : OffAir n n') (h' : OffAir n' n'') : OffAir n n'' :=
  ⟨h'.capacity.trans h.capacity, h'.channels.trans h.channels, h'.sources.trans h.sources⟩

theorem dial_offAir {url : String} {id : SocketId} (h : n.dial url = .ok (id, n')) : OffAir n n' := by
  unfold dial at h
  split at h
  · cases h
    exact ⟨rfl, rfl, rfl⟩
  · cases h

theorem sendRequest_offAir {id : SocketId} {frame : Frame} (h : n.sendRequest id frame = some (.ok n')) :
    OffAir n n' := by
  unfold sendRequest at h
  split at h
  · cases h
  · split at h
    · cases h
    · split at h
      · cases h
      · split at h
        · cases h
        · cases h
          exact ⟨rfl, rfl, rfl⟩

theorem receiveReply_offAir {id : SocketId} {r : Except SocketError Frame}
    (h : n.receiveReply id = some (r, n')) : OffAir n n' := by
  unfold receiveReply at h
  split at h
  · cases h
    exact .refl n
  · split at h
    · cases h
      exact ⟨rfl, rfl, rfl⟩
    · cases h
      exact ⟨rfl, rfl, rfl⟩
    · cases h
      exact ⟨rfl, rfl, rfl⟩
    · cases h

theorem closeRequest_offAir (n : Network) (id : SocketId) : OffAir n (n.closeRequest id) := by
  unfold closeRequest
  split
  · exact .refl n
  · exact ⟨rfl, rfl, rfl⟩

theorem release_offAir (n : Network) (before after : Option SocketId) :
    OffAir n (n.release before after) := by
  unfold release
  split
  · exact .refl n
  · split
    · exact .refl n
    · exact closeRequest_offAir ..

theorem operate_offAir {client : Client} {call : Call} {e : Call.Event}
    (h : n.operate client call = some (e, n')) : OffAir n n' := by
  unfold operate at h
  split at h
  · cases h
  · cases h
  · split at h
    · next hd =>
      cases h
      exact dial_offAir hd
    · cases h
      exact .refl n
  · obtain ⟨id, -, h⟩ := Option.bind_eq_some_iff.mp h
    obtain ⟨r, hr, h⟩ := Option.map_eq_some_iff.mp h
    cases r with
    | ok n₁ =>
      cases h
      exact sendRequest_offAir hr
    | error why =>
      cases h
      exact .refl n
  · obtain ⟨id, -, h⟩ := Option.bind_eq_some_iff.mp h
    obtain ⟨⟨r, n₁⟩, hr, h⟩ := Option.map_eq_some_iff.mp h
    cases r with
    | ok frame =>
      cases h
      exact receiveReply_offAir hr
    | error why =>
      cases h
      exact receiveReply_offAir hr

theorem receiveRequest_offAir {id : ReplyId} {r : Except SocketError Frame}
    (h : n.receiveRequest id = some (r, n')) : OffAir n n' := by
  unfold receiveRequest at h
  split at h
  · cases h
    exact .refl n
  · split at h
    · cases h
    · cases h
      exact ⟨rfl, rfl, rfl⟩

theorem sendReply_offAir {id : ReplyId} {frame : Frame} (h : n.sendReply id frame = .ok n') :
    OffAir n n' := by
  unfold sendReply at h
  split at h
  · cases h
  · cases h
    exact ⟨rfl, rfl, rfl⟩

theorem closeReply_offAir (n : Network) (id : ReplyId) : OffAir n (n.closeReply id) := by
  unfold closeReply
  split
  · exact .refl n
  · exact ⟨rfl, rfl, rfl⟩

end OffAir

/-! ## Channels -/

/-- These frames were sent on an address since its channel was opened. -/
def Airs (n : Network) (url : String) (frames : List Frame) : Prop :=
  ∃ c, n.channels.get? url = some c ∧ c.sent = frames.length ∧
    c.held = frames.drop (frames.length - n.held)

section Airs
variable {n n' : Network} {url : String} {frames : List Frame} {id : SourceId}

theorem held_pos (n : Network) : 0 < n.held :=
  Nat.pos_of_isPowerOfTwo (Nat.isPowerOfTwo_nextPowerOfTwo n.capacity)

theorem Airs.kept (h : Airs n url frames) (hcapacity : n'.capacity = n.capacity)
    (hchannels : ∀ {c}, n.channels.get? url = some c → n'.channels.get? url = some c) :
    Airs n' url frames := by
  obtain ⟨c, hget, hsent, hheld⟩ := h
  have hlimit : n'.held = n.held := congrArg Nat.nextPowerOfTwo hcapacity
  exact ⟨c, hchannels hget, hsent, hheld.trans (by rw [hlimit])⟩

theorem Airs.offAir (h : Airs n url frames) (ho : OffAir n n') : Airs n' url frames :=
  h.kept ho.capacity fun hget => ho.channels ▸ hget

theorem drop_push (frames : List Frame) (frame : Frame) (limit : Nat) :
    (frames.drop (frames.length - limit) ++ [frame]).drop
        ((frames.drop (frames.length - limit) ++ [frame]).length - limit) =
      (frames ++ [frame]).drop ((frames ++ [frame]).length - limit) := by
  have hfront : frames.drop (frames.length - limit) ++ [frame] =
      (frames ++ [frame]).drop (frames.length - limit) := by
    rw [List.drop_append_of_le_length (Nat.sub_le ..)]
  rw [hfront, List.drop_drop]
  congr 1
  simp only [List.length_drop, List.length_append, List.length_singleton]
  omega

/-- A frame that is sent while somebody listens is carried on. -/
theorem Airs.publish (h : Airs n url frames) (ha : 0 < n.attached url) (frame : Frame) :
    Airs (n.publish url frame) url (frames ++ [frame]) ∧ (n.publish url frame).sources = n.sources ∧
      (n.publish url frame).capacity = n.capacity := by
  obtain ⟨c, hc, hsent, hheld⟩ := h
  have hpublish : n.publish url frame = { n with channels := n.channels.insert url (c.push n.held frame) } := by
    simp only [Network.publish, hc]
    rw [if_neg (Nat.ne_of_gt ha)]
  rw [hpublish]
  refine ⟨⟨c.push n.held frame, ?_, ?_, ?_⟩, rfl, rfl⟩
  · rw [Table.get?_insert, if_pos rfl]
  · simp [Channel.push, hsent]
  · simp only [Channel.push, hheld]
    exact drop_push frames frame n.held

theorem publish_sources (n : Network) (url : String) (frame : Frame) :
    (n.publish url frame).sources = n.sources := by
  unfold Network.publish
  split
  · rfl
  · split <;> rfl

theorem publish_unheard (ha : n.attached url = 0) (frame : Frame) : n.publish url frame = n := by
  unfold Network.publish
  split
  · rfl
  · rw [if_pos ha]

theorem publish_capacity (n : Network) (url : String) (frame : Frame) :
    (n.publish url frame).capacity = n.capacity := by
  unfold Network.publish
  split
  · rfl
  · split <;> rfl

/-- Other addresses do not notice what is sent. -/
theorem publish_elsewhere {url' : String} (h : url' ≠ url) (frame : Frame) :
    (n.publish url frame).channels.get? url' = n.channels.get? url' := by
  unfold Network.publish
  split
  · rfl
  · split
    · rfl
    · rw [Table.get?_insert, if_neg h]

/-- The channel of an address is there already, or it is opened now. -/
theorem openChannel_some (h : n.openChannel url = some n') :
    ∃ channels, n' = { n with channels := channels } ∧ channels.contains url = true ∧
      (∀ {url' c}, n.channels.get? url' = some c → channels.get? url' = some c) ∧
      ∀ {url' c}, channels.get? url' = some c → n.channels.get? url' = some c ∨ c = ⟨0, []⟩ := by
  unfold openChannel at h
  split at h
  · next hthere =>
    cases h
    exact ⟨n.channels, rfl, hthere, id, .inl⟩
  · next hnone =>
    split at h
    · cases h
    · cases h
      refine ⟨_, rfl, ?_, fun {url' c} hget => ?_, fun {url' c} hget => ?_⟩
      · rw [Table.contains, Table.get?_insert, if_pos rfl]
        rfl
      · rw [Table.get?_insert, if_neg, hget]
        rintro rfl
        simp [Table.contains, hget] at hnone
      · rw [Table.get?_insert] at hget
        split at hget
        · exact .inr (Option.some.inj hget).symm
        · exact .inl hget

/-- A source is attached behind what was sent so far, and nobody else notices. -/
theorem connect_some (h : n.connect url = some (id, n')) :
    id = n.sources.next ∧ n'.capacity = n.capacity ∧
      (∀ {url' c}, n.channels.get? url' = some c → n'.channels.get? url' = some c) ∧
      ∃ position, n'.sources = n.sources.add ⟨url, position⟩ ∧
        ∀ c, n.channels.get? url = some c → position = c.sent := by
  obtain ⟨n₁, hopen, hadd⟩ := Option.map_eq_some_iff.mp h
  cases hadd
  obtain ⟨channels, rfl, -, hkept, -⟩ := openChannel_some hopen
  exact ⟨rfl, rfl, hkept, _, rfl, fun c hget => by simp [hkept hget]⟩

theorem receiveBroadcast_some {frame : Frame} (h : n.receiveBroadcast id = some (frame, n')) :
    ∃ change, n' = { n with sources := n.sources.modify id change } := by
  unfold receiveBroadcast at h
  obtain ⟨s, -, h⟩ := Option.bind_eq_some_iff.mp h
  obtain ⟨c, -, h⟩ := Option.bind_eq_some_iff.mp h
  obtain ⟨r, -, h⟩ := Option.bind_eq_some_iff.mp h
  cases h
  exact ⟨_, rfl⟩

/-- How far a source has fallen behind. -/
def lag (n : Network) (id : SourceId) : Nat :=
  ((n.sources.get? id).bind fun s => (n.channels.get? s.url).map fun c => c.sent - s.position).getD 0

theorem Airs.lag {position : Nat} (h : Airs n url frames) (hs : n.sources.get? id = some ⟨url, position⟩) :
    n.lag id = frames.length - position := by
  obtain ⟨c, hget, hsent, -⟩ := h
  simp [Network.lag, hs, hget, hsent]

/-- A source receives what comes next, or the oldest frame that is held where that comes later. -/
theorem Airs.receives {position : Nat} {frame : Frame} (h : Airs n url frames)
    (hs : n.sources.get? id = some ⟨url, position⟩) (hr : n.receiveBroadcast id = some (frame, n')) :
    frames[max position (frames.length - n.held)]? = some frame ∧
      n' = { n with
        sources := n.sources.modify id fun s =>
          { s with position := max position (frames.length - n.held) + 1 } } := by
  obtain ⟨c, hget, hsent, hheld⟩ := h
  simp only [receiveBroadcast, hs, hget, Option.bind_eq_bind, Option.bind_some] at hr
  obtain ⟨⟨frame', position'⟩, hreceive, hr⟩ := Option.bind_eq_some_iff.mp hr
  cases hr
  obtain ⟨frame'', hindex, hpair⟩ := Option.map_eq_some_iff.mp hreceive
  cases hpair
  have holdest : c.sent - c.held.length = frames.length - n.held := by
    rw [hsent, hheld, List.length_drop]
    omega
  rw [holdest, hheld, List.getElem?_drop, Nat.add_sub_cancel' (Nat.le_max_right ..)] at hindex
  exact ⟨hindex, by rw [holdest]⟩

/-- A source that is not too far behind receives what comes next. -/
theorem Airs.receive {position : Nat} {frame : Frame} (h : Airs n url frames)
    (hs : n.sources.get? id = some ⟨url, position⟩) (hlag : n.lag id ≤ n.held)
    (hr : n.receiveBroadcast id = some (frame, n')) :
    frames[position]? = some frame ∧ n'.sources.get? id = some ⟨url, position + 1⟩ := by
  obtain ⟨hframe, rfl⟩ := h.receives hs hr
  rw [h.lag hs] at hlag
  have hmax : max position (frames.length - n.held) = position := by omega
  rw [hmax] at hframe ⊢
  refine ⟨hframe, ?_⟩
  rw [Pool.get?_modify, if_pos rfl, hs]
  rfl

/-- A source that has to wait has received everything. -/
theorem Airs.waits {position : Nat} (h : Airs n url frames)
    (hs : n.sources.get? id = some ⟨url, position⟩) (hr : n.receiveBroadcast id = none) :
    frames.length ≤ position := by
  obtain ⟨c, hget, hsent, hheld⟩ := h
  have hpos := held_pos n
  have hlength : c.held.length = min frames.length n.held := by
    rw [hheld, List.length_drop]
    omega
  cases hreceive : c.receive position with
  | some r => simp [receiveBroadcast, hs, hget, hreceive] at hr
  | none =>
    simp only [Channel.receive, Option.map_eq_none_iff, List.getElem?_eq_none_iff] at hreceive
    omega

end Airs
end Network
end MessageBus
