import MessageBus.Proofs.Client.Caller
/-!
# What a client counts

`statistics_exact`: the counters of a client, and its mark that a socket was discarded, say exactly what
happened to it. They are changed in different places (`install`, `discard`, `countSend`); `Balanced` says
what one occurrence may change, and every move is balanced.
-/
namespace MessageBus
set_option autoImplicit false

/-! ## Clients -/

namespace Client

/-- The counters and the mark agree with each other. -/
structure Sound (c : Client) : Prop where
  undialed : c.stats.dials = 0 → c.stats.reconnects = 0
  dialed : 0 < c.stats.dials → c.stats.dials = c.stats.reconnects + 1
  marked : c.discarded = true ↔ c.socket = none ∧ 0 < c.stats.dials
  held : c.socket.isSome = true → 0 < c.stats.dials

/-- How many sockets were discarded: those replaced, and the last one if it is not replaced yet. -/
def lost (c : Client) : Nat := c.stats.reconnects + c.discarded.toNat

variable {c : Client}

theorem sound_new (endpoint : Endpoint) (config : TransportConfig) : (new endpoint config).Sound :=
  ⟨fun _ => rfl, nofun, by simp [new], nofun⟩

theorem Sound.countSend (h : c.Sound) : c.countSend.Sound := ⟨h.undialed, h.dialed, h.marked, h.held⟩

theorem Sound.install (h : c.Sound) (hs : c.socket = none) (socket : SocketId) :
    (c.install socket).1.Sound := by
  unfold Client.install
  split
  · next hd =>
    have hpos : 0 < c.stats.dials := (h.marked.mp hd).2
    exact ⟨nofun, fun _ => congrArg (· + 1) (h.dialed hpos), by simp, fun _ => Nat.succ_pos _⟩
  · next hd =>
    have hz : c.stats.dials = 0 := by
      rcases Nat.eq_zero_or_pos c.stats.dials with hz | hpos
      · exact hz
      · exact absurd (h.marked.mpr ⟨hs, hpos⟩) hd
    have hone : c.stats.dials + 1 = c.stats.reconnects + 1 := by rw [hz, h.undialed hz]
    exact ⟨nofun, fun _ => hone, by simp [hd], fun _ => Nat.succ_pos _⟩

theorem install_lost (c : Client) (socket : SocketId) : (c.install socket).1.lost = c.lost := by
  unfold install lost
  split
  · next hd => simp [hd]
  · next hd => simp [hd]

theorem Sound.discard (h : c.Sound) : c.discard.Sound := by
  unfold Client.discard
  split
  · next hs => exact ⟨h.undialed, h.dialed, iff_of_true rfl ⟨rfl, h.held hs⟩, nofun⟩
  · exact h

/-- Giving up a socket loses it; without one there is nothing to lose. -/
theorem Sound.discard_lost (h : c.Sound) : c.discard.lost = c.lost + c.socket.isSome.toNat := by
  unfold Client.discard lost
  cases hs : c.socket with
  | none => simp
  | some id =>
    have hd : c.discarded = false := by
      rw [← Bool.not_eq_true, h.marked, hs]
      exact fun ⟨hn, _⟩ => nomatch hn
    simp [hd]

end Client

/-! ## Occurrences -/

namespace Caller
open Client (Sound)

def failure (o : Deed) : Bool :=
  match o.before.activity, o.event with
  | .calling call _, .act e => call.phase.fails e
  | _, _ => false

def reply (o : Deed) : Bool :=
  match o.event, o.before.activity with
  | .act (.received _), .calling ⟨_, _, .receiving⟩ _ => true
  | _, _ => false

def severance (o : Deed) : Bool := cancelled o && o.before.client.socket.isSome

/-- A call is cancelled between its send and its reply. -/
def interruption (o : Deed) : Bool := cancelled o && o.before.exchanging

/-- What an occurrence may change in the counters. -/
structure Balanced (o : Deed) : Prop where
  sound : o.after.client.Sound
  lost : o.after.client.lost = o.before.client.lost + (failure o).toNat + (severance o).toNat
  sends : o.after.client.stats.sends + o.before.exchanging.toNat =
    o.before.client.stats.sends + (failure o).toNat + (reply o).toNat + (interruption o).toNat +
      o.after.exchanging.toNat

theorem goesOn_balanced {c c' : Client} {call call' : Call} {signal? : Option Bool} {e : Call.Event}
    {ms : List Telemetry.Metric} (hq : Equipped ⟨c, .calling call signal?⟩) (hc : c.Sound)
    (hm : Call.Move (signal?.getD false) c call e (.running c' call') ms) :
    Balanced ⟨⟨c, .calling call signal?⟩, .act e, ⟨c', .calling call' signal?⟩, ⟨none, ms⟩⟩ := by
  obtain ⟨request, k, phase⟩ := call
  cases hm with
  | reuses hp =>
    obtain rfl : phase = .checking := hp
    exact ⟨hc.countSend, rfl, rfl⟩
  | dials hp =>
    obtain rfl : phase = .checking := hp
    exact ⟨hc, rfl, rfl⟩
  | dialed hp =>
    obtain rfl : phase = .dialing := hp
    refine ⟨(hc.install hq _).countSend, c.install_lost _, ?_⟩
    exact congrArg (· + 1) (c.install_kept _).2.2
  | undialed hp he =>
    obtain rfl : phase = .dialing := hp
    obtain rfl | ⟨why, rfl⟩ := he <;> exact ⟨hc, rfl, rfl⟩
  | rested hp =>
    obtain rfl : phase = .pausing := hp
    exact ⟨hc, rfl, rfl⟩
  | sent hp =>
    obtain rfl : phase = .sending := hp
    exact ⟨hc, rfl, rfl⟩
  | failed he =>
    -- What fails is a send or a receive, so there is a socket to lose.
    have hx : phase.exchanging = true := by cases phase <;> first | rfl | cases he
    have hs : c.socket.isSome = true := hq.held_of_exchanging hx
    refine ⟨hc.discard, ?_, ?_⟩
    · rw [hc.discard_lost, hs]
      cases phase <;> cases e <;> first | rfl | cases he
    · have hsends : c.discard.stats.sends = c.stats.sends := c.discard_kept.2.2
      cases phase <;> cases e <;> first | exact congrArg (· + 1) hsends | cases he

theorem ends_balanced {c c' : Client} {call : Call} {signal? : Option Bool} {e : Call.Event}
    {r : Except CallError Reply} {ms : List Telemetry.Metric} (hc : c.Sound)
    (hm : Call.Move (signal?.getD false) c call e (.finished c' r) ms) :
    Balanced ⟨⟨c, .calling call signal?⟩, .act e, ⟨c', .idle⟩, ⟨some (.replied r), ms⟩⟩ := by
  obtain ⟨request, k, phase⟩ := call
  cases hm with
  | exhausted hp =>
    obtain rfl : phase = .checking := hp
    exact ⟨hc, rfl, rfl⟩
  | forestalled hp =>
    obtain rfl : phase = .checking := hp
    exact ⟨hc.discard, hc.discard_lost, c.discard_kept.2.2⟩
  | @answered frame hp =>
    obtain rfl : phase = .receiving := hp
    have hcancel (u u' : Caller) (e : Event) (ms : List Telemetry.Metric) :
        cancelled ⟨u, e, u', ⟨some (.replied (Call.verdict c request frame)), ms⟩⟩ = false :=
      verdict_not_cancelled c request frame
    refine ⟨hc, ?_, ?_⟩
    · rw [severance, hcancel]
      rfl
    · rw [interruption, hcancel]
      rfl
  | abandoned hp =>
    have hsends : c.discard.stats.sends = c.stats.sends := c.discard_kept.2.2
    refine ⟨hc.discard, ?_, ?_⟩
    · rw [hc.discard_lost]
      cases phase <;> rfl
    -- A send is outstanding only in the middle of an exchange.
    · cases phase with
      | checking => exact absurd rfl hp
      | dialing | pausing => exact hsends
      | sending | receiving => exact congrArg (· + 1) hsends

theorem move_balanced {u u' : Caller} {e : Event} {out : Output} (hq : Equipped u) (hc : u.client.Sound)
    (hm : Move u e u' out) : Balanced ⟨u, e, u', out⟩ := by
  obtain ⟨c, activity⟩ := u
  cases hm with
  | kept h | asked h =>
    obtain rfl : activity = .idle := h
    exact ⟨hc, rfl, rfl⟩
  | connects h =>
    obtain rfl : activity = .idle := h
    exact ⟨hc, rfl, rfl⟩
  | connected h =>
    obtain rfl : activity = .connecting := h
    exact ⟨hc.install hq _, c.install_lost _, (c.install_kept _).2.2⟩
  | unconnected h =>
    obtain rfl : activity = .connecting := h
    exact ⟨hc, rfl, rfl⟩
  | signalled h =>
    obtain rfl : activity = .calling _ (some _) := h
    exact ⟨hc, rfl, rfl⟩
  | goesOn h hm =>
    obtain rfl : activity = .calling _ _ := h
    exact goesOn_balanced hq hc hm
  | ends h hm =>
    obtain rfl : activity = .calling _ _ := h
    exact ends_balanced hc hm

/-! ## Histories -/

structure Exact (history : List Deed) (u : Caller) : Prop where
  sound : u.client.Sound
  lost : u.client.lost = history.countP failure + history.countP severance
  sends : u.client.stats.sends = history.countP failure + history.countP reply +
    history.countP interruption + u.exchanging.toNat

theorem Exact.next {history : List Deed} {o : Deed} (h : Exact history o.before) (hb : Balanced o) :
    Exact (history ++ [o]) o.after := by
  obtain ⟨-, hlost, hsends⟩ := h
  refine ⟨hb.sound, ?_, ?_⟩
  · have := hb.lost
    simp only [countP_concat]
    omega
  · have := hb.sends
    simp only [countP_concat]
    omega

section Runs
variable {endpoint : Endpoint} {config : TransportConfig} {history : List Deed} {u : Caller}

theorem Run.exact (h : Run endpoint config history u) : Exact history u := by
  induction h with
  | nothing => exact ⟨Client.sound_new endpoint config, rfl, rfl⟩
  | next h hs ih => exact ih.next (move_balanced (Run.equipped h) ih.sound (step_move hs))

end Runs

/-- What the counters of a client say after anything that its user, its dialer, its sockets and its
cancellers did: a call that is under way between its send and its reply is the only one that is neither
answered nor given up. -/
theorem statistics_exact {endpoint : Endpoint} {config : TransportConfig} {history : List Deed}
    {u : Caller} (h : Run endpoint config history u) :
    (u.client.stats.dials = 0 → u.client.stats.reconnects = 0) ∧
    (0 < u.client.stats.dials → u.client.stats.dials = u.client.stats.reconnects + 1) ∧
    (u.client.discarded = true ↔ u.client.socket = none ∧ 0 < u.client.stats.dials) ∧
    u.client.stats.reconnects + u.client.discarded.toNat =
      history.countP failure + history.countP severance ∧
    u.client.stats.sends = history.countP failure + history.countP reply +
      history.countP interruption + u.exchanging.toNat := by
  obtain ⟨hsound, hlost, hsends⟩ := Run.exact h
  exact ⟨hsound.undialed, hsound.dialed, hsound.marked, hlost, hsends⟩

/-- The first receive takes too long, the second attempt is answered, and a call after it is cancelled
between its send and its reply. -/
def counted : List Event :=
  [.ask ⟨"park", .empty⟩ none, .act .begin, .act (.dialed 0), .act .sent, .act .expired, .act .begin,
    .act (.dialed 1), .act .sent, .act (.received []), .ask ⟨"park", .empty⟩ (some false), .act .begin,
    .act .sent, .signal, .act .cancelled]

theorem statistics_exact_counted :
    ∃ history u, Run ⟨"dome", "localhost", 7000, none, none⟩ .default history u ∧
      history.map Occurrence.event = counted ∧
      u.client.stats = ⟨3, 1, 2⟩ ∧
      (history.countP failure, history.countP severance, history.countP reply,
        history.countP interruption) = (1, 1, 1, 1) ∧
      u.client.stats.reconnects + u.client.discarded.toNat =
        history.countP failure + history.countP severance ∧
      u.client.stats.sends = history.countP failure + history.countP reply +
        history.countP interruption + u.exchanging.toNat := by
  have hread : (follow step (start ⟨"dome", "localhost", 7000, none, none⟩ .default) counted).map
      (fun r => (r.2.client.stats, r.1.countP failure, r.1.countP severance, r.1.countP reply,
        r.1.countP interruption)) = some (⟨3, 1, 2⟩, 1, 1, 1, 1) := by decide +kernel
  obtain ⟨history, u, hrun, hevents, hcounts⟩ := Occurs.of_reading hread
  obtain ⟨hstats, hcounts⟩ := Prod.mk.inj hcounts
  obtain ⟨-, -, -, hlost, hsends⟩ := statistics_exact hrun
  exact ⟨history, u, hrun, hevents, hstats, hcounts, hlost, hsends⟩

end Caller
end MessageBus
