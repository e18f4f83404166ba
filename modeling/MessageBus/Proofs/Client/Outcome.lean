import MessageBus.Client.Call
import MessageBus.Proofs.Envelope.RoundTrip
/-!
# How calls end

`call_outcome`: against any conduct of dialer and sockets, and without a canceller, a call ends with the
first bytes that an attempt receives, and what they decode to is its result; if its attempts run out
before, it says so; if they never run out, it goes on for ever. It gives one frame to a socket in every
attempt that holds one after its dial, and in no other.

A run is deterministic once the conduct is fixed, so it is a function of the number of steps. `Reached`
says what holds of a running call after a number of steps; one step keeps it, or ends the call as the
law says, and the number of steps is at most five for each attempt.
-/
namespace MessageBus
set_option autoImplicit false

/-! ## Clients -/

namespace Client

theorem install_kept (c : Client) (socket : SocketId) :
    (c.install socket).1.endpoint = c.endpoint ∧ (c.install socket).1.config = c.config ∧
      (c.install socket).1.stats.sends = c.stats.sends := by
  unfold install
  split <;> exact ⟨rfl, rfl, rfl⟩

theorem install_socket (c : Client) (socket : SocketId) :
    (c.install socket).1.socket = some socket := by
  unfold install
  split <;> rfl

theorem discard_kept (c : Client) :
    c.discard.endpoint = c.endpoint ∧ c.discard.config = c.config ∧
      c.discard.stats.sends = c.stats.sends := by
  unfold discard
  split <;> exact ⟨rfl, rfl, rfl⟩

theorem discard_socket (c : Client) : c.discard.socket = none := by
  unfold discard
  split
  · rfl
  · next h => exact Option.not_isSome_iff_eq_none.mp h

end Client

namespace Call
open Telemetry (Metric)

/-! ## Conduct -/

/-- How an operation of a dialer or a socket ends. -/
inductive Ending (α : Type)
  | done (a : α)
  | failed (e : SocketError)
  | expired
deriving DecidableEq

/-- What dialer and socket do in one attempt, as far as they are asked. -/
structure Conduct where
  dial : Ending SocketId
  send : Ending Unit
  receive : Ending Frame
deriving DecidableEq

/-- What happens next to a call in a phase. -/
def Conduct.event (w : Conduct) : Phase → Event
  | .checking => .begin
  | .dialing =>
    match w.dial with
    | .done socket => .dialed socket
    | .failed e => .refused e
    | .expired => .expired
  | .pausing => .expired
  | .sending =>
    match w.send with
    | .done () => .sent
    | .failed e => .sendFailed e
    | .expired => .expired
  | .receiving =>
    match w.receive with
    | .done frame => .received frame
    | .failed e => .receiveFailed e
    | .expired => .expired

/-! ## Runs -/

/-- The next step of a call without a canceller; an attempt meets the conduct of its number. -/
def proceed (conduct : Nat → Conduct) : Progress → Progress
  | .finished c result => .finished c result
  | .running c call =>
    match call.step false c ((conduct call.attempts).event call.phase) with
    | some (p, _) => p
    | none => .running c call

def run (conduct : Nat → Conduct) (c : Client) (request : Request) : Nat → Progress
  | 0 => .running c (.start request)
  | n + 1 => proceed conduct (run conduct c request n)

/-! What one step is in each phase. -/

theorem proceed_checking (conduct : Nat → Conduct) (c : Client) (request : Request) (k : Nat) :
    proceed conduct (.running c ⟨request, k, .checking⟩) =
      if exhausted c ⟨request, k, .checking⟩ then
        .finished c (.error (.retriesExhausted c.service request.command k))
      else if c.socket.isSome then .running c.countSend ⟨request, k + 1, .sending⟩
      else .running c ⟨request, k + 1, .dialing⟩ := by
  by_cases he : exhausted c ⟨request, k, .checking⟩ = true
  · simp [proceed, step, Conduct.event, begun, he]
  · by_cases hs : c.socket.isSome = true
    · simp [proceed, step, Conduct.event, begun, he, hs, beginSend, running]
    · simp [proceed, step, Conduct.event, begun, he, hs, running]

theorem proceed_dialing (conduct : Nat → Conduct) (c : Client) (request : Request) (k : Nat) :
    proceed conduct (.running c ⟨request, k, .dialing⟩) =
      match (conduct k).dial with
      | .done socket => .running (c.install socket).1.countSend ⟨request, k, .sending⟩
      | .failed _ | .expired => .running c ⟨request, k, .pausing⟩ := by
  cases hd : (conduct k).dial <;> simp [proceed, step, Conduct.event, hd, beginSend, running]

theorem proceed_pausing (conduct : Nat → Conduct) (c : Client) (request : Request) (k : Nat) :
    proceed conduct (.running c ⟨request, k, .pausing⟩) = .running c ⟨request, k, .checking⟩ := rfl

theorem proceed_sending (conduct : Nat → Conduct) (c : Client) (request : Request) (k : Nat) :
    proceed conduct (.running c ⟨request, k, .sending⟩) =
      match (conduct k).send with
      | .done () => .running c ⟨request, k, .receiving⟩
      | .failed _ | .expired => .running c.discard ⟨request, k, .checking⟩ := by
  cases hs : (conduct k).send <;> simp [proceed, step, Conduct.event, hs, retry, running]

theorem proceed_receiving (conduct : Nat → Conduct) (c : Client) (request : Request) (k : Nat) :
    proceed conduct (.running c ⟨request, k, .receiving⟩) =
      match (conduct k).receive with
      | .done frame => (answered c ⟨request, k, .receiving⟩ frame).1
      | .failed _ | .expired => .running c.discard ⟨request, k, .checking⟩ := by
  cases hr : (conduct k).receive <;> simp [proceed, step, Conduct.event, hr, retry, running]

/-! ## What attempts come to -/

/-- Whether an attempt holds a socket after its dial: the first may find one, and every failed attempt
gives its socket up. -/
def holds (conduct : Nat → Conduct) (c : Client) (k : Nat) : Bool :=
  (k = 1 && c.socket.isSome) ||
    match (conduct k).dial with
    | .done _ => true
    | .failed _ | .expired => false

/-- The bytes that an attempt receives, if it receives any. -/
def answer? (conduct : Nat → Conduct) (c : Client) (k : Nat) : Option Frame :=
  match holds conduct c k, (conduct k).send, (conduct k).receive with
  | true, .done (), .done frame => some frame
  | _, _, _ => none

section Attempts
variable {conduct : Nat → Conduct} {c : Client} {k : Nat}

theorem holds_first (hs : c.socket.isSome = true) : holds conduct c 1 = true := by
  simp [holds, hs]

theorem holds_of_dialed {socket : SocketId} (hd : (conduct k).dial = .done socket) :
    holds conduct c k = true := by
  simp [holds, hd]

theorem holds_of_undialed (hs : k = 1 → c.socket = none)
    (hd : ∀ socket, (conduct k).dial ≠ .done socket) : holds conduct c k = false := by
  have hfirst : (decide (k = 1) && c.socket.isSome) = false := by
    by_cases hk : k = 1
    · simp [hs hk]
    · simp [hk]
  cases hw : (conduct k).dial with
  | done socket => exact absurd hw (hd socket)
  | failed e => simp only [holds, hfirst, hw, Bool.or_false]
  | expired => simp only [holds, hfirst, hw, Bool.or_false]

theorem answer?_of_held (hh : holds conduct c k = true) (hs : (conduct k).send = .done ()) :
    answer? conduct c k =
      match (conduct k).receive with
      | .done frame => some frame
      | .failed _ | .expired => none := by
  simp only [answer?, hh, hs]
  cases (conduct k).receive <;> rfl

theorem answer?_of_unheld (hh : holds conduct c k = false) : answer? conduct c k = none := by
  simp only [answer?, hh]

theorem answer?_of_unsent (hs : (conduct k).send ≠ .done ()) : answer? conduct c k = none := by
  unfold answer?
  split
  · next hsent _ => exact absurd hsent hs
  · rfl

end Attempts

/-- The `k`-th attempt is the first to receive bytes, and it receives `frame`. -/
structure FirstAnswer (conduct : Nat → Conduct) (c : Client) (k : Nat) (frame : Frame) : Prop where
  positive : 0 < k
  answers : answer? conduct c k = some frame
  first : ∀ j, 0 < j → j < k → answer? conduct c j = none

/-- How many of the first `k` attempts hold a socket after their dial. -/
def holders (conduct : Nat → Conduct) (c : Client) (k : Nat) : Nat :=
  (List.range' 1 k).countP (holds conduct c)

theorem holders_succ (conduct : Nat → Conduct) (c : Client) (k : Nat) :
    holders conduct c (k + 1) = holders conduct c k + if holds conduct c (k + 1) then 1 else 0 := by
  rw [holders, List.range'_1_concat, List.countP_append, List.countP_singleton, Nat.add_comm 1 k]
  rfl

def verdict (c : Client) (request : Request) (frame : Frame) : Except CallError Reply :=
  match Reply.decode frame with
  | .error e => .error (.decode c.service e)
  | .ok reply =>
    if reply.isOk then .ok reply
    else .error (.application c.service request.command reply.message)

/-! ## One step -/

/-- How many attempts of a call are past their dial. -/
def pastDial (call : Call) : Nat :=
  match call.phase with
  | .dialing => call.attempts - 1
  | .checking | .pausing | .sending | .receiving => call.attempts

/-- How far an attempt has come by its phase. -/
def rank : Phase → Nat
  | .dialing => 1
  | .pausing => 2
  | .sending => 3
  | .receiving => 4
  | .checking => 5

/-- What a phase says of its attempt. -/
def Stands (conduct : Nat → Conduct) (c₀ c : Client) (call : Call) : Prop :=
  match call.phase with
  | .checking => c.socket.isSome = (call.attempts = 0 && c₀.socket.isSome) ∧
      ∀ j, 0 < j → j ≤ call.attempts → answer? conduct c₀ j = none
  | .dialing => 0 < call.attempts ∧ c.socket = none ∧ (call.attempts = 1 → c₀.socket = none)
  | .pausing => 0 < call.attempts ∧ c.socket = none ∧ holds conduct c₀ call.attempts = false
  | .sending => 0 < call.attempts ∧ c.socket.isSome = true ∧ holds conduct c₀ call.attempts = true
  | .receiving => 0 < call.attempts ∧ c.socket.isSome = true ∧
      holds conduct c₀ call.attempts = true ∧ (conduct call.attempts).send = .done ()

/-- What holds of a call that is still running after `n` steps. -/
structure Reached (conduct : Nat → Conduct) (c₀ : Client) (request : Request) (n : Nat) (c : Client)
    (call : Call) : Prop where
  endpoint_eq : c.endpoint = c₀.endpoint
  config_eq : c.config = c₀.config
  request_eq : call.request = request
  sends_eq : c.stats.sends = c₀.stats.sends + holders conduct c₀ call.pastDial
  allowed : ∀ m, c₀.config.maxAttempts = some m → call.attempts ≤ m
  unanswered : ∀ j, 0 < j → j < call.attempts → answer? conduct c₀ j = none
  steps_le : n + 5 ≤ 5 * call.attempts + rank call.phase
  stands : Stands conduct c₀ c call

theorem exhausted_iff (c : Client) (request : Request) (k : Nat) (phase : Phase) :
    exhausted c ⟨request, k, phase⟩ = true ↔ ∃ m, c.config.maxAttempts = some m ∧ m ≤ k := by
  unfold exhausted
  cases c.config.maxAttempts <;> simp

theorem reached_start (conduct : Nat → Conduct) (c : Client) (request : Request) :
    Reached conduct c request 0 c (.start request) where
  endpoint_eq := rfl
  config_eq := rfl
  request_eq := rfl
  sends_eq := rfl
  allowed := fun m _ => Nat.zero_le m
  unanswered := fun j _ hj => absurd hj (Nat.not_lt_zero j)
  steps_le := Nat.le_refl 5
  stands := ⟨by simp [start], fun j h0 hj => absurd hj (by simp only [start]; omega)⟩

/-! What a running call has reached, phase by phase; `next` puts the cases together. -/

section Next
variable {conduct : Nat → Conduct} {c₀ c c' : Client} {request : Request} {n k : Nat} {call' : Call}

theorem Reached.next_checking (h : Reached conduct c₀ request n c ⟨request, k, .checking⟩)
    (hn : proceed conduct (.running c ⟨request, k, .checking⟩) = .running c' call') :
    Reached conduct c₀ request (n + 1) c' call' := by
  obtain ⟨hend, hcfg, -, hsends, -, -, hsteps, hsock, hall⟩ := h
  simp only [rank, pastDial] at hsteps hsends hsock hall
  rw [proceed_checking] at hn
  by_cases he : exhausted c ⟨request, k, .checking⟩ = true
  · rw [if_pos he] at hn
    cases hn
  rw [if_neg he] at hn
  have hallow : ∀ m, c₀.config.maxAttempts = some m → k + 1 ≤ m := fun m hm =>
    Nat.lt_of_not_le fun hle => he ((exhausted_iff ..).mpr ⟨m, hcfg ▸ hm, hle⟩)
  have hun : ∀ j, 0 < j → j < k + 1 → answer? conduct c₀ j = none :=
    fun j h0 hj => hall j h0 (Nat.le_of_lt_succ hj)
  by_cases hs : c.socket.isSome = true
  · rw [if_pos hs] at hn
    cases hn
    -- Only the first attempt finds a socket.
    obtain ⟨rfl, hs₀⟩ : k = 0 ∧ c₀.socket.isSome = true := by
      rw [hsock] at hs
      simpa using hs
    have hh : holds conduct c₀ (0 + 1) = true := holds_first hs₀
    refine ⟨hend, hcfg, rfl, ?_, hallow, hun, by simp only [rank]; omega, Nat.one_pos, hs, hh⟩
    simp only [pastDial, holders_succ, if_pos hh, Client.countSend, hsends]
    omega
  · rw [if_neg hs] at hn
    cases hn
    have hnone : c.socket = none := by simpa using hs
    refine ⟨hend, hcfg, rfl, hsends, hallow, hun, by simp only [rank]; omega, Nat.succ_pos k, hnone, ?_⟩
    intro hk
    obtain rfl : k = 0 := by simpa using hk
    simpa [hnone] using hsock.symm

theorem Reached.next_dialing (h : Reached conduct c₀ request n c ⟨request, k, .dialing⟩)
    (hn : proceed conduct (.running c ⟨request, k, .dialing⟩) = .running c' call') :
    Reached conduct c₀ request (n + 1) c' call' := by
  obtain ⟨hend, hcfg, -, hsends, hallow, hun, hsteps, hpos, hnone, hfirst⟩ := h
  obtain ⟨k, rfl⟩ : ∃ i, k = i + 1 := ⟨k - 1, by simp only at hpos; omega⟩
  simp only [rank, pastDial, Nat.add_sub_cancel] at hsteps hsends
  rw [proceed_dialing] at hn
  by_cases hd : ∃ socket, (conduct (k + 1)).dial = .done socket
  · obtain ⟨socket, hd⟩ := hd
    simp only [hd] at hn
    cases hn
    obtain ⟨hend', hcfg', hsends'⟩ := c.install_kept socket
    have hh : holds conduct c₀ (k + 1) = true := holds_of_dialed hd
    refine ⟨hend'.trans hend, hcfg'.trans hcfg, rfl, ?_, hallow, hun,
      by simp only [rank]; omega, hpos, ?_, hh⟩
    · simp only [pastDial, holders_succ, if_pos hh, Client.countSend, hsends', hsends]
      omega
    · simp only [Client.countSend, c.install_socket, Option.isSome_some]
  · have hh : holds conduct c₀ (k + 1) = false :=
      holds_of_undialed hfirst fun socket hs => hd ⟨socket, hs⟩
    have hp : Progress.running c ⟨request, k + 1, .pausing⟩ = .running c' call' := by
      cases hw : (conduct (k + 1)).dial with
      | done socket => exact absurd ⟨socket, hw⟩ hd
      | failed e => simpa only [hw] using hn
      | expired => simpa only [hw] using hn
    cases hp
    refine ⟨hend, hcfg, rfl, ?_, hallow, hun, by simp only [rank]; omega, hpos, hnone, hh⟩
    simp [pastDial, holders_succ, hh, hsends]

/-- An attempt past its dial fails, and its socket is given up. -/
theorem Reached.failed {phase : Phase} (h : Reached conduct c₀ request n c ⟨request, k, phase⟩)
    (hdial : phase ≠ .dialing) (hcheck : phase ≠ .checking) (hpos : 0 < k)
    (hnone : answer? conduct c₀ k = none)
    (hkept : c'.endpoint = c.endpoint ∧ c'.config = c.config ∧ c'.stats.sends = c.stats.sends)
    (hsock : c'.socket = none) :
    Reached conduct c₀ request (n + 1) c' ⟨request, k, .checking⟩ := by
  obtain ⟨hend, hcfg, -, hsends, hallow, hun, hsteps, -⟩ := h
  have hpast : pastDial ⟨request, k, phase⟩ = k := by cases phase <;> first | rfl | contradiction
  have hrank : rank phase ≤ 4 := by cases phase <;> first | decide | contradiction
  simp only at hsteps
  rw [hpast] at hsends
  have hsteps' : n + 1 + 5 ≤ 5 * k + 5 := by omega
  refine ⟨hkept.1.trans hend, hkept.2.1.trans hcfg, rfl, hkept.2.2.trans hsends, hallow, hun,
    hsteps', ?_, ?_⟩
  · simp [hsock, Nat.pos_iff_ne_zero.mp hpos]
  · intro j h0 hj
    rcases Nat.lt_or_eq_of_le hj with hlt | rfl
    · exact hun j h0 hlt
    · exact hnone

theorem Reached.next_sending (h : Reached conduct c₀ request n c ⟨request, k, .sending⟩)
    (hn : proceed conduct (.running c ⟨request, k, .sending⟩) = .running c' call') :
    Reached conduct c₀ request (n + 1) c' call' := by
  have hfail : (conduct k).send ≠ .done () →
      Reached conduct c₀ request (n + 1) c.discard ⟨request, k, .checking⟩ := fun hs =>
    h.failed (by decide) (by decide) h.stands.1 (answer?_of_unsent hs) c.discard_kept c.discard_socket
  obtain ⟨hend, hcfg, -, hsends, hallow, hun, hsteps, hpos, hsome, hheld⟩ := h
  rw [proceed_sending] at hn
  cases hs : (conduct k).send with
  | done _ =>
    simp only [hs] at hn
    cases hn
    exact ⟨hend, hcfg, rfl, hsends, hallow, hun, by simp only [rank] at hsteps ⊢; omega, hpos,
      hsome, hheld, hs⟩
  | failed e =>
    simp only [hs] at hn
    cases hn
    exact hfail (by simp [hs])
  | expired =>
    simp only [hs] at hn
    cases hn
    exact hfail (by simp [hs])

theorem answered_fst (c : Client) (call : Call) (frame : Frame) :
    (answered c call frame).1 = .finished c (verdict c call.request frame) := by
  unfold answered verdict
  cases Reply.decode frame with
  | error e => rfl
  | ok reply => by_cases hok : reply.isOk = true <;> simp [hok]

theorem Reached.next_receiving (h : Reached conduct c₀ request n c ⟨request, k, .receiving⟩)
    (hn : proceed conduct (.running c ⟨request, k, .receiving⟩) = .running c' call') :
    Reached conduct c₀ request (n + 1) c' call' := by
  obtain ⟨hpos, -, hheld, hsent⟩ := h.stands
  have hans := answer?_of_held hheld hsent
  have hfail : answer? conduct c₀ k = none →
      Reached conduct c₀ request (n + 1) c.discard ⟨request, k, .checking⟩ := fun hnone =>
    h.failed (by decide) (by decide) hpos hnone c.discard_kept c.discard_socket
  rw [proceed_receiving] at hn
  cases hr : (conduct k).receive with
  | done frame =>
    simp only [hr, answered_fst] at hn
    cases hn
  | failed e =>
    simp only [hr] at hn hans
    cases hn
    exact hfail hans
  | expired =>
    simp only [hr] at hn hans
    cases hn
    exact hfail hans

/-- A running call takes a step and is still running. -/
theorem Reached.next {call : Call} (h : Reached conduct c₀ request n c call)
    (hn : proceed conduct (.running c call) = .running c' call') :
    Reached conduct c₀ request (n + 1) c' call' := by
  obtain ⟨asked, k, phase⟩ := call
  obtain rfl : asked = request := h.request_eq
  cases phase with
  | checking => exact h.next_checking hn
  | dialing => exact h.next_dialing hn
  | pausing =>
    obtain ⟨hpos, hnone, hheld⟩ := h.stands
    rw [proceed_pausing] at hn
    cases hn
    exact h.failed (by decide) (by decide) hpos (answer?_of_unheld hheld) ⟨rfl, rfl, rfl⟩ hnone
  | sending => exact h.next_sending hn
  | receiving => exact h.next_receiving hn

end Next

/-! ## Ends -/

/-- A call comes to its end within its `k`-th attempt, with one frame sent in each attempt that held a
socket. -/
def Ends (conduct : Nat → Conduct) (c : Client) (request : Request) (k : Nat)
    (result : Except CallError Reply) : Prop :=
  ∃ n c' call c'', run conduct c request n = .running c' call ∧ call.attempts = k ∧
    run conduct c request (n + 1) = .finished c'' result ∧
    c''.stats.sends = c.stats.sends + holders conduct c k

/-- A call goes on for ever, with ever more attempts. -/
def GoesOn (conduct : Nat → Conduct) (c : Client) (request : Request) : Prop :=
  ∀ n, ∃ c' call, run conduct c request n = .running c' call ∧ n ≤ 5 * call.attempts

section Law
variable {conduct : Nat → Conduct} {c₀ c c' : Client} {request : Request} {n : Nat} {call : Call}
  {result : Except CallError Reply}

/-- A running call takes a step and is at its end. -/
theorem Reached.finish (h : Reached conduct c₀ request n c call)
    (hn : proceed conduct (.running c call) = .finished c' result) :
    c'.stats.sends = c₀.stats.sends + holders conduct c₀ call.attempts ∧
      ((∃ frame, FirstAnswer conduct c₀ call.attempts frame ∧ result = verdict c₀ request frame) ∨
        c₀.config.maxAttempts = some call.attempts ∧
          (∀ j, 0 < j → j ≤ call.attempts → answer? conduct c₀ j = none) ∧
          result = .error (.retriesExhausted c₀.service request.command call.attempts)) := by
  obtain ⟨asked, k, phase⟩ := call
  obtain ⟨hend, hcfg, hreq, hsends, hallow, hun, -, hst⟩ := h
  obtain rfl : asked = request := hreq
  cases phase with
  | checking =>
    rw [proceed_checking] at hn
    split at hn
    · next he =>
      cases hn
      obtain ⟨m, hm, hle⟩ := (exhausted_iff ..).mp he
      rw [hcfg] at hm
      obtain rfl : m = k := Nat.le_antisymm hle (hallow m hm)
      exact ⟨hsends, .inr ⟨hm, hst.2, by rw [Client.service, hend, Client.service]⟩⟩
    · split at hn <;> cases hn
  | dialing =>
    rw [proceed_dialing] at hn
    split at hn <;> cases hn
  | pausing =>
    rw [proceed_pausing] at hn
    cases hn
  | sending =>
    rw [proceed_sending] at hn
    split at hn <;> cases hn
  | receiving =>
    obtain ⟨hpos, -, hheld, hsent⟩ := hst
    have hans := answer?_of_held hheld hsent
    rw [proceed_receiving] at hn
    cases hr : (conduct k).receive with
    | done frame =>
      simp only [hr, answered_fst] at hn hans
      cases hn
      refine ⟨hsends, .inl ⟨frame, ⟨hpos, hans, hun⟩, ?_⟩⟩
      simp only [verdict, Client.service, hend]
    | failed e =>
      simp only [hr] at hn
      cases hn
    | expired =>
      simp only [hr] at hn
      cases hn

/-- What a call that is still running after some steps has reached. -/
theorem run_reached (hrun : run conduct c₀ request n = .running c call) :
    Reached conduct c₀ request n c call := by
  induction n generalizing c call with
  | zero =>
    cases hrun
    exact reached_start ..
  | succ n ih =>
    cases hp : run conduct c₀ request n with
    | finished c' result =>
      rw [run, hp] at hrun
      cases hrun
    | running c' call' =>
      rw [run, hp] at hrun
      exact (ih hp).next hrun

/-- A call whose attempts cannot pass `k` comes to an end. -/
theorem run_ends {k : Nat}
    (hk : ∀ n c call, run conduct c₀ request n = .running c call → call.attempts ≤ k) :
    ∃ n c call c' result, run conduct c₀ request n = .running c call ∧
      run conduct c₀ request (n + 1) = .finished c' result := by
  -- The last of the steps after which the call is still running is the one sought.
  suffices ∀ N c' result, run conduct c₀ request N = .finished c' result →
      ∃ n c call c' result, run conduct c₀ request n = .running c call ∧
        run conduct c₀ request (n + 1) = .finished c' result by
    cases hN : run conduct c₀ request (5 * k + 1) with
    | finished c' result => exact this _ _ _ hN
    | running c call =>
      have hsteps := (run_reached hN).steps_le
      have hatt := hk _ _ _ hN
      have hrank : rank call.phase ≤ 5 := by cases call.phase <;> decide
      omega
  intro N
  induction N with
  | zero =>
    intro c' result h
    cases h
  | succ N ih =>
    intro c' result h
    cases hN : run conduct c₀ request N with
    | finished c result => exact ih _ _ hN
    | running c call => exact ⟨N, c, call, c', result, hN, h⟩

theorem Reached.holds_eq (h : Reached conduct c₀ request n c call) (hd : call.phase ≠ .dialing)
    (hc : call.phase ≠ .checking) : holds conduct c₀ call.attempts = c.socket.isSome := by
  have hst := h.stands
  unfold Stands at hst
  cases hp : call.phase with
  | checking => exact absurd hp hc
  | dialing => exact absurd hp hd
  | pausing =>
    simp only [hp] at hst
    rw [hst.2.2, hst.2.1, Option.isSome_none]
  | sending =>
    simp only [hp] at hst
    rw [hst.2.2, hst.2.1]
  | receiving =>
    simp only [hp] at hst
    rw [hst.2.2.1, hst.2.1]

/-- No attempt is begun after the first that receives bytes. -/
theorem Reached.attempts_le {k : Nat} {frame : Frame} (h : Reached conduct c₀ request n c call)
    (hk : FirstAnswer conduct c₀ k frame) : call.attempts ≤ k := by
  refine Nat.le_of_not_lt fun hlt => ?_
  have hnone := h.unanswered k hk.positive hlt
  rw [hk.answers] at hnone
  cases hnone

/-- A call whose attempts are bounded ends with the first answer or with its last attempt. -/
theorem ends_of_bounded {k : Nat}
    (hk : ∀ n c call, run conduct c₀ request n = .running c call → call.attempts ≤ k) :
    (∃ j frame, FirstAnswer conduct c₀ j frame ∧
      (∀ m, c₀.config.maxAttempts = some m → j ≤ m) ∧
      Ends conduct c₀ request j (verdict c₀ request frame)) ∨
    ∃ m, c₀.config.maxAttempts = some m ∧ (∀ j, 0 < j → j ≤ m → answer? conduct c₀ j = none) ∧
      Ends conduct c₀ request m (.error (.retriesExhausted c₀.service request.command m)) := by
  obtain ⟨n, c, call, c', result, hrun, hfin⟩ := run_ends hk
  have hreach := run_reached hrun
  have hp : proceed conduct (.running c call) = .finished c' result := by rw [← hfin, run, hrun]
  obtain ⟨hsends, ⟨frame, hfirst, rfl⟩ | ⟨hm, hnone, rfl⟩⟩ := hreach.finish hp
  · exact .inl ⟨_, frame, hfirst, hreach.allowed, n, c, call, c', hrun, rfl, hfin, hsends⟩
  · exact .inr ⟨_, hm, hnone, n, c, call, c', hrun, rfl, hfin, hsends⟩

end Law

theorem FirstAnswer.unique {conduct : Nat → Conduct} {c : Client} {j k : Nat} {frame frame' : Frame}
    (hj : FirstAnswer conduct c j frame) (hk : FirstAnswer conduct c k frame') :
    j = k ∧ frame = frame' := by
  have hjk : j = k := by
    rcases Nat.lt_trichotomy j k with hlt | heq | hlt
    · exact absurd (hk.first j hj.positive hlt) (by simp [hj.answers])
    · exact heq
    · exact absurd (hj.first k hk.positive hlt) (by simp [hk.answers])
  subst hjk
  exact ⟨rfl, Option.some.inj (hj.answers.symm.trans hk.answers)⟩

/-- How a call without a canceller ends, or goes on. An attempt past its dial holds a socket as `holds`
says, and the frames sent are one for each attempt that does. -/
theorem call_outcome (conduct : Nat → Conduct) (c : Client) (request : Request) :
    (∀ k frame, FirstAnswer conduct c k frame →
      (∀ m, c.config.maxAttempts = some m → k ≤ m) →
      Ends conduct c request k (verdict c request frame)) ∧
    (∀ m, c.config.maxAttempts = some m →
      (∀ k frame, FirstAnswer conduct c k frame → m < k) →
      Ends conduct c request m (.error (.retriesExhausted c.service request.command m))) ∧
    (c.config.maxAttempts = none → (∀ k frame, ¬FirstAnswer conduct c k frame) →
      GoesOn conduct c request) ∧
    ∀ n c' call, run conduct c request n = .running c' call →
      c'.stats.sends = c.stats.sends + holders conduct c call.pastDial ∧
        (call.phase ≠ .dialing → call.phase ≠ .checking →
          holds conduct c call.attempts = c'.socket.isSome) := by
  refine ⟨?_, ?_, ?_, ?_⟩
  · intro k frame hk hallow
    have hbound : ∀ n c' call, run conduct c request n = .running c' call → call.attempts ≤ k :=
      fun n c' call hrun => (run_reached hrun).attempts_le hk
    obtain ⟨j, frame', hj, -, hends⟩ | ⟨m, hm, hnone, -⟩ := ends_of_bounded hbound
    · obtain ⟨rfl, rfl⟩ := hj.unique hk
      exact hends
    · -- The attempts did not run out before the `k`-th.
      have hk' := hnone k hk.positive (hallow m hm)
      rw [hk.answers] at hk'
      cases hk'
  · intro m hm hlate
    have hbound : ∀ n c' call, run conduct c request n = .running c' call → call.attempts ≤ m :=
      fun n c' call hrun => (run_reached hrun).allowed m hm
    obtain ⟨j, frame, hj, hle, -⟩ | ⟨m', hm', -, hends⟩ := ends_of_bounded hbound
    · exact absurd (hlate j frame hj) (Nat.not_lt.mpr (hle m hm))
    · obtain rfl : m' = m := Option.some.inj (hm'.symm.trans hm)
      exact hends
  · intro hm hnever n
    induction n with
    | zero => exact ⟨c, .start request, rfl, Nat.zero_le _⟩
    | succ n ih =>
      obtain ⟨c', call, hrun, -⟩ := ih
      cases hp : proceed conduct (.running c' call) with
      | finished c'' result =>
        obtain ⟨-, ⟨frame, hfirst, -⟩ | ⟨hm', -⟩⟩ := (run_reached hrun).finish hp
        · exact absurd hfirst (hnever _ _)
        · rw [hm] at hm'
          cases hm'
      | running c'' call' =>
        have hnext : run conduct c request (n + 1) = .running c'' call' := by rw [run, hrun, hp]
        have hsteps := (run_reached hnext).steps_le
        have hrank : rank call'.phase ≤ 5 := by cases call'.phase <;> decide
        exact ⟨c'', call', hnext, by omega⟩
  · intro n c' call hrun
    have hreach := run_reached hrun
    exact ⟨hreach.sends_eq, hreach.holds_eq⟩

/-- The first attempt is refused, the second waits in vain, the third is answered. -/
def thirdTime (frame : Frame) : Nat → Conduct
  | 1 => ⟨.failed .closed, .expired, .expired⟩
  | 2 => ⟨.done 0, .done (), .expired⟩
  | _ => ⟨.done 1, .done (), .done frame⟩

theorem call_outcome_third :
    Ends (thirdTime (Reply.ok .empty).encode)
      (.new ⟨"dome", "localhost", 7000, none, none⟩ ⟨.ofMillis 10, .ofMillis 5, some 3⟩)
      ⟨"park", .empty⟩ 3 (.ok (.ok .empty)) := by
  have hverdict (c : Client) :
      verdict c ⟨"park", .empty⟩ (Reply.ok .empty).encode = .ok (.ok .empty) := by
    rw [verdict, Reply.decode_carried Params.carried_empty]
    rfl
  rw [← hverdict]
  refine (call_outcome _ _ _).1 3 _ ⟨by decide, by rfl, fun j h0 h3 => ?_⟩ fun m hm => ?_
  · obtain rfl | rfl : j = 1 ∨ j = 2 := by omega
    · rfl
    · rfl
  · cases hm
    exact Nat.le_refl 3

end Call
end MessageBus
