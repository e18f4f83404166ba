import MessageBus.Proofs.History
import MessageBus.Proofs.Lookup
import MessageBus.Publisher
/-!
# Outlets

A publisher with all who publish through its handles: any number of calls may be under way, each of which
waits while the queue is full, and any of them or the publisher may go on next. What a step of an outlet can
do is told by `Outlet.Move`, what a step of the publisher can do by `Publisher.Move`.
-/
namespace MessageBus
set_option autoImplicit false
open Telemetry (Metric)

/-! ## Steps of a publisher -/

namespace Publisher

inductive Move (fired : Bool) (p : Publisher) : Event → Publisher → List Metric → Prop
  | took {b : Broadcast} {rest : List Broadcast} (hp : p.phase = .waiting) (hq : p.queue = b :: rest) :
      Move fired p .took { p with queue := rest, phase := .writing b } []
  | drained (hp : p.phase = .waiting) (hq : p.queue = []) (hh : p.handles = 0) :
      Move fired p .drained (p.finish (.ok p.published)) []
  | cancelled (hp : p.phase = .waiting) (hf : fired = true) :
      Move fired p .cancelled (p.finish (.ok p.published)) []
  | written {b : Broadcast} (hp : p.phase = .writing b) :
      Move fired p .written { p with published := p.published + 1, phase := .waiting }
        [.broadcastPublished b.topic]
  | writeFailed {b : Broadcast} {why : SocketError} (hp : p.phase = .writing b) :
      Move fired p (.writeFailed why) (p.finish (.error (.send b.topic why))) []

variable {p p' : Publisher} {fired : Bool} {e : Event} {counted : List Metric}

theorem step_move (h : p.step fired e = some (p', counted)) : Move fired p e p' counted := by
  unfold step at h
  split at h
  · next hp =>
    split at h
    · cases h
    · next hq =>
      cases h
      exact .took hp hq
  · next hp =>
    split at h
    · next hd =>
      cases h
      simp only [Bool.and_eq_true, List.isEmpty_iff, decide_eq_true_eq] at hd
      exact .drained hp hd.1 hd.2
    · cases h
  · next hp =>
    split at h
    · next hf =>
      cases h
      exact .cancelled hp hf
    · cases h
  · next hp =>
    cases h
    exact .written hp
  · next hp =>
    cases h
    exact .writeFailed hp
  · cases h

theorem Move.not_finished {result : Except PublisherError Nat} (h : Move fired p e p' counted)
    (hp : p.phase = .finished result) : False := by
  cases h with
  | took hp' _ | drained hp' _ _ | cancelled hp' _ | written hp' | writeFailed hp' =>
    cases hp.symm.trans hp'

/-- Once a publisher has ended, its queue takes nothing more. -/
theorem publish_finished {result : Except PublisherError Nat} (hp : p.phase = .finished result)
    (b : Broadcast) : p.publish b = some (.error .closed) := by
  rw [publish, isClosed, hp]
  rfl

theorem publish_ok {b : Broadcast} (h : p.publish b = some (.ok p')) :
    p.isClosed = false ∧ p' = { p with queue := p.queue ++ [b] } := by
  unfold publish at h
  split at h
  · cases h
  · next hopen =>
    split at h
    · cases h
    · cases h
      exact ⟨by simpa using hopen, rfl⟩

/-- What was asked to be published where it matters was queued if anybody is interested. -/
theorem publishMatching_ok {book : Book} {topic : Topic} {reply : Reply} {n : Nat}
    (h : p.publishMatching book topic reply = some (.ok (p', n))) :
    n = (book.interested topic).length ∧
      (n = 0 ∧ p' = p ∨ n ≠ 0 ∧ ∃ b, Broadcast.make topic.render reply = .ok b ∧
        p.isClosed = false ∧ p' = { p with queue := p.queue ++ [b] }) := by
  unfold publishMatching at h
  split at h
  · next hn =>
    cases h
    exact ⟨hn.symm, .inl ⟨rfl, rfl⟩⟩
  · next hn =>
    split at h
    · cases h
    · next b hb =>
      obtain ⟨r, hr, heq⟩ := Option.map_eq_some_iff.mp h
      cases r with
      | error e => cases heq
      | ok q =>
        cases heq
        exact ⟨rfl, .inr ⟨hn, b, hb, publish_ok hr⟩⟩

end Publisher

/-! ## Calls -/

namespace Outlet

/-- What is asked of a handle. A matching call brings the book as it finds it. -/
inductive Ask
  | publish (b : Broadcast)
  | matching (book : Book) (topic : Topic) (reply : Reply)

/-- What a call makes of a publisher, and how many it found interested, if it counts them; `none` while it
has to wait. -/
def Ask.start (p : Publisher) : Ask → Option (Except PublisherError (Publisher × Option Nat))
  | .publish b => (p.publish b).map fun r => r.map (·, none)
  | .matching book topic reply =>
    (p.publishMatching book topic reply).map fun r => r.map fun (p, n) => (p, some n)

/-- How many are interested in what is asked to be published, if it is asked. -/
def Ask.interested : Ask → Option Nat
  | .publish _ => none
  | .matching book topic _ => some (book.interested topic).length

/-- What a call queues if it succeeds. -/
def Ask.offered : Ask → List Broadcast
  | .publish b => [b]
  | .matching book topic reply =>
    if (book.interested topic).length = 0 then [] else (Broadcast.make topic.render reply).toOption.toList

theorem Ask.start_ok {p p' : Publisher} {ask : Ask} {told : Option Nat}
    (h : ask.start p = some (.ok (p', told))) :
    told = ask.interested ∧ p' = { p with queue := p.queue ++ ask.offered } ∧
      (p.isClosed = true → ask.offered = []) ∧ (told = some 0 ∨ ask.offered.length = 1) := by
  cases ask with
  | publish b =>
    obtain ⟨r, hr, h⟩ := Option.map_eq_some_iff.mp h
    cases r with
    | error e => cases h
    | ok q =>
      cases h
      obtain ⟨hopen, rfl⟩ := Publisher.publish_ok hr
      exact ⟨rfl, rfl, fun hclosed => absurd (hopen.symm.trans hclosed) Bool.false_ne_true, .inr rfl⟩
  | matching book topic reply =>
    obtain ⟨r, hr, h⟩ := Option.map_eq_some_iff.mp h
    cases r with
    | error e => cases h
    | ok q =>
      cases h
      obtain ⟨hn, ⟨hzero, rfl⟩ | ⟨hpos, b, hb, hopen, hp⟩⟩ := Publisher.publishMatching_ok hr
      · have hoffered : (Ask.matching book topic reply).offered = [] := if_pos (hn ▸ hzero)
        refine ⟨congrArg some hn, ?_, fun _ => hoffered, .inl (congrArg some hzero)⟩
        rw [hoffered, List.append_nil]
      · have hoffered : (Ask.matching book topic reply).offered = [b] := by
          rw [offered, if_neg (hn ▸ hpos), hb]
          rfl
        rw [hoffered]
        exact ⟨congrArg some hn, hp,
          fun hclosed => absurd (hopen.symm.trans hclosed) Bool.false_ne_true, .inr rfl⟩

structure Call where
  ask : Ask
  result? : Option (Except PublisherError (Option Nat))

def Call.ended (result : Except PublisherError (Option Nat)) (c : Call) : Call :=
  { c with result? := some result }

def Call.queued (c : Call) : List Broadcast :=
  match c.result? with
  | some (.ok _) => c.ask.offered
  | _ => []

inductive Event
  /-- Something happens to the publisher; `fired` says whether its canceller has given the signal by then. -/
  | loop (fired : Bool) (e : Publisher.Event)
  | call (ask : Ask)
  | proceed (id : Nat)
  | giveUp (id : Nat)
  | clone
  | drop

end Outlet

structure Outlet where
  publisher : Publisher
  calls : Pool Outlet.Call

namespace Outlet

/-! ## Steps of an outlet -/

def start (capacity : Nat) : Outlet := ⟨.new capacity, .empty⟩

def underWay (s : Outlet) : Nat := s.calls.count fun c => c.result?.isNone

def asked? (s : Outlet) (id : Nat) : Option Ask :=
  (s.calls.get? id).bind fun c => if c.result?.isNone then some c.ask else none

/-- What an event makes of an outlet, and what it counts; `none` if the event cannot happen now. The last
handle stays as long as a call holds it. -/
def step (s : Outlet) : Event → Option (Outlet × List Metric)
  | .loop fired e => (s.publisher.step fired e).map fun (p, counted) => ({ s with publisher := p }, counted)
  | .call ask =>
    if 0 < s.publisher.handles then some ({ s with calls := s.calls.add ⟨ask, none⟩ }, []) else none
  | .proceed id =>
    (s.asked? id).bind fun ask => (ask.start s.publisher).map fun
      | .ok (p, told) => (⟨p, s.calls.modify id (·.ended (.ok told))⟩, [])
      | .error e => ({ s with calls := s.calls.modify id (·.ended (.error e)) }, [])
  | .giveUp id => (s.asked? id).map fun _ => ({ s with calls := s.calls.remove id }, [])
  | .clone =>
    if 0 < s.publisher.handles then some ({ s with publisher := s.publisher.addHandle }, []) else none
  | .drop =>
    if 1 < s.publisher.handles ∨ s.publisher.handles = 1 ∧ s.underWay = 0 then
      some ({ s with publisher := s.publisher.dropHandle }, [])
    else none

inductive Move (s : Outlet) : Event → Outlet → List Metric → Prop
  | looped {fired : Bool} {e : Publisher.Event} {p : Publisher} {counted : List Metric}
      (h : Publisher.Move fired s.publisher e p counted) :
      Move s (.loop fired e) { s with publisher := p } counted
  | called {ask : Ask} : Move s (.call ask) { s with calls := s.calls.add ⟨ask, none⟩ } []
  | succeeded {id : Nat} {ask : Ask} (hc : s.calls.get? id = some ⟨ask, none⟩)
      (hclosed : s.publisher.isClosed = true → ask.offered = [])
      (hoffered : ask.interested = some 0 ∨ ask.offered.length = 1) :
      Move s (.proceed id)
        ⟨{ s.publisher with queue := s.publisher.queue ++ ask.offered },
          s.calls.modify id (·.ended (.ok ask.interested))⟩ []
  | refused {id : Nat} {ask : Ask} {e : PublisherError} (hc : s.calls.get? id = some ⟨ask, none⟩) :
      Move s (.proceed id) { s with calls := s.calls.modify id (·.ended (.error e)) } []
  | givenUp {id : Nat} {ask : Ask} (hc : s.calls.get? id = some ⟨ask, none⟩) :
      Move s (.giveUp id) { s with calls := s.calls.remove id } []
  | cloned : Move s .clone { s with publisher := s.publisher.addHandle } []
  | dropped : Move s .drop { s with publisher := s.publisher.dropHandle } []

variable {s s' : Outlet} {e : Event} {counted : List Metric}

theorem asked?_some {id : Nat} {ask : Ask} : s.asked? id = some ask ↔
    s.calls.get? id = some ⟨ask, none⟩ := by
  constructor
  · intro h
    obtain ⟨⟨ask', result?⟩, hc, h⟩ := Option.bind_eq_some_iff.mp h
    cases result? with
    | none =>
      cases h
      exact hc
    | some result => cases h
  · intro h
    rw [asked?, h]
    rfl

theorem step_move (h : s.step e = some (s', counted)) : Move s e s' counted := by
  cases e with
  | loop fired e =>
    obtain ⟨⟨p, ms⟩, hp, heq⟩ := Option.map_eq_some_iff.mp h
    cases heq
    exact .looped (Publisher.step_move hp)
  | call ask =>
    simp only [step] at h
    split at h <;> cases h
    exact .called
  | proceed id =>
    obtain ⟨ask, hask, h⟩ := Option.bind_eq_some_iff.mp h
    obtain ⟨r, hr, heq⟩ := Option.map_eq_some_iff.mp h
    have hc := asked?_some.mp hask
    cases r with
    | error why =>
      cases heq
      exact .refused hc
    | ok q =>
      cases heq
      obtain ⟨htold, hp, hclosed, hoffered⟩ := Ask.start_ok hr
      rw [hp, htold]
      exact .succeeded hc hclosed (htold ▸ hoffered)
  | giveUp id =>
    obtain ⟨ask, hask, heq⟩ := Option.map_eq_some_iff.mp h
    cases heq
    exact .givenUp (asked?_some.mp hask)
  | clone =>
    simp only [step] at h
    split at h <;> cases h
    exact .cloned
  | drop =>
    simp only [step] at h
    split at h <;> cases h
    exact .dropped

end Outlet
end MessageBus
