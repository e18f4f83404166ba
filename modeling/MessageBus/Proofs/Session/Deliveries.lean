import MessageBus.Proofs.Session.Forwarding
/-!
# What a session counts

`deliveries_counted`: when a session has come to its end, its counters say what became of every broadcast. A
broadcast is counted when a task takes it in hand, before it is known whether the consumer will get it, and a
failure that the service broadcasts is counted only after that. `Balanced` says for one transition what is
counted, what is enqueued and what is withheld; `Withholding` says that at most one broadcast is withheld.
-/
namespace MessageBus
set_option autoImplicit false
open Telemetry (Metric)

/-! ## Counters -/

namespace Telemetry

/-- How often a broadcast was received, by whether it is good. -/
def received (ok : Bool) (ms : List Metric) : Nat := ms.count (.broadcastReceived ok)

/-- How often a session failed, over all reasons. -/
def failures (ms : List Metric) : Nat :=
  ms.countP fun
    | .subscriptionFailure _ => true
    | _ => false

/-- Neither broadcasts nor failures are counted. -/
structure Silent (ms : List Metric) : Prop where
  received : ∀ ok, received ok ms = 0
  failures : failures ms = 0

theorem received_append (ok : Bool) (ms more : List Metric) :
    received ok (ms ++ more) = received ok ms + received ok more := List.count_append

theorem failures_append (ms more : List Metric) : failures (ms ++ more) = failures ms + failures more :=
  List.countP_append

theorem silent_nil : Silent [] := ⟨fun _ => rfl, rfl⟩

end Telemetry

/-- A call counts neither broadcasts nor failures of sessions. -/
theorem Call.step_silent {fired : Bool} {c : Client} {call : Call} {e : Event} {p : Progress}
    {ms : List Metric} (h : call.step fired c e = some (p, ms)) : Telemetry.Silent ms := by
  cases step_move h with
  | exhausted | forestalled | reuses | dials | undialed | rested | sent | abandoned =>
    exact ⟨fun _ => rfl, rfl⟩
  | dialed =>
    unfold Client.install
    split <;> exact ⟨fun _ => rfl, rfl⟩
  | failed =>
    unfold failedMetrics
    split <;> exact ⟨fun _ => rfl, rfl⟩
  | answered =>
    unfold answered
    split
    · exact ⟨fun _ => rfl, rfl⟩
    · split <;> exact ⟨fun _ => rfl, rfl⟩

namespace Session
open Telemetry (received failures received_append failures_append silent_nil)

/-- Everything that was counted, oldest first. -/
def counted (trace : List Transition) : List Metric := trace.flatMap Transition.metrics

/-! ## What becomes of a broadcast -/

/-- The broadcast that a transition gives up handing over. -/
def Transition.withheld? (t : Transition) : Option Broadcast :=
  match t.event, t.before.driver, t.before.receiver with
  | .driver (.handed .accepted), _, _ | .receiver (.handed .accepted), _, _ => none
  | .driver (.handed _), .failing b, _ => some b
  | .receiver (.handed _), _, .forwarding b _ => some b
  | _, _, _ => none

/-- Everything that a task had in hand and did not enqueue, oldest first. -/
def withheld (trace : List Transition) : List Broadcast := trace.filterMap Transition.withheld?

/-- The broadcast that the driver has in hand. -/
def Driver.inHand? : Driver → Option Broadcast
  | .failing b => some b
  | _ => none

/-- The broadcast that the receiver has in hand. -/
def Receiver.inHand? : Receiver → Option Broadcast
  | .forwarding b _ => some b
  | _ => none

/-- Whether a failure is still to be counted: one that the service broadcast, until it is handed over. -/
def Receiver.owing : Receiver → Bool
  | .forwarding b true => !b.isOk
  | _ => false

/-- What the tasks have in hand. -/
def inHand (s : Session) : List Broadcast := s.driver.inHand?.toList ++ s.receiver.inHand?.toList

/-- How many broadcasts are good, or not. -/
def tally (ok : Bool) (bs : List Broadcast) : Nat := bs.countP fun b => b.isOk = ok

theorem tally_append (ok : Bool) (bs more : List Broadcast) :
    tally ok (bs ++ more) = tally ok bs + tally ok more := List.countP_append

theorem tally_length (bs : List Broadcast) : tally true bs + tally false bs = bs.length := by
  induction bs with
  | nil => rfl
  | cons b bs ih =>
    rw [tally, tally, List.countP_cons, List.countP_cons]
    change tally true bs + _ + (tally false bs + _) = _
    cases hb : b.isOk <;> simp <;> omega

/-! ## Transitions -/

/-- What is counted, and what becomes of the broadcasts that tasks have in hand. -/
structure Balanced (t : Transition) : Prop where
  received : ∀ ok, received ok t.metrics + tally ok t.before.inHand =
    tally ok t.enqueued?.toList + tally ok t.withheld?.toList + tally ok t.after.inHand
  failures : failures t.metrics + t.after.receiver.owing.toNat =
    Telemetry.received false t.metrics + t.before.receiver.owing.toNat

section Transitions
variable {s s' : Session} {ms : List Metric} {e : Event}

/-- Nothing is taken in hand or out of it. -/
theorem balanced_quiet (hms : Telemetry.Silent ms) (he : Transition.enqueued? ⟨s, e, s', ms⟩ = none)
    (hw : Transition.withheld? ⟨s, e, s', ms⟩ = none) (hh : s'.inHand = s.inHand)
    (ho : s'.receiver.owing = s.receiver.owing) : Balanced ⟨s, e, s', ms⟩ where
  received ok := by
    rw [he, hw, hms.received ok, hh]
    rfl
  failures := by rw [ho, hms.failures, hms.received false]

/-- A session that begins to tell of a failure of its own counts it, and its broadcast. -/
theorem balanced_fails (f : Failure) (hms : Telemetry.Silent ms)
    (he : ∀ ms, Transition.enqueued? ⟨s, e, s', ms⟩ = none)
    (hw : ∀ ms, Transition.withheld? ⟨s, e, s', ms⟩ = none)
    (hh : s'.inHand = s.inHand ++ [s.plan.failure f]) (ho : s'.receiver.owing = s.receiver.owing) :
    Balanced ⟨s, e, s', ms ++ failureMetrics f⟩ where
  received ok := by
    have hone : received ok (failureMetrics f) = tally ok [s.plan.failure f] := by cases ok <;> rfl
    rw [he, hw, hh, received_append, hms.received ok, hone, tally_append]
    simp only [Option.toList_none, tally, List.countP_nil]
    omega
  failures := by
    have hone : failures (failureMetrics f) = received false (failureMetrics f) := rfl
    rw [ho, failures_append, received_append, hms.failures, hms.received false, hone]

/-- A broadcast leaves the hands of a task: it is enqueued or withheld. -/
theorem balanced_handed {b : Broadcast} (hms : ∀ ok, received ok ms = 0)
    (hb : Transition.enqueued? ⟨s, e, s', ms⟩ = some b ∧ Transition.withheld? ⟨s, e, s', ms⟩ = none ∨
      Transition.enqueued? ⟨s, e, s', ms⟩ = none ∧ Transition.withheld? ⟨s, e, s', ms⟩ = some b)
    (hh : s.inHand = b :: s'.inHand)
    (ho : failures ms + s'.receiver.owing.toNat = s.receiver.owing.toNat) : Balanced ⟨s, e, s', ms⟩ where
  received ok := by
    have hout : tally ok (Transition.enqueued? ⟨s, e, s', ms⟩).toList +
        tally ok (Transition.withheld? ⟨s, e, s', ms⟩).toList = tally ok [b] := by
      rcases hb with ⟨he, hw⟩ | ⟨he, hw⟩
      · rw [he, hw]
        rfl
      · rw [he, hw]
        exact Nat.zero_add _
    rw [hout, hms ok, hh, Nat.zero_add, ← tally_append]
    rfl
  failures := by rw [hms false, Nat.zero_add, ho]

theorem driver_balanced {e : DriverEvent} (hst : Staged s) (hm : DriverMove s e s' ms) :
    Balanced ⟨s, .driver e, s', ms⟩ := by
  cases hm with
  | opens hd | connected hd | settled hd | closed hd | followed hd | joined hd =>
    exact balanced_quiet silent_nil rfl rfl (by rw [inHand, inHand, hd]; rfl) rfl
  | calls hd hc | abandoned hd hc =>
    exact balanced_quiet (Call.step_silent hc) rfl rfl (by rw [inHand, inHand, hd]; rfl) rfl
  | subscribed hd hc =>
    have hr := hst.absent_of_subscribing hd
    exact balanced_quiet (Call.step_silent hc) rfl rfl (by rw [inHand, inHand, hd, hr]; rfl)
      (by rw [hr]; rfl)
  | portless hd | unconnected hd | overdue hd =>
    have hr : s.receiver = .absent := by
      rw [Staged, hd] at hst
      exact hst.2
    exact balanced_fails _ silent_nil (fun _ => rfl) (fun _ => rfl)
      (by rw [inHand, inHand, hd, hr]; rfl) rfl
  | unsubscribed hd _ hc =>
    have hr := hst.absent_of_subscribing hd
    exact balanced_fails _ (Call.step_silent hc) (fun _ => rfl) (fun _ => rfl)
      (by rw [inHand, inHand, hd, hr]; rfl) rfl
  | tells hd ha hroom =>
    refine balanced_handed (fun _ => rfl) (.inl ⟨?_, rfl⟩) (by rw [inHand, inHand, hd]; rfl)
      (Nat.zero_add _)
    simp only [Transition.enqueued?, hd]
  | keepsBack hd hg =>
    refine balanced_handed (fun _ => rfl) (.inr ?_) (by rw [inHand, inHand, hd]; rfl) (Nat.zero_add _)
    cases hg <;> simp only [Transition.enqueued?, Transition.withheld?, hd, and_self]
  | stopped hd hc =>
    obtain hd | ⟨target, hd⟩ := hd
    · exact balanced_quiet silent_nil rfl rfl (by rw [inHand, inHand, hd]; rfl) rfl
    · exact balanced_quiet silent_nil rfl rfl (by rw [inHand, inHand, hd]; rfl) rfl

/-- A failing broadcast from the service is counted as a failure once it has left the receiver. -/
theorem failures_remote (b : Broadcast) (remote : Bool) :
    failures (if !b.isOk && remote then [.subscriptionFailure .remote] else []) =
      (Receiver.forwarding b remote).owing.toNat := by
  cases remote with
  | false => simp [failures, Receiver.owing]
  | true => cases hb : b.isOk <;> simp [failures, Receiver.owing, hb]

theorem received_remote (c : Prop) [Decidable c] (ok : Bool) :
    received ok (if c then [.subscriptionFailure .remote] else []) = 0 := by
  split <;> rfl

theorem receiver_balanced {e : ReceiverEvent} (hst : Staged s) (hm : ReceiverMove s e s' ms) :
    Balanced ⟨s, .receiver e, s', ms⟩ := by
  have hd := hst.following hm.running
  cases hm with
  | broken hr | malformed hr | alerted hr =>
    exact balanced_fails _ silent_nil (fun _ => rfl) (fun _ => rfl)
      (by rw [inHand, inHand, hd, hr]; rfl) (by rw [hr]; rfl)
  | @heard frame b hr _ =>
    refine ⟨fun ok => ?_, ?_⟩
    · simp only [inHand, hd, hr, Driver.inHand?, Receiver.inHand?]
      cases ok <;> cases hb : b.isOk <;> simp [received, tally, hb, Transition.enqueued?, Transition.withheld?]
    · simp only [hr, Receiver.owing]
      cases hb : b.isOk <;> simp [received, failures]
  | deserted hr | stopped hr =>
    exact balanced_quiet silent_nil rfl rfl (by rw [inHand, inHand, hr]; rfl) (by rw [hr]; rfl)
  | @passes b remote hr _ _ hb =>
    refine balanced_handed (fun _ => rfl) (.inl ⟨?_, rfl⟩) (by rw [inHand, inHand, hd, hr]; rfl) ?_
    · simp only [Transition.enqueued?, hr]
    · rw [hr]
      cases remote <;> simp [failures, Receiver.owing, hb]
  | @tells b remote hr _ _ hb =>
    refine balanced_handed (received_remote _) (.inl ⟨?_, rfl⟩) (by rw [inHand, inHand, hd, hr]; rfl) ?_
    · simp only [Transition.enqueued?, hr]
    · rw [hr, ← failures_remote, hb]
      cases remote <;> rfl
  | @keepsBack b remote _ hr hg =>
    refine balanced_handed (received_remote _) (.inr ?_) (by rw [inHand, inHand, hd, hr]; rfl) ?_
    · cases hg <;> simp only [Transition.enqueued?, Transition.withheld?, hr, and_self]
    · rw [hr, ← failures_remote]
      rfl

theorem move_balanced (hst : Staged s) (hm : Move s e s' ms) : Balanced ⟨s, e, s', ms⟩ := by
  cases hm with
  | driver hm => exact driver_balanced hst hm
  | receiver hm => exact receiver_balanced hst hm
  | heartbeat hm =>
    cases hm with
    | ticked => exact balanced_quiet ⟨fun _ => rfl, rfl⟩ rfl rfl rfl rfl
    | calls _ hc | beaten _ hc | abandoned _ hc | unbeaten _ _ hc =>
      exact balanced_quiet (Call.step_silent hc) rfl rfl rfl rfl
    | begins | breaks | reported | stopped => exact balanced_quiet silent_nil rfl rfl rfl rfl
  | consumer hm => cases hm <;> exact balanced_quiet silent_nil rfl rfl rfl rfl

/-- What is withheld is the last thing that a task has in hand, and the consumer has given it up. -/
theorem move_withholds {b : Broadcast} (hst : Staged s) (hm : Move s e s' ms)
    (hw : Transition.withheld? ⟨s, e, s', ms⟩ = some b) :
    s.mayHand = true ∧ s'.mayHand = false ∧ Transition.enqueued? ⟨s, e, s', ms⟩ = none ∧
      (s.attached = false ∨ s.cancelled = true) := by
  have hgone {way : Handover} (hg : GivenUp s way) : s.attached = false ∨ s.cancelled = true := by
    cases hg with
    | refused h => exact .inl h
    | withdrawn h => exact .inr h
  cases hm with
  | driver hm =>
    cases hm with
    | keepsBack hd hg =>
      exact ⟨by simp only [mayHand, hd], rfl, by cases hg <;> rfl, hgone hg⟩
    | _ => cases hw
  | heartbeat hm => cases hm <;> cases hw
  | receiver hm =>
    have hd := hst.following hm.running
    have hmay := mayHand_of_running hst hm.running
    cases hm with
    | keepsBack hr hg =>
      exact ⟨hmay, by simp only [mayHand, hd, Receiver.running], by cases hg <;> rfl, hgone hg⟩
    | _ => cases hw
  | consumer hm => cases hm <;> cases hw

end Transitions

/-! ## Runs -/

/-- The counters say what was enqueued, what was withheld and what is in hand. -/
structure Tallied (trace : List Transition) (s : Session) : Prop where
  received : ∀ ok, received ok (counted trace) =
    tally ok (enqueued trace) + tally ok (withheld trace) + tally ok s.inHand
  failures : failures (counted trace) + s.receiver.owing.toNat = Telemetry.received false (counted trace)

/-- At most one broadcast is withheld: the last one that a task had in hand, after good ones only, because the
consumer cancelled the session while something could still be handed over. -/
inductive Withholding (trace : List Transition) (s : Session) : Prop
  | nothing (h : withheld trace = [])
  | once {b : Broadcast} (h : withheld trace = [b]) (hmay : s.mayHand = false)
      (hgood : ∀ a ∈ enqueued trace, a.isOk = true)
      (hsignal : ∃ t ∈ trace, t.event = .consumer .cancelled ∧ t.before.mayHand = true)

section Runs
variable {plan : Plan} {trace : List Transition} {s s' : Session} {e : Event} {ms : List Metric}

theorem counted_concat (trace : List Transition) (t : Transition) :
    counted (trace ++ [t]) = counted trace ++ t.metrics := by simp [counted]

theorem enqueued_concat (trace : List Transition) (t : Transition) :
    enqueued (trace ++ [t]) = enqueued trace ++ t.enqueued?.toList := filterMap_concat _ trace t

theorem withheld_concat (trace : List Transition) (t : Transition) :
    withheld (trace ++ [t]) = withheld trace ++ t.withheld?.toList := filterMap_concat _ trace t

theorem Tallied.next {t : Transition} (h : Tallied trace t.before) (hb : Balanced t) :
    Tallied (trace ++ [t]) t.after where
  received ok := by
    have hreceived := hb.received ok
    rw [counted_concat, received_append, h.received ok, enqueued_concat, withheld_concat, tally_append,
      tally_append]
    omega
  failures := by
    have hfailures := hb.failures
    have hbefore := h.failures
    rw [counted_concat, received_append, failures_append]
    omega

theorem Run.tallied (h : Run plan trace s) : Tallied trace s := by
  induction h with
  | none => exact ⟨fun _ => rfl, rfl⟩
  | step h hs ih => exact ih.next (move_balanced (Run.staged h) (step_move hs))

/-- As long as something can be handed over, it always could. -/
theorem Run.mayHand_before (h : Run plan trace s) (hmay : s.mayHand = true) :
    ∀ t ∈ trace, t.before.mayHand = true := by
  induction h with
  | none => exact fun t ht => absurd ht List.not_mem_nil
  | step h hs ih =>
    have hbefore := mayHand_mono (Run.staged h) (step_move hs) hmay
    intro t ht
    rcases List.mem_append.mp ht with ht | ht
    · exact ih hbefore t ht
    · rw [List.mem_singleton.mp ht]
      exact hbefore

theorem Withholding.next (hrun : Run plan trace s) (h : Withholding trace s) (hm : Move s e s' ms) :
    Withholding (trace ++ [⟨s, e, s', ms⟩]) s' := by
  have hst := hrun.staged
  cases hw : Transition.withheld? ⟨s, e, s', ms⟩ with
  | none =>
    have hsame : withheld (trace ++ [⟨s, e, s', ms⟩]) = withheld trace := by
      rw [withheld_concat, hw, Option.toList_none, List.append_nil]
    cases h with
    | nothing h => exact .nothing (hsame.trans h)
    | once h hmay hgood hsignal =>
      have hmay' : s'.mayHand = false :=
        (Bool.not_eq_true _).mp fun hmay' => absurd (hmay.symm.trans (mayHand_mono hst hm hmay')) (by decide)
      -- Nothing is enqueued any more, either.
      have he : Transition.enqueued? ⟨s, e, s', ms⟩ = none := by
        cases he : Transition.enqueued? ⟨s, e, s', ms⟩ with
        | none => rfl
        | some a => cases hmay.symm.trans (move_enqueues hst hm he).1
      obtain ⟨t, ht, hsignal⟩ := hsignal
      exact .once (hsame.trans h) hmay' (by rwa [enqueued_none he]) ⟨t, List.mem_append_left _ ht, hsignal⟩
  | some b =>
    obtain ⟨hmay, hmay', he, hgone⟩ := move_withholds hst hm hw
    cases h with
    | nothing h =>
      have hone : withheld (trace ++ [⟨s, e, s', ms⟩]) = [b] := by
        rw [withheld_concat, hw, h]
        rfl
      have hc : s.cancelled = true := hgone.elim hrun.signalling.detached id
      obtain ⟨t, ht, hsignal⟩ := hrun.signalling.signalled hmay hc
      exact .once hone hmay' (by rw [enqueued_none he]; exact hrun.handing.good hmay)
        ⟨t, List.mem_append_left _ ht, hsignal, hrun.mayHand_before hmay t ht⟩
    | once _ hmay₀ => cases hmay.symm.trans hmay₀

theorem Run.withholding (h : Run plan trace s) : Withholding trace s := by
  induction h with
  | none => exact .nothing rfl
  | step h hs ih => exact ih.next h (step_move hs)

/-- Where all is good nothing fails. -/
theorem tally_good {bs : List Broadcast} (h : ∀ b ∈ bs, b.isOk = true) : tally false bs = 0 :=
  List.countP_eq_zero.mpr fun b hb => by simp [h b hb]

theorem OneFailure.tally_le {bs : List Broadcast} (h : OneFailure bs) : tally false bs ≤ 1 := by
  obtain ⟨good, hgood, rfl | ⟨b, hb, rfl⟩⟩ := h
  · rw [tally_good hgood]
    exact Nat.zero_le 1
  · rw [tally_append, tally_good hgood, Nat.zero_add]
    exact List.countP_le_length

/-- Tasks that have ended have nothing in hand. -/
theorem inHand_of_done (h : s.done = true) : s.inHand = [] ∧ s.receiver.owing = false := by
  unfold done at h
  split at h
  · next hd _ hr => simp [inHand, hd, hr, Driver.inHand?, Receiver.inHand?, Receiver.owing]
  · next hd _ hr => simp [inHand, hd, hr, Driver.inHand?, Receiver.inHand?, Receiver.owing]
  · cases h

/-- A failing broadcast is enqueued or withheld at most once. -/
theorem Withholding.failing_le (h : Withholding trace s) (hrun : Run plan trace s) :
    tally false (enqueued trace) + tally false (withheld trace) ≤ 1 := by
  cases h with
  | nothing h =>
    rw [h]
    exact hrun.handing.once.tally_le
  | once h _ hgood =>
    rw [h, tally_good hgood, Nat.zero_add]
    exact List.countP_le_length

end Runs

/-- Whatever the tasks, the source, the server and the consumer do, the counters of a session that has come to
its end are these: it failed at most once, and once for each failing broadcast that it received; every broadcast
that it received was enqueued for the consumer, but for at most one, and one is missing only if the consumer
cancelled, or left, while something could still be handed over. -/
theorem deliveries_counted {plan : Plan} {trace : List Transition} {s : Session} (h : Run plan trace s)
    (hd : s.done = true) :
    failures (counted trace) ≤ 1 ∧ failures (counted trace) = received false (counted trace) ∧
      (∃ lost ≤ 1, received true (counted trace) + received false (counted trace) =
          (enqueued trace).length + lost ∧
        (lost = 1 → ∃ t ∈ trace, t.event = .consumer .cancelled ∧ t.before.mayHand = true)) ∧
      tally true (enqueued trace) ≤ received true (counted trace) ∧
      ((∃ b ∈ enqueued trace, b.isOk = false) → failures (counted trace) = 1) := by
  obtain ⟨hempty, howing⟩ := inHand_of_done hd
  have htallied := h.tallied
  have hwithholding := h.withholding
  have hfailures : failures (counted trace) = received false (counted trace) := by
    simpa [howing] using htallied.failures
  have hreceived (ok : Bool) : received ok (counted trace) =
      tally ok (enqueued trace) + tally ok (withheld trace) := by
    simpa [hempty, tally] using htallied.received ok
  have hfailing := hwithholding.failing_le h
  refine ⟨by rw [hfailures, hreceived]; exact hfailing, hfailures, ⟨(withheld trace).length, ?_, ?_, ?_⟩, ?_, ?_⟩
  · cases hwithholding with
    | nothing hw => simp [hw]
    | once hw => simp [hw]
  · have henqueued := tally_length (enqueued trace)
    have hwithheld := tally_length (withheld trace)
    rw [hreceived true, hreceived false]
    omega
  · intro hlost
    cases hwithholding with
    | nothing hw => simp [hw] at hlost
    | once _ _ _ hsignal => exact hsignal
  · rw [hreceived true]
    exact Nat.le_add_right _ _
  · rintro ⟨b, hb, hbad⟩
    have hpos : 0 < tally false (enqueued trace) := List.countP_pos_iff.mpr ⟨b, hb, by simp [hbad]⟩
    rw [hfailures, hreceived false]
    omega

/-- The consumer cancels while it is handed a second broadcast, and the session comes to its end. -/
def departed : List Event :=
  interrupted ++ [.driver .followed, .heartbeat (.started ⟨0⟩), .heartbeat .stopped, .driver .joined]

theorem deliveries_counted_departed :
    ∃ trace s, Run following trace s ∧ s.done = true ∧ received true (counted trace) = 2 ∧
      (enqueued trace).length = 1 ∧ failures (counted trace) = 0 ∧
      ∃ t ∈ trace, t.event = .consumer .cancelled ∧ t.before.mayHand = true := by
  have hread : (follow Session.step (.start following) departed).map
      (fun r => (r.2.done, received true (counted (r.1.map Transition.of)),
        received false (counted (r.1.map Transition.of)), (enqueued (r.1.map Transition.of)).length)) =
      some (true, 2, 0, 1) := by
    decide +kernel
  obtain ⟨history, s, hrun, -, hread⟩ := Occurs.of_reading hread
  obtain ⟨hdone, hread⟩ := Prod.mk.inj hread
  obtain ⟨hgood, hread⟩ := Prod.mk.inj hread
  obtain ⟨hbad, henqueued⟩ := Prod.mk.inj hread
  obtain ⟨-, hfailures, ⟨lost, -, hlost, hsignal⟩, -⟩ := deliveries_counted (.of_history hrun) hdone
  rw [hgood, hbad, henqueued] at hlost
  exact ⟨_, s, .of_history hrun, hdone, hgood, henqueued, hfailures.trans hbad, hsignal (by omega)⟩

end Session
end MessageBus
