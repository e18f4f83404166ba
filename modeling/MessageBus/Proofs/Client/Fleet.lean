import MessageBus.Proofs.Client.Caller
/-!
# What clients count together

Any number of callers, which take their steps in any order, raise the same counters. `counters_agree`: what
was counted for a service is what its clients say of themselves, and what was counted for a command is what
became of the calls with it. `Counts` says what a client's own counters have to do with it, and `Recorded` what
one step of one caller counts.
-/
namespace MessageBus
set_option autoImplicit false
open Telemetry (Metric)

namespace Telemetry

/-- How many request frames were counted for a service, over all commands. -/
def requestsTo (service : String) (ms : List Metric) : Nat :=
  ms.countP fun
    | .requestSent s _ => s = service
    | _ => false

/-- Nothing is counted of what clients count themselves. -/
structure Unstated (ms : List Metric) : Prop where
  reconnects : ∀ service, ms.count (.reconnect service) = 0
  requests : ∀ service, requestsTo service ms = 0

theorem unstated_nil : Unstated [] := ⟨fun _ => rfl, fun _ => rfl⟩

/-- Nothing is counted of what becomes of calls. -/
structure Unspoken (ms : List Metric) : Prop where
  rejected : ∀ service command, ms.count (.applicationFailure service command) = 0
  lapsed : ∀ service command, ms.count (.requestTimeout service command) = 0
  succeeded : durations ms = 0

theorem unspoken_nil : Unspoken [] := ⟨fun _ _ => rfl, fun _ _ => rfl, rfl⟩

theorem Unspoken.append {ms more : List Metric} (h : Unspoken ms) (h' : Unspoken more) :
    Unspoken (ms ++ more) where
  rejected service command := by rw [List.count_append, h.rejected, h'.rejected]
  lapsed service command := by rw [List.count_append, h.lapsed, h'.lapsed]
  succeeded := by
    have hsum : durations (ms ++ more) = durations ms + durations more := List.count_append
    rw [hsum, h.succeeded, h'.succeeded]

end Telemetry

/-! ## One client -/

namespace Client
open Telemetry (requestsTo Unstated unstated_nil)

/-- What a client has to show of a counter of a service: nothing unless it is bound to it. -/
def share (c : Client) (service : String) (read : ClientStats → Nat) : Nat :=
  if c.service = service then read c.stats else 0

/-- What is counted on the way from a client to what became of it. -/
structure Counts (c c' : Client) (ms : List Metric) : Prop where
  service : c'.service = c.service
  reconnects : ∀ service, c'.share service ClientStats.reconnects =
    c.share service ClientStats.reconnects + ms.count (.reconnect service)
  sends : ∀ service,
    c'.share service ClientStats.sends = c.share service ClientStats.sends + requestsTo service ms

variable {c c' c'' : Client} {ms more : List Metric}

theorem Counts.trans (h : Counts c c' ms) (h' : Counts c' c'' more) : Counts c c'' (ms ++ more) where
  service := h'.service.trans h.service
  reconnects service := by rw [h'.reconnects, h.reconnects, List.count_append, Nat.add_assoc]
  sends service := by
    rw [h'.sends, h.sends, requestsTo, requestsTo, requestsTo, List.countP_append, Nat.add_assoc]

theorem counts_refl (c : Client) (hms : Unstated ms) : Counts c c ms :=
  ⟨rfl, fun service => by rw [hms.reconnects]; rfl, fun service => by rw [hms.requests]; rfl⟩

theorem discard_counts (c : Client) (hms : Unstated ms) : Counts c c.discard ms := by
  unfold discard
  split
  · exact ⟨rfl, fun service => by rw [hms.reconnects]; rfl, fun service => by rw [hms.requests]; rfl⟩
  · exact counts_refl c hms

theorem countSend_counts (c : Client) (command : String) :
    Counts c c.countSend [.requestSent c.service command] where
  service := rfl
  reconnects service := rfl
  sends service := by
    change (if c.service = service then c.stats.sends + 1 else 0) =
      (if c.service = service then c.stats.sends else 0) + _
    rw [requestsTo, List.countP_singleton]
    by_cases h : c.service = service <;> simp [h]

theorem install_counts (c : Client) (socket : SocketId) :
    Counts c (c.install socket).1 (c.install socket).2 := by
  unfold install
  split
  · refine ⟨rfl, fun service => ?_, fun _ => rfl⟩
    change (if c.service = service then c.stats.reconnects + 1 else 0) =
      (if c.service = service then c.stats.reconnects else 0) + _
    rw [List.count_singleton]
    by_cases h : c.service = service <;> simp [h]
  · exact ⟨rfl, fun _ => rfl, fun _ => rfl⟩

theorem install_unspoken (c : Client) (socket : SocketId) :
    Telemetry.Unspoken (c.install socket).2 := by
  unfold install
  split
  · exact ⟨fun _ _ => rfl, fun _ _ => rfl, rfl⟩
  · exact Telemetry.unspoken_nil

end Client

namespace Call
open Telemetry (unstated_nil unspoken_nil)

def Progress.client : Progress → Client
  | .running c _ | .finished c _ => c

theorem answered_cases (c : Client) (call : Call) (frame : Frame) :
    (∃ e, verdict c call.request frame = .error (.decode c.service e) ∧ (answered c call frame).2 = []) ∨
    (∃ reply, verdict c call.request frame = .ok reply ∧
      (answered c call frame).2 = [.requestDuration]) ∨
    ∃ reason, verdict c call.request frame = .error (.application c.service call.request.command reason) ∧
      (answered c call frame).2 = [.applicationFailure c.service call.request.command] := by
  unfold verdict answered
  cases Reply.decode frame with
  | error e => exact .inl ⟨e, rfl, rfl⟩
  | ok reply =>
    cases hok : reply.isOk with
    | true => exact .inr (.inl ⟨reply, by simp [hok]⟩)
    | false => exact .inr (.inr ⟨reply.message, by simp [hok]⟩)

/-- What a call counts, its client counts too. -/
theorem Move.counts {fired : Bool} {c : Client} {call : Call} {e : Event} {p : Progress} {ms : List Metric}
    (h : Move fired c call e p ms) : c.Counts p.client ms := by
  cases h with
  | exhausted | dials | undialed | rested | sent => exact Client.counts_refl c unstated_nil
  | forestalled | abandoned => exact c.discard_counts unstated_nil
  | reuses => exact c.countSend_counts call.request.command
  | @dialed socket =>
    exact (c.install_counts socket).trans ((c.install socket).1.countSend_counts call.request.command)
  | failed =>
    refine c.discard_counts ?_
    unfold failedMetrics
    split <;> exact ⟨fun _ => rfl, fun _ => rfl⟩
  | @answered frame =>
    refine c.counts_refl ?_
    obtain ⟨e, -, hms⟩ | ⟨reply, -, hms⟩ | ⟨reason, -, hms⟩ := answered_cases c call frame
    · rw [hms]
      exact unstated_nil
    · rw [hms]
      exact ⟨fun _ => rfl, fun _ => rfl⟩
    · rw [hms]
      exact ⟨fun _ => rfl, fun _ => rfl⟩

/-- A call that goes on says nothing of itself, unless the wait for its reply has run out. -/
theorem Move.unspoken {fired : Bool} {c c' : Client} {call call' : Call} {e : Event} {ms : List Metric}
    (h : Move fired c call e (.running c' call') ms) (hl : ¬(call.phase = .receiving ∧ e = .expired)) :
    Telemetry.Unspoken ms := by
  cases h with
  | dials | undialed | rested | sent => exact unspoken_nil
  | reuses => exact ⟨fun _ _ => rfl, fun _ _ => rfl, rfl⟩
  | @dialed socket =>
    exact (c.install_unspoken socket).append ⟨fun _ _ => rfl, fun _ _ => rfl, rfl⟩
  | failed =>
    rw [failedMetrics, if_neg hl]
    exact unspoken_nil

end Call

/-! ## One caller -/

namespace Caller
open Telemetry (durations unstated_nil)

def asks (service command : String) (u : Caller) : Bool :=
  match u.activity with
  | .calling call _ => u.client.service = service && call.request.command = command
  | .idle | .connecting => false

def rejects (service command : String) (o : Deed) : Bool :=
  o.before.asks service command &&
    match o.output.answer? with
    | some (.replied (.error e)) => e.isApplication
    | _ => false

def lapses (service command : String) (o : Deed) : Bool :=
  o.before.asks service command &&
    match o.before.activity, o.event with
    | .calling call _, .act e => call.phase = .receiving && e = .expired
    | _, _ => false

def succeeds (o : Deed) : Bool :=
  match o.output.answer? with
  | some (.replied (.ok _)) => true
  | _ => false

/-- What an occurrence counts is what its client counts, and what becomes of the call. -/
structure Recorded (o : Deed) : Prop where
  counts : o.before.client.Counts o.after.client o.output.metrics
  rejected : ∀ service command,
    o.output.metrics.count (.applicationFailure service command) = (rejects service command o).toNat
  lapsed : ∀ service command,
    o.output.metrics.count (.requestTimeout service command) = (lapses service command o).toNat
  succeeded : durations o.output.metrics = (succeeds o).toNat

section Moves
variable {u u' : Caller} {e : Event} {out : Output} {c c' : Client} {call call' : Call}
  {signal? : Option Bool} {ce : Call.Event} {ms : List Metric}

/-- A call neither ends with a reply nor waits for one in vain. -/
theorem recorded_unspoken {o : Deed} (hc : o.before.client.Counts o.after.client o.output.metrics)
    (hms : Telemetry.Unspoken o.output.metrics)
    (hr : ∀ service command, rejects service command o = false)
    (hl : ∀ service command, lapses service command o = false) (hs : succeeds o = false) : Recorded o where
  counts := hc
  rejected service command := by rw [hms.rejected, hr]; rfl
  lapsed service command := by rw [hms.lapsed, hl]; rfl
  succeeded := by rw [hms.succeeded, hs]; rfl

theorem goesOn_recorded (hm : Call.Move (signal?.getD false) c call ce (.running c' call') ms) :
    Recorded ⟨⟨c, .calling call signal?⟩, .act ce, ⟨c', .calling call' signal?⟩, ⟨none, ms⟩⟩ := by
  have hr (service command : String) : rejects service command
      ⟨⟨c, .calling call signal?⟩, .act ce, ⟨c', .calling call' signal?⟩, ⟨none, ms⟩⟩ = false :=
    Bool.and_false _
  by_cases hlapse : call.phase = .receiving ∧ ce = .expired
  · have hcounts : c.Counts c' ms := hm.counts
    obtain ⟨hp, rfl⟩ := hlapse
    have hms : ms = [.requestTimeout c.service call.request.command] := by
      cases hm with
      | failed => rw [Call.failedMetrics, if_pos ⟨hp, rfl⟩]
      | undialed hq | rested hq => cases hp.symm.trans hq
    subst hms
    refine ⟨hcounts, fun service command => by rw [hr]; rfl, fun service command => ?_, rfl⟩
    rw [List.count_singleton]
    by_cases hs : c.service = service <;> by_cases hcommand : call.request.command = command <;>
      simp [lapses, asks, hp, hs, hcommand]
  · refine recorded_unspoken hm.counts (hm.unspoken hlapse) hr (fun service command => ?_) rfl
    simp only [lapses, ← Bool.decide_and, hlapse, decide_false, Bool.and_false]

theorem ends_recorded {r : Except CallError Reply}
    (hm : Call.Move (signal?.getD false) c call ce (.finished c' r) ms) :
    Recorded ⟨⟨c, .calling call signal?⟩, .act ce, ⟨c', .idle⟩, ⟨some (.replied r), ms⟩⟩ := by
  have hcounts : c.Counts c' ms := hm.counts
  cases hm with
  | exhausted | forestalled | abandoned =>
    exact recorded_unspoken hcounts Telemetry.unspoken_nil (fun _ _ => Bool.and_false _)
      (fun _ _ => by simp [lapses]) rfl
  | @answered frame hp =>
    obtain ⟨e, hr, hms⟩ | ⟨reply, hr, hms⟩ | ⟨reason, hr, hms⟩ := Call.answered_cases c call frame
    · rw [hms] at hcounts ⊢
      rw [hr]
      exact recorded_unspoken hcounts Telemetry.unspoken_nil (fun _ _ => Bool.and_false _)
        (fun _ _ => by simp [lapses]) rfl
    · rw [hms] at hcounts ⊢
      rw [hr]
      exact ⟨hcounts, fun _ _ => by simp [rejects], fun _ _ => by simp [lapses], rfl⟩
    · rw [hms] at hcounts ⊢
      rw [hr]
      refine ⟨hcounts, fun service command => ?_, fun _ _ => by simp [lapses], rfl⟩
      rw [List.count_singleton]
      by_cases hs : c.service = service <;> by_cases hcommand : call.request.command = command <;>
        simp [rejects, asks, CallError.isApplication, hs, hcommand]

theorem move_recorded (hm : Move u e u' out) : Recorded ⟨u, e, u', out⟩ := by
  obtain ⟨c, activity⟩ := u
  cases hm with
  | kept h | asked h | connects h =>
    obtain rfl : activity = .idle := h
    exact ⟨c.counts_refl unstated_nil, fun _ _ => rfl, fun _ _ => rfl, rfl⟩
  | @connected socket h =>
    obtain rfl : activity = .connecting := h
    exact recorded_unspoken (c.install_counts socket) (c.install_unspoken socket) (fun _ _ => rfl)
      (fun _ _ => rfl) rfl
  | unconnected h =>
    obtain rfl : activity = .connecting := h
    exact ⟨c.counts_refl unstated_nil, fun _ _ => rfl, fun _ _ => rfl, rfl⟩
  | signalled h =>
    exact recorded_unspoken (c.counts_refl unstated_nil) Telemetry.unspoken_nil
      (fun _ _ => Bool.and_false _) (fun _ _ => by simp [lapses]) rfl
  | goesOn h hm =>
    obtain rfl : activity = .calling _ _ := h
    exact goesOn_recorded hm
  | ends h hm =>
    obtain rfl : activity = .calling _ _ := h
    exact ends_recorded hm

end Moves
end Caller

/-! ## Any number of callers -/

/-- Callers, each known by its place. A call that has begun goes on until it returns, at the latest after its
canceller's signal; nobody lets go of it where it stands. -/
structure Fleet where
  callers : List Caller

namespace Fleet
open Telemetry (requestsTo durations)

inductive Act
  | enters (endpoint : Endpoint) (config : TransportConfig)
  | does (i : Nat) (e : Caller.Event)

def start : Fleet := ⟨[]⟩

/-- What an act makes of the callers, and what it is for one of them; `none` if it cannot happen now. -/
def step (f : Fleet) : Act → Option (Fleet × Option Caller.Deed)
  | .enters endpoint config => some (⟨f.callers ++ [.start endpoint config]⟩, none)
  | .does i e =>
    f.callers[i]?.bind fun u => (u.step e).map fun (u', out) => (⟨f.callers.set i u'⟩, some ⟨u, e, u', out⟩)

abbrev Deed := Occurrence Fleet Act (Option Caller.Deed)

def Run : List Deed → Fleet → Prop := Occurs step start

/-- What the callers did, one after the other. -/
def deeds (history : List Deed) : List Caller.Deed := history.filterMap Occurrence.output

def metricsOf (done : List Caller.Deed) : List Metric := done.flatMap fun o => o.output.metrics

def counted (history : List Deed) : List Metric := metricsOf (deeds history)

/-- The sum of a counter over the clients that are bound to a service. -/
def total (f : Fleet) (service : String) (read : ClientStats → Nat) : Nat :=
  ((f.callers.filter fun u => u.client.service = service).map fun u => read u.client.stats).sum

inductive Move (f : Fleet) : Act → Fleet → Option Caller.Deed → Prop
  | enters {endpoint : Endpoint} {config : TransportConfig} :
      Move f (.enters endpoint config) ⟨f.callers ++ [.start endpoint config]⟩ none
  | does {front back : List Caller} {u u' : Caller} {e : Caller.Event} {out : Caller.Output}
      (hf : f.callers = front ++ u :: back) (hm : Caller.Move u e u' out) :
      Move f (.does front.length e) ⟨front ++ u' :: back⟩ (some ⟨u, e, u', out⟩)

section Steps
variable {f f' : Fleet} {act : Act} {done? : Option Caller.Deed}

theorem step_move (h : f.step act = some (f', done?)) : Move f act f' done? := by
  cases act with
  | enters endpoint config =>
    cases h
    exact .enters
  | does i e =>
    obtain ⟨u, hu, h⟩ := Option.bind_eq_some_iff.mp h
    obtain ⟨⟨u', out⟩, hs, h⟩ := Option.map_eq_some_iff.mp h
    cases h
    obtain ⟨hi, rfl⟩ := List.getElem?_eq_some_iff.mp hu
    have hset : f.callers.set i u' = f.callers.take i ++ u' :: f.callers.drop (i + 1) := by
      rw [List.set_eq_take_append_cons_drop, if_pos hi]
    have hsplit : f.callers = f.callers.take i ++ f.callers[i] :: f.callers.drop (i + 1) := by
      rw [← List.drop_eq_getElem_cons hi, List.take_append_drop]
    have hplace : (f.callers.take i).length = i := by
      rw [List.length_take, Nat.min_eq_left (Nat.le_of_lt hi)]
    have hmove := Move.does hsplit (Caller.step_move hs)
    rw [hplace] at hmove
    rwa [hset]

end Steps

/-! ## Totals -/

section Totals
variable (front back : List Caller) (u : Caller) (service : String) (read : ClientStats → Nat)

theorem total_append :
    total ⟨front ++ back⟩ service read = total ⟨front⟩ service read + total ⟨back⟩ service read := by
  simp only [total, List.filter_append, List.map_append, List.sum_append]

theorem total_singleton : total ⟨[u]⟩ service read = u.client.share service read := by
  by_cases h : u.client.service = service <;> simp [total, Client.share, h]

theorem total_split : total ⟨front ++ u :: back⟩ service read =
    total ⟨front⟩ service read + u.client.share service read + total ⟨back⟩ service read := by
  rw [List.append_cons, total_append, total_append, total_singleton]

end Totals

/-- The counters agree with what the clients say, and with what became of the calls. -/
structure Agrees (done : List Caller.Deed) (f : Fleet) : Prop where
  reconnects : ∀ service,
    (metricsOf done).count (.reconnect service) = f.total service ClientStats.reconnects
  sends : ∀ service, requestsTo service (metricsOf done) = f.total service ClientStats.sends
  rejected : ∀ service command, (metricsOf done).count (.applicationFailure service command) =
    done.countP (Caller.rejects service command)
  lapsed : ∀ service command, (metricsOf done).count (.requestTimeout service command) =
    done.countP (Caller.lapses service command)
  succeeded : durations (metricsOf done) = done.countP Caller.succeeds

theorem metricsOf_concat (done : List Caller.Deed) (o : Caller.Deed) :
    metricsOf (done ++ [o]) = metricsOf done ++ o.output.metrics := by simp [metricsOf]

section Runs
variable {f f' : Fleet} {act : Act} {done? : Option Caller.Deed} {done : List Caller.Deed}
  {history : List Deed}

/-- A client that has just come has nothing to show. -/
theorem share_start (endpoint : Endpoint) (config : TransportConfig) (service : String)
    (read : ClientStats → Nat) (hread : read ⟨0, 0, 0⟩ = 0) :
    (Caller.start endpoint config).client.share service read = 0 := by
  change (if endpoint.name = service then read ⟨0, 0, 0⟩ else 0) = 0
  rw [hread, ite_self]

theorem Agrees.next (h : Agrees done f) (hm : Move f act f' done?) :
    Agrees (done ++ done?.toList) f' := by
  cases hm with
  | @enters endpoint config =>
    rw [Option.toList_none, List.append_nil]
    refine { h with reconnects := fun service => ?_, sends := fun service => ?_ }
    · rw [h.reconnects, total_append, total_singleton, share_start endpoint config service _ rfl]
      rfl
    · rw [h.sends, total_append, total_singleton, share_start endpoint config service _ rfl]
      rfl
  | @does front back u u' e out hf hm =>
    have hrecorded := Caller.move_recorded hm
    obtain rfl : f = ⟨front ++ u :: back⟩ := congrArg Fleet.mk hf
    have hcounted : metricsOf (done ++ [⟨u, e, u', out⟩]) = metricsOf done ++ out.metrics :=
      metricsOf_concat done _
    rw [Option.toList_some]
    refine ⟨fun service => ?_, fun service => ?_, fun service command => ?_, fun service command => ?_, ?_⟩
    · have hshare : u'.client.share service ClientStats.reconnects =
          u.client.share service ClientStats.reconnects + out.metrics.count (.reconnect service) :=
        hrecorded.counts.reconnects service
      have hbefore := h.reconnects service
      rw [total_split] at hbefore ⊢
      rw [hcounted, List.count_append]
      omega
    · have hshare : u'.client.share service ClientStats.sends =
          u.client.share service ClientStats.sends + requestsTo service out.metrics :=
        hrecorded.counts.sends service
      have hbefore := h.sends service
      rw [total_split] at hbefore ⊢
      rw [hcounted, requestsTo, List.countP_append]
      change requestsTo service (metricsOf done) + requestsTo service out.metrics = _
      omega
    · rw [hcounted, List.count_append, countP_concat, h.rejected, hrecorded.rejected]
    · rw [hcounted, List.count_append, countP_concat, h.lapsed, hrecorded.lapsed]
    · rw [hcounted, durations, List.count_append, countP_concat, ← hrecorded.succeeded, ← h.succeeded]
      rfl

theorem deeds_concat (history : List Deed) (o : Deed) :
    deeds (history ++ [o]) = deeds history ++ o.output.toList := filterMap_concat _ history o

theorem Run.agrees (h : Run history f) : Agrees (deeds history) f := by
  induction h with
  | nothing => exact ⟨fun _ => rfl, fun _ => rfl, fun _ _ => rfl, fun _ _ => rfl, rfl⟩
  | next h hs ih =>
    rw [deeds_concat]
    exact ih.next (step_move hs)

end Runs

/-- Whatever any number of clients, their users, dialers, sockets and cancellers did, the counters agree with
it. For every service, what was counted of reconnects and of requests is the sum of what its clients count
themselves; for every service and command, rejections are the calls that were answered with one and timeouts
the attempts whose wait for a reply ran out; and a duration was observed for every call that returned a good
reply, and for no other. -/
theorem counters_agree {history : List Deed} {f : Fleet} (h : Run history f) :
    (∀ service, (counted history).count (.reconnect service) = f.total service ClientStats.reconnects) ∧
    (∀ service, requestsTo service (counted history) = f.total service ClientStats.sends) ∧
    (∀ service command, (counted history).count (.applicationFailure service command) =
      (deeds history).countP (Caller.rejects service command)) ∧
    (∀ service command, (counted history).count (.requestTimeout service command) =
      (deeds history).countP (Caller.lapses service command)) ∧
    durations (counted history) = (deeds history).countP Caller.succeeds := by
  have hagrees := h.agrees
  exact ⟨hagrees.reconnects, hagrees.sends, hagrees.rejected, hagrees.lapsed, hagrees.succeeded⟩

def dome : Endpoint := ⟨"dome", "localhost", 7000, none, none⟩

/-- A call whose first wait runs out succeeds in the end, a call of another client of the service is rejected,
and one of a third client, which is bound to another service, is cancelled. -/
def mixed : List Act :=
  [.enters dome .default, .enters dome .default, .enters { dome with name := "acme" } .default,
    .does 0 (.ask ⟨"park", .empty⟩ none), .does 0 (.act .begin), .does 0 (.act (.dialed 0)),
    .does 0 (.act .sent), .does 1 (.ask ⟨"park", .empty⟩ none), .does 1 (.act .begin), .does 0 (.act .expired),
    .does 0 (.act .begin), .does 1 (.act (.dialed 1)), .does 0 (.act (.dialed 2)), .does 0 (.act .sent),
    .does 1 (.act .sent), .does 1 (.act (.received (Reply.fail "closed").encode)),
    .does 2 (.ask ⟨"park", .empty⟩ (some true)), .does 2 (.act .begin),
    .does 0 (.act (.received (Reply.ok .empty).encode))]

theorem counters_agree_mixed :
    ∃ history f, Run history f ∧ history.map Occurrence.event = mixed ∧
      requestsTo "dome" (counted history) = 3 ∧ f.total "dome" ClientStats.sends = 3 ∧
      f.total "dome" ClientStats.reconnects = 1 ∧ f.total "acme" ClientStats.sends = 0 ∧
      (deeds history).countP (Caller.rejects "dome" "park") = 1 ∧
      (deeds history).countP (Caller.lapses "dome" "park") = 1 ∧
      durations (counted history) = (deeds history).countP Caller.succeeds := by
  have hread : (follow step start mixed).map (fun r => (requestsTo "dome" (counted r.1),
      (counted r.1).count (.reconnect "dome"), requestsTo "acme" (counted r.1),
      (counted r.1).count (.applicationFailure "dome" "park"),
      (counted r.1).count (.requestTimeout "dome" "park"))) = some (3, 1, 0, 1, 1) := by decide +kernel
  obtain ⟨history, f, hrun, hevents, hread⟩ := Occurs.of_reading hread
  simp only [Prod.mk.injEq] at hread
  obtain ⟨hsends, hreconnects, hacme, hrejected, hlapsed⟩ := hread
  obtain ⟨hr, hs, hrejects, hlapses, hsucceeds⟩ := counters_agree hrun
  exact ⟨history, f, hrun, hevents, hsends, (hs _).symm.trans hsends, (hr _).symm.trans hreconnects,
    (hs _).symm.trans hacme, (hrejects _ _).symm.trans hrejected, (hlapses _ _).symm.trans hlapsed, hsucceeds⟩

end Fleet
end MessageBus
