import Mathlib.Algebra.BigOperators.Group.Finset.Basic
import MessageBus.Proofs.Publisher.Outlet
/-!
# What is queued is written, in order

`Outlet.written_in_order`: at any time the frames of a publisher are those of the first broadcasts that
entered its queue, in the order in which they entered, whoever queued them and however the publisher's socket
and its canceller interfere. At its end they are all, if it ended because its handles were gone; its number
and its counters agree with them; a failure names the broadcast after them; and no broadcast enters any more.
A call queues what it says it queued.
-/
namespace MessageBus
set_option autoImplicit false
open Telemetry (Metric Sample topicScope)

/-! ## Counters -/

/-- The counter of what was published under a scope. -/
def Telemetry.publishedSample (scope : String) : Sample :=
  ⟨"seascape_pubsub_broadcasts_published_total", [("scope", scope)]⟩

/-- How much the counter of a scope rises. -/
def Telemetry.publishedUnder (scope : String) (metrics : List Metric) : Nat :=
  (metrics.filterMap Metric.sample?).count (publishedSample scope)

theorem Telemetry.publishedUnder_broadcasts (bs : List Broadcast) (scope : String) :
    publishedUnder scope (bs.map fun b => .broadcastPublished b.topic) =
      (bs.map fun b => topicScope b.topic).count scope := by
  have hinjective : Function.Injective publishedSample := by
    intro a b h
    cases h
    rfl
  have hsamples : (bs.map fun b => Metric.broadcastPublished b.topic).filterMap Metric.sample? =
      (bs.map fun b => topicScope b.topic).map publishedSample := by
    rw [List.filterMap_map, List.map_map, ← List.filterMap_eq_map]
    rfl
  rw [publishedUnder, hsamples, List.count_map_of_injective _ _ hinjective]

/-- Over all scopes the counters rise by one for each broadcast. -/
theorem Telemetry.publishedUnder_sum (bs : List Broadcast) {labels : Finset String}
    (h : ∀ b ∈ bs, topicScope b.topic ∈ labels) :
    ∑ scope ∈ labels, publishedUnder scope (bs.map fun b => .broadcastPublished b.topic) = bs.length := by
  simp only [publishedUnder_broadcasts]
  have hcard := Multiset.sum_count_eq_card (s := labels)
    (m := ((bs.map fun b => topicScope b.topic : List String) : Multiset String)) (by simpa using h)
  simpa using hcard

namespace Outlet

/-! ## Histories -/

abbrev Deed := Occurrence Outlet Event (List Metric)

def Run (capacity : Nat) : List Deed → Outlet → Prop := Occurs step (.start capacity)

/-- What enters the queue, with the call that puts it there: what stands behind all that stood there. -/
def entering (o : Deed) : List (Nat × Broadcast) :=
  match o.event with
  | .proceed id => (o.after.publisher.queue.drop o.before.publisher.queue.length).map (id, ·)
  | _ => []

def entered (history : List Deed) : List (Nat × Broadcast) := history.flatMap entering

def queuedBy (id : Nat) (history : List Deed) : List Broadcast :=
  ((entered history).filter fun e => e.1 = id).map Prod.snd

def written? (o : Deed) : Option Broadcast :=
  match o.event, o.before.publisher.phase with
  | .loop _ .written, .writing b => some b
  | _, _ => none

def written (history : List Deed) : List Broadcast := history.filterMap written?

def counted (history : List Deed) : List Metric := history.flatMap Occurrence.output

variable {capacity : Nat} {history : List Deed} {s s' : Outlet} {o : Deed} {e : Event}
  {metrics : List Metric}

theorem entered_concat : entered (history ++ [o]) = entered history ++ entering o := by
  simp [entered]

theorem written_concat : written (history ++ [o]) = written history ++ (written? o).toList :=
  filterMap_concat written? history o

theorem counted_concat : counted (history ++ [o]) = counted history ++ o.output := by
  simp [counted]

/-! ## Order -/

/-- How what entered and what was written belong together, as the publisher stands. -/
def InOrder (es ws : List Broadcast) (p : Publisher) : Prop :=
  match p.phase with
  | .waiting => es = ws ++ p.queue
  | .writing b => es = ws ++ b :: p.queue
  | .finished (.ok n) => n = ws.length ∧ ws <+: es
  | .finished (.error e) => ∃ b rest why, es = ws ++ b :: rest ∧ e = .send b.topic why
  | .abandoned => False

theorem InOrder.isPrefix {es ws : List Broadcast} {p : Publisher} (h : InOrder es ws p) : ws <+: es := by
  unfold InOrder at h
  split at h
  · exact ⟨_, h.symm⟩
  · exact ⟨_, h.symm⟩
  · exact h.2
  · obtain ⟨b, rest, why, he, -⟩ := h
    exact ⟨_, he.symm⟩
  · exact h.elim

/-- What enters an open queue goes to its end; into a closed one nothing does. -/
theorem InOrder.enter {es ws : List Broadcast} {p : Publisher} (h : InOrder es ws p)
    {more : List Broadcast} (hclosed : p.isClosed = true → more = []) :
    InOrder (es ++ more) ws { p with queue := p.queue ++ more } := by
  by_cases hc : p.isClosed = true
  · rw [hclosed hc, List.append_nil, List.append_nil]
    exact h
  · unfold InOrder at h ⊢
    cases hp : p.phase with
    | waiting =>
      simp only [hp] at h ⊢
      rw [h, List.append_assoc]
    | writing b =>
      simp only [hp] at h ⊢
      rw [h, List.append_assoc, List.cons_append]
    | finished result => exact absurd (by rw [Publisher.isClosed, hp]) hc
    | abandoned => exact absurd (by rw [Publisher.isClosed, hp]) hc

theorem InOrder.move {es ws : List Broadcast} {p p' : Publisher} {fired : Bool} {e : Publisher.Event}
    (h : InOrder es ws p) (hn : p.published = ws.length) (hm : Publisher.Move fired p e p' metrics)
    (before after : Outlet) (hbefore : before.publisher = p) :
    InOrder es (ws ++ (written? ⟨before, .loop fired e, after, metrics⟩).toList) p' ∧
      p'.published = (ws ++ (written? ⟨before, .loop fired e, after, metrics⟩).toList).length ∧
      metrics = (written? ⟨before, .loop fired e, after, metrics⟩).toList.map
        fun b => .broadcastPublished b.topic := by
  unfold InOrder at h
  cases hm with
  | took hp hq =>
    simp only [hp, hq] at h
    simp [written?, InOrder, h, hn]
  | drained hp | cancelled hp =>
    simp only [hp] at h
    simp [written?, InOrder, Publisher.finish, hn, h]
  | written hp =>
    simp only [hp] at h
    simp [written?, InOrder, hbefore, hp, hn, h]
  | @writeFailed b why hp =>
    simp only [hp] at h
    refine ⟨⟨b, p.queue, why, ?_, rfl⟩, ?_, rfl⟩
    · simpa [written?] using h
    · change p.published = _
      simpa [written?] using hn

/-! ## Calls -/

/-- What each call has queued, and what it was told. -/
structure Booked (history : List Deed) (s : Outlet) : Prop where
  queued : ∀ id, queuedBy id history = ((s.calls.get? id).map Call.queued).getD []
  told : ∀ id c told, s.calls.get? id = some c → c.result? = some (.ok told) →
    told = c.ask.interested ∧ (told = some 0 ∨ c.ask.offered.length = 1)

theorem queuedBy_concat (id : Nat) : queuedBy id (history ++ [o]) =
    queuedBy id history ++ ((entering o).filter fun e => e.1 = id).map Prod.snd := by
  rw [queuedBy, entered_concat, List.filter_append, List.map_append, queuedBy]

/-- Nothing enters with an event that leaves the queue as it was. -/
theorem entering_none (h : o.after.publisher.queue = o.before.publisher.queue) : entering o = [] := by
  unfold entering
  split
  · rw [h, List.drop_length, List.map_nil]
  · rfl

theorem Booked.quiet (h : Booked history s) (ho : entering o = []) (hcalls : s'.calls = s.calls) :
    Booked (history ++ [o]) s' := by
  refine ⟨fun id => ?_, fun id c told => ?_⟩
  · rw [queuedBy_concat, ho, hcalls, List.filter_nil, List.map_nil, List.append_nil]
    exact h.queued id
  · rw [hcalls]
    exact h.told id c told

theorem Booked.next (h : Booked history s) (hm : Move s e s' metrics) :
    Booked (history ++ [⟨s, e, s', metrics⟩]) s' := by
  cases hm with
  | looped | cloned | dropped => exact h.quiet rfl rfl
  | @called ask =>
    refine ⟨fun id => ?_, fun id c told hc hr => ?_⟩
    · rw [queuedBy_concat, Pool.get?_add, entering, List.filter_nil, List.map_nil, List.append_nil, h.queued]
      split
      · next heq =>
        rw [heq, Pool.get?_next]
        rfl
      · rfl
    · rcases Pool.of_get?_add hc with ⟨-, rfl⟩ | ⟨-, hc⟩
      · cases hr
      · exact h.told id c told hc hr
  | @succeeded id' ask hc' hclosed hoffered =>
    have hentering : entering ⟨s, .proceed id', ⟨{ s.publisher with queue := s.publisher.queue ++ ask.offered },
        s.calls.modify id' (·.ended (.ok ask.interested))⟩, []⟩ = ask.offered.map (id', ·) := by
      rw [entering, List.drop_left]
    refine ⟨fun id => ?_, fun id c told hc hr => ?_⟩
    · rw [queuedBy_concat, hentering, Pool.get?_modify, h.queued]
      by_cases hid : id = id'
      · subst hid
        simp [hc', Call.ended, Call.queued, List.filter_map, Function.comp_def]
      · have hother : ¬id' = id := fun e => hid e.symm
        simp [hid, hother, List.filter_map, Function.comp_def]
    · rcases Pool.of_get?_modify hc with ⟨-, hc⟩ | ⟨-, c', hc'', rfl⟩
      · exact h.told id c told hc hr
      · cases hc'.symm.trans hc''
        cases hr
        exact ⟨rfl, hoffered⟩
  | @refused id' ask why hc' =>
    refine ⟨fun id => ?_, fun id c told hc hr => ?_⟩
    · rw [queuedBy_concat, entering_none rfl, Pool.get?_modify, h.queued]
      by_cases hid : id = id'
      · subst hid
        simp [hc', Call.ended, Call.queued]
      · simp [hid]
    · rcases Pool.of_get?_modify hc with ⟨-, hc⟩ | ⟨-, c', hc'', rfl⟩
      · exact h.told id c told hc hr
      · cases hr
  | @givenUp id' ask hc' =>
    refine ⟨fun id => ?_, fun id c told hc hr => ?_⟩
    · rw [queuedBy_concat, entering_none rfl, Pool.get?_remove, h.queued]
      by_cases hid : id = id'
      · subst hid
        simp [hc', Call.queued]
      · simp [hid]
    · exact h.told id c told (Pool.of_get?_remove hc).2 hr

theorem Run.booked (h : Run capacity history s) : Booked history s := by
  induction h with
  | nothing =>
    refine ⟨fun id => rfl, fun id c told hc => ?_⟩
    cases hc
  | next _ hs ih => exact ih.next (step_move hs)

/-! ## Runs -/

/-- The publisher's number, its counters and its order agree with what was written. -/
structure Accounted (history : List Deed) (s : Outlet) : Prop where
  order : InOrder ((entered history).map Prod.snd) (written history) s.publisher
  published : s.publisher.published = (written history).length
  counted : counted history = (written history).map fun b => .broadcastPublished b.topic

theorem Accounted.quiet (h : Accounted history s) (hentering : entering o = []) (hwritten : written? o = none)
    (hcounted : o.output = []) (hqueue : s'.publisher.queue = s.publisher.queue)
    (hpublished : s'.publisher.published = s.publisher.published)
    (hphase : s'.publisher.phase = s.publisher.phase) : Accounted (history ++ [o]) s' := by
  have hw : written (history ++ [o]) = written history := by
    rw [written_concat, hwritten, Option.toList_none, List.append_nil]
  refine ⟨?_, ?_, ?_⟩
  · have horder := h.order
    unfold InOrder at horder ⊢
    rwa [entered_concat, hentering, List.append_nil, hw, hphase, hqueue]
  · rw [hpublished, hw, h.published]
  · rw [counted_concat, hcounted, List.append_nil, hw, h.counted]

theorem Accounted.next (h : Accounted history s) (hm : Move s e s' metrics) :
    Accounted (history ++ [⟨s, e, s', metrics⟩]) s' := by
  cases hm with
  | @looped fired e p metrics hp =>
    obtain ⟨horder, hpublished, hcounted⟩ := h.order.move h.published hp s { s with publisher := p } rfl
    refine ⟨?_, ?_, ?_⟩
    · rw [entered_concat, entering, List.append_nil, written_concat]
      exact horder
    · rw [written_concat]
      exact hpublished
    · rw [counted_concat, h.counted, written_concat, List.map_append, ← hcounted]
  | @succeeded id ask hc hclosed hoffered =>
    refine ⟨?_, ?_, ?_⟩
    · rw [entered_concat, entering, List.drop_left, List.map_append, written_concat]
      simpa [written?, Function.comp_def] using h.order.enter hclosed
    · simpa [written_concat, written?] using h.published
    · simpa [counted_concat, written_concat, written?] using h.counted
  | called | refused | givenUp | cloned | dropped => exact h.quiet (entering_none rfl) rfl rfl rfl rfl rfl

theorem Run.accounted (h : Run capacity history s) : Accounted history s := by
  induction h with
  | nothing => exact ⟨rfl, rfl, rfl⟩
  | next _ hs ih => exact ih.next (step_move hs)

/-- After the end nothing is written and nothing enters. -/
theorem Occurs.finished {later : List Deed} {result : Except PublisherError Nat}
    (h : Occurs step s later s') (hp : s.publisher.phase = .finished result) :
    s'.publisher.phase = .finished result ∧ entered later = [] ∧ written later = [] := by
  induction h with
  | nothing => exact ⟨hp, rfl, rfl⟩
  | @next later s' s'' e metrics _ hs ih =>
    obtain ⟨hp', hentered, hwritten⟩ := ih
    rw [entered_concat, hentered, written_concat, hwritten]
    cases step_move hs with
    | looped hm => exact (hm.not_finished hp').elim
    | succeeded hc hclosed =>
      have hoffered := hclosed (by rw [Publisher.isClosed, hp'])
      rw [hoffered]
      exact ⟨hp', by simp [entering], rfl⟩
    | called | refused | givenUp | cloned | dropped => exact ⟨hp', by simp [entering], rfl⟩

theorem entered_append (front back : List Deed) : entered (front ++ back) = entered front ++ entered back :=
  List.flatMap_append

theorem written_append (front back : List Deed) : written (front ++ back) = written front ++ written back :=
  List.filterMap_append

/-- What the event that ends a publisher leaves is what there is ever after. -/
theorem Run.ended (h : Run capacity history s) (ho : o ∈ history) :
    ∃ earlier, Run capacity earlier o.before ∧ Move o.before o.event o.after o.output ∧
      ∀ result, o.after.publisher.phase = .finished result → s.publisher.phase = .finished result ∧
        entered history = entered earlier ++ entering o ∧
        written history = written earlier ++ (written? o).toList := by
  obtain ⟨earlier, later, rfl⟩ := List.append_of_mem ho
  obtain ⟨hbefore, hs, hafter⟩ := Occurs.split h
  refine ⟨earlier, hbefore, step_move hs, fun result hp => ?_⟩
  obtain ⟨hend, hentered, hwritten⟩ := Occurs.finished hafter hp
  have hparted : earlier ++ o :: later = earlier ++ [o] ++ later := by simp
  refine ⟨hend, ?_, ?_⟩
  · rw [hparted, entered_append, hentered, List.append_nil, entered_concat]
  · rw [hparted, written_append, hwritten, List.append_nil, written_concat]

/-- A publisher that ends because its handles are gone has written all that entered. -/
theorem Run.drained (h : Run capacity history s) (ho : o ∈ history) {fired : Bool}
    (he : o.event = .loop fired .drained) : written history = (entered history).map Prod.snd := by
  obtain ⟨before, event, after, output⟩ := o
  cases he
  obtain ⟨earlier, hbefore, hm, hended⟩ := h.ended ho
  simp only at hm hended hbefore
  cases hm with
  | looped hm =>
    cases hm with
    | drained hp hq hh =>
      obtain ⟨-, hentered, hwritten⟩ := hended _ rfl
      have horder := (Run.accounted hbefore).order
      simp only [InOrder, hp, hq, List.append_nil] at horder
      rw [hentered, hwritten, entering, written?, List.append_nil, horder]
      simp

/-- A publisher that its socket fails names the first broadcast that is not written. -/
theorem Run.failed (h : Run capacity history s) (ho : o ∈ history) {fired : Bool} {why : SocketError}
    (he : o.event = .loop fired (.writeFailed why)) :
    ∃ b rest, (entered history).map Prod.snd = written history ++ b :: rest ∧
      s.publisher.phase = .finished (.error (.send b.topic why)) := by
  obtain ⟨before, event, after, output⟩ := o
  cases he
  obtain ⟨earlier, hbefore, hm, hended⟩ := h.ended ho
  simp only at hm hended hbefore
  cases hm with
  | looped hm =>
    cases hm with
    | @writeFailed b _ hp =>
      obtain ⟨hend, hentered, hwritten⟩ := hended _ rfl
      have horder := (Run.accounted hbefore).order
      simp only [InOrder, hp] at horder
      refine ⟨b, before.publisher.queue, ?_, hend⟩
      rw [hentered, hwritten, entering, List.append_nil, horder]
      simp [written?]

theorem Broadcast.make_ok {topic : String} {reply : Reply} {b : Broadcast}
    (h : Broadcast.make topic reply = .ok b) : b.topic = topic ∧ b.reply = reply := by
  unfold Broadcast.make at h
  split at h <;> cases h
  exact ⟨rfl, rfl⟩

/-- A matching call that succeeded was told how many are interested, and queued its broadcast for them. -/
theorem Booked.matched (h : Booked history s) {id : Nat} {book : Book} {topic : Topic} {reply : Reply}
    {told : Option Nat} (hc : s.calls.get? id = some ⟨.matching book topic reply, some (.ok told)⟩) :
    told = some (book.interested topic).length ∧
      ((book.interested topic).length = 0 → queuedBy id history = []) ∧
      (0 < (book.interested topic).length →
        ∃ b, b.topic = topic.render ∧ b.reply = reply ∧ queuedBy id history = [b]) := by
  obtain ⟨htold, hoffered⟩ := h.told id _ told hc rfl
  have hqueued : queuedBy id history = (Ask.matching book topic reply).offered := by
    rw [h.queued, hc]
    rfl
  refine ⟨htold, fun hn => by rw [hqueued, Ask.offered, if_pos hn], fun hn => ?_⟩
  have hpos : ¬(book.interested topic).length = 0 := Nat.pos_iff_ne_zero.mp hn
  have hone : (Ask.matching book topic reply).offered.length = 1 :=
    hoffered.resolve_left fun hzero => hpos (Option.some.inj (htold.symm.trans hzero))
  obtain ⟨b, hb⟩ := List.length_eq_one_iff.mp hone
  rw [Ask.offered, if_neg hpos] at hb
  cases hmake : Broadcast.make topic.render reply with
  | error e =>
    rw [hmake] at hb
    cases hb
  | ok b' =>
    obtain ⟨htopic, hreply⟩ := Broadcast.make_ok hmake
    refine ⟨b', htopic, hreply, ?_⟩
    rw [hqueued, Ask.offered, if_neg hpos, hmake]
    rfl

/-! ## All runs -/

def frames (history : List Deed) : List Frame := (written history).map Broadcast.encode

/-- Whoever publishes through however many handles, and whatever socket and canceller do: the frames on the
wire are those of the first broadcasts that entered, and of all if the publisher ended because its handles
were gone. A publisher that ends well says how many it wrote, and its counters rose by that many; one that its
socket fails names the topic of the first that it did not write. After its end nothing enters. A matching call
that succeeds says how many are interested and has queued one broadcast if there are any, and none if there
are not; a call that fails has queued none. -/
theorem written_in_order (h : Run capacity history s) :
    frames history <+: (entered history).map (·.2.encode) ∧
    (∀ o ∈ history, ∀ fired, o.event = .loop fired .drained →
      frames history = (entered history).map (·.2.encode)) ∧
    (∀ n, s.publisher.phase = .finished (.ok n) → (frames history).length = n ∧
      ∀ labels : Finset String, (∀ b ∈ written history, topicScope b.topic ∈ labels) →
        ∑ scope ∈ labels, Telemetry.publishedUnder scope (counted history) = n) ∧
    (∀ o ∈ history, ∀ fired why, o.event = .loop fired (.writeFailed why) →
      ∃ b rest, (entered history).map Prod.snd = written history ++ b :: rest ∧
        s.publisher.phase = .finished (.error (.send b.topic why))) ∧
    (∀ result, s.publisher.phase = .finished result → ∀ later s', Occurs step s later s' →
      s'.publisher.phase = .finished result ∧ entered later = [] ∧
        ∀ b, s'.publisher.publish b = some (.error .closed)) ∧
    (∀ id book topic reply told,
      s.calls.get? id = some ⟨.matching book topic reply, some (.ok told)⟩ →
      told = some (book.interested topic).length ∧
      ((book.interested topic).length = 0 → queuedBy id history = []) ∧
      (0 < (book.interested topic).length →
        ∃ b, b.topic = topic.render ∧ b.reply = reply ∧ queuedBy id history = [b])) ∧
    (∀ id b told, s.calls.get? id = some ⟨.publish b, some (.ok told)⟩ → queuedBy id history = [b]) ∧
    ∀ id ask e, s.calls.get? id = some ⟨ask, some (.error e)⟩ → queuedBy id history = [] := by
  have haccounted := Run.accounted h
  have hbooked := Run.booked h
  have hencode : (entered history).map (·.2.encode) = ((entered history).map Prod.snd).map Broadcast.encode := by
    rw [List.map_map]
    rfl
  refine ⟨?_, fun o ho fired he => ?_, fun n hp => ?_, fun o ho fired why he => h.failed ho he,
    fun result hp later s' hlater => ?_, fun id book topic reply told hc => hbooked.matched hc,
    fun id b told hc => ?_, fun id ask e hc => ?_⟩
  · rw [hencode]
    exact haccounted.order.isPrefix.map _
  · rw [hencode, frames, h.drained ho he]
  · have horder := haccounted.order
    simp only [InOrder, hp] at horder
    obtain ⟨rfl, -⟩ := horder
    refine ⟨List.length_map .., fun labels hlabels => ?_⟩
    rw [haccounted.counted]
    exact Telemetry.publishedUnder_sum _ hlabels
  · obtain ⟨hp', hentered, -⟩ := Occurs.finished hlater hp
    exact ⟨hp', hentered, Publisher.publish_finished hp'⟩
  · rw [hbooked.queued, hc]
    rfl
  · rw [hbooked.queued, hc]
    rfl

def readers : Book := Book.empty.subscribe 0 "sub-1" ⟨["acme"], [], [], [], [], [], []⟩

/-- Two producers share a queue with room for one broadcast. The second, who publishes where it matters, waits
until the first broadcast is taken; then both drop their handles. -/
def shared : List Event :=
  [.clone, .call (.publish ⟨"zeta.core", .ok .empty, by decide⟩), .proceed 0,
    .call (.matching readers ⟨"acme", "dome", "", "", "", ""⟩ (.ok .empty)), .loop false .took, .proceed 1,
    .drop, .drop, .loop false .written, .loop false .took, .loop false .written, .loop false .drained]

theorem written_in_order_shared :
    ∃ history s, Run 1 history s ∧ history.map Occurrence.event = shared ∧
      frames history = (entered history).map (·.2.encode) ∧ (frames history).length = 2 := by
  have hread : (follow step (.start 1) shared).map (fun r => r.2.publisher.phase) =
      some (.finished (.ok 2)) := rfl
  obtain ⟨history, s, hrun, hevents, hphase⟩ := Occurs.of_reading hread
  have hmem : Event.loop false .drained ∈ history.map Occurrence.event := by simp [hevents, shared]
  obtain ⟨o, ho, he⟩ := List.mem_map.mp hmem
  obtain ⟨-, hdrained, hended, -⟩ := written_in_order hrun
  exact ⟨history, s, hrun, hevents, hdrained o ho false he, (hended 2 hphase).1⟩

end Outlet
end MessageBus
