import MessageBus.Proofs.Book.History
/-!
# A book and its history

`book_follows_history`: what a book holds is told by what was done to it since it was empty. An address is
in it from an accepted subscription on until it is struck out; the filter is that of the latest
subscription, and the time that of the latest subscription or accepted heartbeat. `get?_perform` says this
of one act, and the rest is an induction along the history.
-/
namespace MessageBus
set_option autoImplicit false

/-! ## Entries -/

namespace Book
variable {b b' : Book} {now : Instant} {address : String}

theorem get?_heartbeat (h : b.heartbeat? now address = some b') (address' : String) :
    b'.table.get? address' =
      if address' = address then (b.table.get? address').map ({ · with lastSeen := now })
      else b.table.get? address' := by
  obtain ⟨e, he, rfl⟩ := Option.map_eq_some_iff.mp h
  rw [Table.get?_insert]
  split
  · next heq => rw [heq, he]; rfl
  · rfl

theorem get?_expire (b : Book) (now : Instant) (ttl : Duration) (address : String) :
    (b.expire now ttl).table.get? address =
      if address ∈ b.silent now ttl then none else b.table.get? address := by
  rw [expire, Table.get?_filter]
  cases he : b.table.get? address with
  | none => simp
  | some e =>
    have hmem : address ∈ b.silent now ttl ↔ e.alive now ttl = false := by simp [mem_silent, he]
    cases ha : e.alive now ttl with
    | true => simp [hmem, ha]
    | false => simp [hmem, ha]

theorem alive_iff (e : Entry) (ttl : Duration) :
    e.alive now ttl = false ↔ e.lastSeen + ttl.nanos < now := by
  rw [Entry.alive, decide_eq_false_iff_not, Nat.not_le]
  exact Nat.lt_sub_iff_add_lt'

theorem of_entered {r : Request} {filter : TopicFilter} (h : r.entered? = some (address, filter)) :
    r.command = Request.subscribeCommand ∧ r.params.getString "subscriber" = .ok address := by
  unfold Request.entered? at h
  split at h
  · next hc =>
    split at h
    · next ha _ =>
      cases h
      exact ⟨hc, ha⟩
    · cases h
  · cases h

/-- A rejected request changes nothing, and an accepted one at most the entry that it names. -/
theorem Handled.frame {r : Request} {reply : Reply} (h : Handled b now r b' reply) :
    (reply.isOk = false → b' = b) ∧
      (reply.isOk = true → ∃ address, r.params.getString "subscriber" = .ok address ∧
        ∀ other, other ≠ address → b'.table.get? other = b.table.get? other) := by
  have hok : Book.accepted.isOk = true := rfl
  cases h with
  | entered hentry =>
    refine ⟨fun hbad => absurd (hok.symm.trans hbad) (by decide), fun _ => ?_⟩
    refine ⟨_, (of_entered hentry).2, fun other hne => ?_⟩
    rw [subscribe, Table.get?_insert, if_neg hne]
  | refreshed _ _ ha hb =>
    refine ⟨fun hbad => absurd (hok.symm.trans hbad) (by decide), fun _ => ?_⟩
    exact ⟨_, ha, fun other hne => by rw [get?_heartbeat hb, if_neg hne]⟩
  | refused =>
    refine ⟨fun _ => rfl, fun hgood => ?_⟩
    cases hgood

end Book

namespace ClockedBook

/-! ## What an act does to an entry -/

/-- Whether an act was accepted, as far as it can be refused. -/
@[simp] def Answer.accepted : Answer → Bool
  | .done | .expired _ => true
  | .replied reply => reply.isOk
  | .known found => found

@[simp] def Act.isBeat (address : String) : Act → Bool
  | .heartbeat address' => address' = address
  | .handle r =>
    r.command = Request.heartbeatCommand && (r.params.getString "subscriber").toOption = some address
  | _ => false

/-- The filter that is accepted for an address. -/
def entered? (address : String) (o : Deed) : Option TopicFilter :=
  if o.output.accepted then o.event.entered? address else none

def beats (address : String) (o : Deed) : Bool := o.output.accepted && o.event.isBeat address

theorem entered?_none {address : String} {o : Deed} (h : o.event.entered? address = none) :
    entered? address o = none := by
  rw [entered?, h, ite_self]

theorem get?_handled {s s' : ClockedBook} {r : Request} {b : Book} {reply : Reply}
    (h : s.book.Handled s.now r b reply) (address : String) :
    b.table.get? address =
      match entered? address ⟨s, .handle r, s', .replied reply⟩ with
      | some filter => some ⟨filter, s.now⟩
      | none =>
        if beats address ⟨s, .handle r, s', .replied reply⟩ then
          (s.book.table.get? address).map ({ · with lastSeen := s.now })
        else s.book.table.get? address := by
  have hok : Book.accepted.isOk = true := rfl
  cases h with
  | @entered address' filter hentry =>
    -- What subscribes is no heartbeat, so that the entry is new in any case.
    have hbeat : Act.isBeat address (.handle r) = false := by
      have hne : r.command ≠ Request.heartbeatCommand := by
        rw [(Book.of_entered hentry).1]
        decide
      simp [hne]
    by_cases h : address' = address
    · simp [Book.subscribe, Table.get?_insert, entered?, Act.entered?, hok, hentry, Option.filter, h]
    · simp [Book.subscribe, Table.get?_insert, entered?, Act.entered?, hentry, beats, hbeat,
        Option.filter, h, Ne.symm h, -Act.isBeat]
  | @refreshed address' b' hentry hc ha hb =>
    rw [Book.get?_heartbeat hb]
    by_cases h : address = address'
    · simp [entered?, Act.entered?, hok, hentry, beats, hc, ha, h, Except.toOption]
    · simp [entered?, Act.entered?, hok, hentry, beats, hc, ha, h, Ne.symm h, Except.toOption]
  | refused hentry =>
    have hbad {why : String} : (Reply.fail why).isOk = false := rfl
    simp [entered?, beats, hbad]

/-- What becomes of the entry of an address. -/
theorem get?_perform {s s' : ClockedBook} {act : Act} {out : Answer}
    (h : s.perform act = (s', out)) (address : String) :
    s'.book.table.get? address =
      match entered? address ⟨s, act, s', out⟩ with
      | some filter => some ⟨filter, s.now⟩
      | none =>
        if strikes address ⟨s, act, s', out⟩ then none
        else if beats address ⟨s, act, s', out⟩ then
          (s.book.table.get? address).map ({ · with lastSeen := s.now })
        else s.book.table.get? address := by
  cases act with
  | handle r =>
    cases h
    exact get?_handled (Book.handle_handled s.book s.now r) address
  | subscribe address' filter =>
    cases h
    by_cases h : address' = address
    · simp [Book.subscribe, Table.get?_insert, entered?, Act.entered?, h]
    · simp [Book.subscribe, Table.get?_insert, entered?, Act.entered?, beats, strikes, h, Ne.symm h]
  | heartbeat address' =>
    cases h
    rw [entered?_none rfl]
    cases hb : s.book.heartbeat? s.now address' with
    | none =>
      have hunknown : s.book.knows address' = false := by
        simpa [Book.knows, Table.contains, Book.heartbeat?] using hb
      simp [strikes, beats, hunknown]
    | some b =>
      have hknown : s.book.knows address' = true := by
        obtain ⟨e, he, -⟩ := Option.map_eq_some_iff.mp hb
        simp [Book.knows, Table.contains, he]
      rw [Option.getD_some, Book.get?_heartbeat hb]
      by_cases h : address = address'
      · simp [strikes, beats, hknown, h]
      · simp [strikes, beats, h, Ne.symm h]
  | remove address' =>
    cases h
    rw [entered?_none rfl]
    by_cases h : address' = address
    · simp [Book.remove, Table.get?_erase, strikes, h]
    · simp [Book.remove, Table.get?_erase, strikes, beats, h, Ne.symm h]
  | expire ttl =>
    cases h
    rw [entered?_none rfl]
    simp [Book.get?_expire, strikes, beats]
  | pass d =>
    cases h
    rfl

/-! ## What a history says of an entry -/

/-- The latest subscription of an address, with nothing after it that strikes the address out. -/
def InForce (address : String) (history : List Deed) (i : Nat) : Prop :=
  (Latest history i fun o => (entered? address o).isSome = true) ∧
    ∀ j, i < j → ¬At history j fun o => strikes address o = true

/-- An address was heard of: it subscribed, or a heartbeat of it was accepted. -/
def heard (address : String) (o : Deed) : Prop :=
  (entered? address o).isSome = true ∨ beats address o = true

/-- An entry has the filter of the subscription in force and the time when the address was last heard of. -/
def Recorded (address : String) (history : List Deed) (e : Book.Entry) : Prop :=
  ∃ i, InForce address history i ∧ (At history i fun o => entered? address o = some e.filter) ∧
    ∃ k, Latest history k (heard address) ∧ At history k fun o => o.before.now = e.lastSeen

section Histories
variable {address : String} {history : List Deed} {o : Deed} {e : Book.Entry} {i : Nat}

theorem inForce_last {filter : TopicFilter} (h : entered? address o = some filter) :
    InForce address (history ++ [o]) history.length := by
  refine ⟨latest_last (by rw [h]; rfl), fun j hj ha => ?_⟩
  have hlt := ha.lt
  rw [List.length_append, List.length_singleton] at hlt
  omega

/-- An act that enters nothing leaves in force what it does not strike out. -/
theorem inForce_concat (h : entered? address o = none) :
    InForce address (history ++ [o]) i ↔ InForce address history i ∧ strikes address o = false := by
  have hlatest : (Latest (history ++ [o]) i fun o => (entered? address o).isSome = true) ↔
      Latest history i fun o => (entered? address o).isSome = true := latest_concat (by simp [h])
  rw [InForce, InForce, hlatest]
  constructor
  · rintro ⟨hi, hn⟩
    refine ⟨⟨hi, fun j hj ha => hn j hj (ha.append _)⟩, ?_⟩
    exact (Bool.not_eq_true _).mp fun hs => hn _ hi.1.lt (at_last hs)
  · rintro ⟨⟨hi, hn⟩, hs⟩
    refine ⟨hi, fun j hj ha => ?_⟩
    obtain ha | ⟨-, hs'⟩ := at_concat.mp ha
    · exact hn j hj ha
    · rw [hs] at hs'
      cases hs'

theorem recorded_last {filter : TopicFilter} (h : entered? address o = some filter) :
    Recorded address (history ++ [o]) ⟨filter, o.before.now⟩ :=
  ⟨_, inForce_last h, at_last h, _, latest_last (.inl (by rw [h]; rfl)), at_last rfl⟩

theorem Recorded.beaten (h : Recorded address history e) (hn : entered? address o = none)
    (hs : strikes address o = false) (hb : beats address o = true) :
    Recorded address (history ++ [o]) { e with lastSeen := o.before.now } := by
  obtain ⟨i, hi, hf, -⟩ := h
  exact ⟨i, (inForce_concat hn).mpr ⟨hi, hs⟩, hf.append _, _, latest_last (.inr hb), at_last rfl⟩

theorem Recorded.kept (h : Recorded address history e) (hn : entered? address o = none)
    (hs : strikes address o = false) (hb : beats address o = false) :
    Recorded address (history ++ [o]) e := by
  obtain ⟨i, hi, hf, k, hk, ht⟩ := h
  have hsilent : ¬heard address o := by simp [heard, hn, hb]
  exact ⟨i, (inForce_concat hn).mpr ⟨hi, hs⟩, hf.append _, k, (latest_concat hsilent).mpr hk, ht.append _⟩

end Histories

section Runs
variable {t : Instant} {history : List Deed} {b : ClockedBook} {address : String}

theorem Run.recorded (h : Run ⟨t, .empty⟩ history b) {e : Book.Entry}
    (he : b.book.table.get? address = some e) : Recorded address history e := by
  -- The entry may have been another one before the last act.
  induction h generalizing e with
  | nothing => cases he
  | @next history s s' act out _ hs ih =>
    rw [get?_perform (Option.some.inj hs)] at he
    cases hn : entered? address ⟨s, act, s', out⟩ with
    | some filter =>
      rw [hn] at he
      cases he
      exact recorded_last hn
    | none =>
      simp only [hn] at he
      split at he
      · cases he
      · next hstrikes =>
        have hstrikes := (Bool.not_eq_true _).mp hstrikes
        split at he
        · next hb =>
          obtain ⟨e₀, he₀, rfl⟩ := Option.map_eq_some_iff.mp he
          exact (ih he₀).beaten hn hstrikes hb
        · next hb => exact (ih he).kept hn hstrikes ((Bool.not_eq_true _).mp hb)

theorem Run.known (h : Run ⟨t, .empty⟩ history b) {i : Nat} (hi : InForce address history i) :
    (b.book.table.get? address).isSome = true := by
  induction h generalizing i with
  | nothing => exact absurd hi.1.1.lt (Nat.not_lt_zero _)
  | @next history s s' act out _ hs ih =>
    rw [get?_perform (Option.some.inj hs)]
    cases hn : entered? address ⟨s, act, s', out⟩ with
    | some filter => rfl
    | none =>
      obtain ⟨hi, hstrikes⟩ := (inForce_concat hn).mp hi
      have hbefore := ih hi
      simp only [hstrikes, Bool.false_eq_true, if_false]
      split
      · rw [Option.isSome_map, hbefore]
      · exact hbefore

end Runs

/-! ## Single acts -/

/-- What expiry, requests and heartbeats do to the book as a whole. -/
structure Orderly (o : Deed) : Prop where
  expires : ∀ {ttl : Duration}, o.event = .expire ttl →
    ∃ addresses, o.output = .expired addresses ∧ addresses.Pairwise (· < ·) ∧
      (∀ address, address ∈ addresses ↔ ∃ e, o.before.book.table.get? address = some e ∧
        e.lastSeen + ttl.nanos < o.before.now) ∧
      ∀ address, o.after.book.table.get? address =
        if address ∈ addresses then none else o.before.book.table.get? address
  handles : ∀ {r : Request}, o.event = .handle r →
    ∃ reply, o.output = .replied reply ∧ (reply.isOk = false → o.after.book = o.before.book) ∧
      (reply.isOk = true → ∃ address, r.params.getString "subscriber" = .ok address ∧
        ∀ other, other ≠ address →
          o.after.book.table.get? other = o.before.book.table.get? other)
  beat : (∃ address, o.event = .heartbeat address) ∨
      (∃ r, o.event = .handle r ∧ r.command = Request.heartbeatCommand) →
    ∀ address, o.after.book.filterOf? address = o.before.book.filterOf? address

theorem orderly {s s' : ClockedBook} {act : Act} {out : Answer} (hs : s.perform act = (s', out)) :
    Orderly ⟨s, act, s', out⟩ where
  expires {ttl} h := by
    cases h
    cases hs
    refine ⟨_, rfl, Table.keys_ascending _, fun address => ?_, fun address => Book.get?_expire ..⟩
    simp only [Book.mem_silent, Book.alive_iff]
  handles {r} h := by
    cases h
    cases hs
    exact ⟨_, rfl, (Book.handle_handled s.book s.now r).frame⟩
  beat h address := by
    rw [filterOf?_step hs]
    obtain ⟨address', rfl⟩ | ⟨r, rfl, hc⟩ := h
    · cases hs
      rfl
    · have hne : r.command ≠ Request.subscribeCommand := by
        rw [hc]
        decide
      cases hs
      simp [Act.entered?, Request.entered?, hne, strikes]

/-! ## The book -/

/-- A book that was empty holds what its history says, whatever was done to it and in whatever order. An
address is in it just if a subscription of it is in force; the entry has the filter of that subscription
and the time when the address was last heard of. Expiry strikes out exactly those that were silent for
longer, a rejected request changes nothing, an accepted one only the entry it names, and a heartbeat no
filter. -/
theorem book_follows_history {t : Instant} {history : List Deed} {b : ClockedBook}
    (h : Run ⟨t, .empty⟩ history b) :
    (∀ address, b.book.knows address = true ↔ ∃ i, InForce address history i) ∧
    (∀ address i, InForce address history i → ∃ e, b.book.table.get? address = some e ∧
      (At history i fun o => entered? address o = some e.filter) ∧
      ∃ k, Latest history k (heard address) ∧ At history k fun o => o.before.now = e.lastSeen) ∧
    (∀ topic, (b.book.interested topic).Pairwise (· < ·) ∧
      ∀ address, address ∈ b.book.interested topic ↔
        ∃ filter, b.book.filterOf? address = some filter ∧ filter.accepts topic = true) ∧
    ∀ o ∈ history, Orderly o := by
  refine ⟨fun address => ⟨fun hk => ?_, fun ⟨i, hi⟩ => h.known hi⟩, fun address i hi => ?_,
    fun topic => ⟨Table.keys_ascending _, fun address => Book.mem_interested⟩, fun o ho => ?_⟩
  · obtain ⟨e, he⟩ := Option.isSome_iff_exists.mp hk
    obtain ⟨i, hi, -⟩ := h.recorded he
    exact ⟨i, hi⟩
  · obtain ⟨e, he⟩ := Option.isSome_iff_exists.mp (h.known hi)
    obtain ⟨j, hj, hf, hk⟩ := h.recorded he
    obtain rfl := hi.1.unique hj.1
    exact ⟨e, he, hf, hk⟩
  · obtain ⟨-, -, hs⟩ := Occurs.of_mem h ho
    exact orderly (Option.some.inj hs)

/-- One subscriber asks for its broadcasts and keeps its entry alive, the owner enters another one that is
silent for longer than it may, and a heartbeat from there comes too late. -/
def told : List Act :=
  [.handle (.subscribe "sub-1" .empty), .subscribe "sub-2" .empty, .pass (.ofSecs 2),
    .handle (.heartbeat "sub-1"), .pass (.ofSecs 1), .expire (.ofSecs 2), .handle (.heartbeat "sub-2")]

theorem book_follows_history_told :
    ∃ history b, Run ⟨0, .empty⟩ history b ∧ history.map Occurrence.event = told ∧
      history.map Occurrence.output = [.replied Book.accepted, .done, .done, .replied Book.accepted,
        .done, .expired ["sub-2"], .replied (.fail "unknown subscriber")] ∧
      (∃ i, InForce "sub-1" history i) ∧ (¬∃ i, InForce "sub-2" history i) ∧
      ∃ k, Latest history k (heard "sub-1") ∧
        At history k fun o => o.before.now = (Duration.ofSecs 2).nanos := by
  have hread : (follow (fun s act => some (perform s act)) ⟨0, .empty⟩ told).map
      (fun r => (r.1.map Occurrence.output, r.2.book.table.get? "sub-1", r.2.book.table.get? "sub-2")) =
      some ([.replied Book.accepted, .done, .done, .replied Book.accepted, .done, .expired ["sub-2"],
        .replied (.fail "unknown subscriber")], some ⟨.empty, (Duration.ofSecs 2).nanos⟩, none) := by
    decide +kernel
  obtain ⟨history, b, hrun, hevents, hread⟩ := Occurs.of_reading hread
  obtain ⟨houtputs, hread⟩ := Prod.mk.inj hread
  obtain ⟨hfirst, hsecond⟩ := Prod.mk.inj hread
  obtain ⟨hknown, hentry, -⟩ := book_follows_history hrun
  obtain ⟨i, hi⟩ := (hknown "sub-1").mp (by simp [Book.knows, Table.contains, hfirst])
  obtain ⟨e, he, -, hlast⟩ := hentry "sub-1" i hi
  rw [hfirst] at he
  cases he
  refine ⟨history, b, hrun, hevents, houtputs, ⟨i, hi⟩, fun hex => ?_, hlast⟩
  have hsome := (hknown "sub-2").mpr hex
  simp [Book.knows, Table.contains, hsecond] at hsome

end ClockedBook
end MessageBus
