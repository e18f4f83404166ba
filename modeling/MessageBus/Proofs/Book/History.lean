import MessageBus.Proofs.History
import MessageBus.Proofs.Lookup
import MessageBus.Router
/-!
# What a book was told

A book, its clock, and everything that can be done to it: requests are handled, its owner enters, removes
or expires subscribers, time passes. `filterOf?_step` says what one act does to the filter of an address:
the filters of a book are those that were entered last.
-/
namespace MessageBus
set_option autoImplicit false

/-! ## Operations on the book -/

/-- The address and the filter that a request enters. -/
def Request.entered? (r : Request) : Option (String × TopicFilter) :=
  if r.command = Request.subscribeCommand then
    match r.params.getString "subscriber", (r.params.get? "topic_filter").map TopicFilter.ofJson with
    | .ok address, some (.ok filter) => some (address, filter)
    | _, _ => none
  else none

namespace Book
variable {b b' : Book} {now : Instant} {address : String}

theorem filterOf?_subscribe (b : Book) (now : Instant) (address : String) (filter : TopicFilter)
    (address' : String) :
    (b.subscribe now address filter).filterOf? address' =
      if address' = address then some filter else b.filterOf? address' := by
  rw [filterOf?, subscribe, Table.get?_insert]
  split <;> rfl

theorem filterOf?_heartbeat (h : b.heartbeat? now address = some b') (address' : String) :
    b'.filterOf? address' = b.filterOf? address' := by
  obtain ⟨e, he, rfl⟩ := Option.map_eq_some_iff.mp h
  rw [filterOf?, filterOf?, Table.get?_insert]
  split
  · next heq => rw [heq, he]; rfl
  · rfl

theorem filterOf?_remove (b : Book) (address address' : String) :
    (b.remove address).filterOf? address' =
      if address' = address then none else b.filterOf? address' := by
  rw [filterOf?, remove, Table.get?_erase]
  split <;> rfl

theorem mem_silent {ttl : Duration} :
    address ∈ b.silent now ttl ↔ ∃ e, b.table.get? address = some e ∧ e.alive now ttl = false := by
  rw [silent, Table.mem_keys]
  simp only [Table.get?_filter, Option.filter_eq_some_iff, Bool.not_eq_true']

theorem filterOf?_expire (b : Book) (now : Instant) (ttl : Duration) (address : String) :
    (b.expire now ttl).filterOf? address =
      if (b.silent now ttl).contains address then none else b.filterOf? address := by
  rw [filterOf?, expire, Table.get?_filter, filterOf?]
  split
  · next h =>
    obtain ⟨e, he, hdead⟩ := mem_silent.mp (List.contains_iff_mem.mp h)
    simp [he, hdead]
  · next h =>
    rw [List.contains_iff_mem, mem_silent] at h
    cases he : b.table.get? address with
    | none => rfl
    | some e =>
      have halive : e.alive now ttl = true := by
        cases ha : e.alive now ttl with
        | true => rfl
        | false => exact absurd ⟨e, he, ha⟩ h
      rw [Option.filter, if_pos halive]

theorem mem_interested {topic : Topic} :
    address ∈ b.interested topic ↔ ∃ f, b.filterOf? address = some f ∧ f.accepts topic = true := by
  rw [interested, Table.mem_keys, filterOf?]
  simp only [Table.get?_filter, Option.filter_eq_some_iff, Option.map_eq_some_iff]
  constructor
  · rintro ⟨e, he, ha⟩
    exact ⟨_, ⟨e, he, rfl⟩, ha⟩
  · rintro ⟨_, ⟨e, he, rfl⟩, ha⟩
    exact ⟨e, he, ha⟩

/-- What a request makes of a book, and how it is answered. -/
inductive Handled (b : Book) (now : Instant) (r : Request) : Book → Reply → Prop
  | entered {address : String} {filter : TopicFilter} (h : r.entered? = some (address, filter)) :
      Handled b now r (b.subscribe now address filter) accepted
  | refreshed {address : String} {b' : Book} (hr : r.entered? = none)
      (hc : r.command = Request.heartbeatCommand) (ha : r.params.getString "subscriber" = .ok address)
      (h : b.heartbeat? now address = some b') : Handled b now r b' accepted
  | refused {why : String} (hr : r.entered? = none) : Handled b now r b (.fail why)

theorem handleSubscribe_handled {r : Request} (hc : r.command = Request.subscribeCommand) :
    Handled b now r (b.handleSubscribe now r.params).1 (b.handleSubscribe now r.params).2 := by
  have hentry := if_pos hc ▸ Request.entered?.eq_1 r
  unfold handleSubscribe
  split
  · next e ha => exact .refused (by rw [hentry, ha])
  · next address ha =>
    rw [ha] at hentry
    split
    · next filter hf => exact .entered (by rw [hentry, hf])
    · next e hf => exact .refused (by rw [hentry, hf])
    · next hf => exact .refused (by rw [hentry, hf])

theorem handle_handled (b : Book) (now : Instant) (r : Request) :
    Handled b now r (b.handle now r).1 (b.handle now r).2 := by
  unfold handle
  split
  · next hc => exact handleSubscribe_handled hc
  · next hc =>
    have hentry : r.entered? = none := if_neg hc
    split
    · next hh =>
      unfold handleHeartbeat
      split
      · exact .refused hentry
      · next address ha =>
        split
        · next b' hb => exact .refreshed hentry hh ha hb
        · exact .refused hentry
    · exact .refused hentry

/-- The filter of an address after a request is that which the request enters, if it enters one. -/
theorem Handled.filterOf? {r : Request} {reply : Reply} (h : Handled b now r b' reply)
    (address : String) :
    b'.filterOf? address =
      ((r.entered?.filter fun e => e.1 = address).map (·.2)).or (b.filterOf? address) := by
  cases h with
  | @entered entered filter hentry =>
    rw [hentry, filterOf?_subscribe]
    by_cases h : entered = address
    · simp [Option.filter, h]
    · simp [Option.filter, h, Ne.symm h]
  | refreshed hentry _ _ hb => rw [hentry, filterOf?_heartbeat hb]; rfl
  | refused hentry => rw [hentry]; rfl

/-- A request that enters a filter is accepted. -/
theorem Handled.accepted {r : Request} {reply : Reply} (h : Handled b now r b' reply)
    (hr : r.entered?.isSome = true) : reply = Book.accepted := by
  cases h with
  | entered | refreshed => rfl
  | refused hn =>
    rw [hn] at hr
    cases hr

end Book

/-! ## Acts -/

namespace ClockedBook

inductive Act
  | handle (r : Request)
  | subscribe (address : String) (filter : TopicFilter)
  | heartbeat (address : String)
  | remove (address : String)
  | expire (ttl : Duration)
  /-- Time passes. -/
  | pass (d : Duration)

inductive Answer
  | done
  | replied (reply : Reply)
  /-- Whether the address was known. -/
  | known (found : Bool)
  | expired (addresses : List String)
deriving DecidableEq

/-- Does something to a book. -/
def perform (s : ClockedBook) : Act → ClockedBook × Answer
  | .handle r => ((ClockedBook.handle s r).1, .replied (ClockedBook.handle s r).2)
  | .subscribe address filter => ({ s with book := s.book.subscribe s.now address filter }, .done)
  | .heartbeat address =>
    ({ s with book := (s.book.heartbeat? s.now address).getD s.book }, .known (s.book.knows address))
  | .remove address => ({ s with book := s.book.remove address }, .known (s.book.knows address))
  | .expire ttl => ({ s with book := s.book.expire s.now ttl }, .expired (s.book.silent s.now ttl))
  | .pass d => ({ s with now := s.now + d.nanos }, .done)

abbrev Deed := Occurrence ClockedBook Act Answer

/-- What was done to a book. -/
def Run (s : ClockedBook) : List Deed → ClockedBook → Prop := Occurs (fun s act => some (s.perform act)) s

/-- The filter that an act enters under an address. -/
def Act.entered? (address : String) (act : Act) : Option TopicFilter :=
  match act with
  | .handle r => (r.entered?.filter fun e => e.1 = address).map (·.2)
  | .subscribe address' filter => if address' = address then some filter else none
  | _ => none

/-- Whether an address is struck out. -/
def strikes (address : String) (o : Deed) : Bool :=
  match o.event, o.output with
  | .remove address', _ => address' = address
  | _, .expired addresses => addresses.contains address
  | _, _ => false

/-- The filter of an address is what was entered last, unless it was struck out since. -/
theorem filterOf?_step {s s' : ClockedBook} {act : Act} {out : Answer}
    (h : s.perform act = (s', out)) (address : String) :
    s'.book.filterOf? address =
      (act.entered? address).or
        (if strikes address ⟨s, act, s', out⟩ then none else s.book.filterOf? address) := by
  cases act with
  | handle r =>
    cases h
    exact (Book.handle_handled s.book s.now r).filterOf? address
  | subscribe address' filter =>
    cases h
    by_cases h : address' = address
    · simp [Book.filterOf?_subscribe, Act.entered?, h]
    · simp [Book.filterOf?_subscribe, Act.entered?, strikes, h, Ne.symm h]
  | heartbeat address' =>
    cases h
    cases hb : s.book.heartbeat? s.now address' with
    | none => rfl
    | some b => exact Book.filterOf?_heartbeat hb address
  | remove address' =>
    cases h
    by_cases h : address' = address
    · simp [Book.filterOf?_remove, Act.entered?, strikes, h]
    · simp [Book.filterOf?_remove, Act.entered?, strikes, h, Ne.symm h]
  | expire ttl =>
    cases h
    exact Book.filterOf?_expire ..
  | pass d =>
    cases h
    rfl

/-- Whether an address is given another filter than this one, or struck out. -/
def displaces (address : String) (filter : TopicFilter) (o : Deed) : Bool :=
  strikes address o || (o.event.entered? address).any (· ≠ filter)

theorem kept_step {s s' : ClockedBook} {act : Act} {out : Answer} {address : String}
    {filter : TopicFilter} (hs : s.perform act = (s', out)) (hf : s.book.filterOf? address = some filter)
    (hk : displaces address filter ⟨s, act, s', out⟩ = false) :
    s'.book.filterOf? address = some filter := by
  obtain ⟨hstrikes, hother⟩ := Bool.or_eq_false_iff.mp hk
  rw [filterOf?_step hs, hstrikes]
  cases he : act.entered? address with
  | none => exact hf
  | some other =>
    rw [he, Option.any_some, decide_eq_false_iff_not, Decidable.not_not] at hother
    rw [hother]
    rfl

/-- A filter that was entered stays until the address is given another one or is struck out. -/
theorem Run.filterOf? {s s' : ClockedBook} {history : List Deed} {address : String}
    {filter : TopicFilter} {i : Nat} (h : Run s history s')
    (hi : At history i fun o => o.event.entered? address = some filter)
    (hlast : ∀ o ∈ history.drop (i + 1), displaces address filter o = false) :
    s'.book.filterOf? address = some filter := by
  induction h with
  | nothing => exact absurd hi.lt (Nat.not_lt_zero _)
  | next h hs ih =>
    -- The filter was entered before this act, which lets it be, or by this act.
    rcases at_concat.mp hi with hi | ⟨rfl, he⟩
    · rw [List.drop_append_of_le_length hi.lt] at hlast
      have hf := ih hi fun o ho => hlast o (List.mem_append_left _ ho)
      exact kept_step (Option.some.inj hs) hf (hlast _ (List.mem_append_right _ List.mem_cons_self))
    · rw [filterOf?_step (Option.some.inj hs), he]
      rfl

end ClockedBook
end MessageBus
