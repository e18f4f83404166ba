/-!
# Histories

What a system did, oldest first. A system is a step function that may refuse an event and that gives
something out with every step; `Occurs` says what can occur from a state on. Facts about what came before
what are told by positions in the history: `At` holds of a position whose occurrence has a property.
-/
namespace MessageBus
set_option autoImplicit false

/-- An event that a system took, and what it gave out. -/
structure Occurrence (σ ε ο : Type) where
  before : σ
  event : ε
  after : σ
  output : ο

variable {σ ε ο : Type}

theorem filterMap_concat {α β : Type} (f : β → Option α) (history : List β) (o : β) :
    (history ++ [o]).filterMap f = history.filterMap f ++ (f o).toList := by
  rw [List.filterMap_append]
  cases ho : f o with
  | none => simp [ho]
  | some a => simp [ho]

theorem countP_concat {α : Type} (test : α → Bool) (history : List α) (o : α) :
    (history ++ [o]).countP test = history.countP test + (test o).toNat := by
  rw [List.countP_append, List.countP_singleton]
  cases test o <;> rfl

/-- What can occur from a state on, and the state to which it leads. -/
inductive Occurs (step : σ → ε → Option (σ × ο)) (s₀ : σ) : List (Occurrence σ ε ο) → σ → Prop
  | nothing : Occurs step s₀ [] s₀
  | next {history : List (Occurrence σ ε ο)} {s s' : σ} {e : ε} {out : ο}
      (h : Occurs step s₀ history s) (hs : step s e = some (s', out)) :
      Occurs step s₀ (history ++ [⟨s, e, s', out⟩]) s'

/-- Whatever occurs is a step from the state to which the occurrences before it led. -/
theorem Occurs.of_getElem? {step : σ → ε → Option (σ × ο)} {s₀ s : σ}
    {history : List (Occurrence σ ε ο)} {i : Nat} {o : Occurrence σ ε ο}
    (h : Occurs step s₀ history s) (ho : history[i]? = some o) :
    Occurs step s₀ (history.take i) o.before ∧ step o.before o.event = some (o.after, o.output) := by
  induction h with
  | nothing => cases ho
  | @next history s s' e out h hs ih =>
    -- An earlier occurrence, the last one, or none.
    rcases Nat.lt_trichotomy i history.length with hlt | rfl | hgt
    · rw [List.getElem?_append_left hlt] at ho
      rw [List.take_append_of_le_length (Nat.le_of_lt hlt)]
      exact ih ho
    · rw [List.getElem?_concat_length] at ho
      cases ho
      rw [List.take_left]
      exact ⟨h, hs⟩
    · rw [List.getElem?_eq_none (by rw [List.length_append]; exact hgt)] at ho
      cases ho

theorem Occurs.of_mem {step : σ → ε → Option (σ × ο)} {s₀ s : σ} {history : List (Occurrence σ ε ο)}
    {o : Occurrence σ ε ο} (h : Occurs step s₀ history s) (ho : o ∈ history) :
    ∃ earlier, Occurs step s₀ earlier o.before ∧ step o.before o.event = some (o.after, o.output) := by
  obtain ⟨i, hi⟩ := List.mem_iff_getElem?.mp ho
  exact ⟨_, h.of_getElem? hi⟩

/-- A history can be parted at each of its occurrences. -/
theorem Occurs.split {step : σ → ε → Option (σ × ο)} {s₀ s : σ} {earlier later : List (Occurrence σ ε ο)}
    {o : Occurrence σ ε ο} (h : Occurs step s₀ (earlier ++ o :: later) s) :
    Occurs step s₀ earlier o.before ∧ step o.before o.event = some (o.after, o.output) ∧
      Occurs step o.after later s := by
  generalize hhistory : earlier ++ o :: later = history at h
  induction h generalizing later with
  | nothing => simp at hhistory
  | @next history s s' e out h hs ih =>
    -- The last occurrence is the one in question, or it comes later.
    rcases List.eq_nil_or_concat later with rfl | ⟨between, last, hlater⟩
    · obtain ⟨rfl, heq⟩ := List.append_inj' hhistory rfl
      cases heq
      exact ⟨h, hs, .nothing⟩
    · rw [List.concat_eq_append] at hlater
      subst hlater
      have hparted : (earlier ++ o :: between) ++ [last] = history ++ [⟨s, e, s', out⟩] := by
        rw [← hhistory]
        simp
      obtain ⟨hfront, hlast⟩ := List.append_inj' hparted rfl
      cases hlast
      obtain ⟨hbefore, hstep, hafter⟩ := ih hfront
      exact ⟨hbefore, hstep, hafter.next hs⟩

/-- The history of a list of events; `none` if one of them is refused. -/
def follow (step : σ → ε → Option (σ × ο)) (s : σ) : List ε → Option (List (Occurrence σ ε ο) × σ)
  | [] => some ([], s)
  | e :: events =>
    (step s e).bind fun (s', out) =>
      (follow step s' events).map fun (history, t) => (⟨s, e, s', out⟩ :: history, t)

theorem Occurs.after {step : σ → ε → Option (σ × ο)} {s₀ s t : σ}
    {history more : List (Occurrence σ ε ο)} (h : Occurs step s₀ history s)
    (hm : Occurs step s more t) : Occurs step s₀ (history ++ more) t := by
  induction hm with
  | nothing => rwa [List.append_nil]
  | next _ hs ih =>
    rw [← List.append_assoc]
    exact ih.next hs

theorem Occurs.of_follow {step : σ → ε → Option (σ × ο)} {s t : σ} {events : List ε}
    {history : List (Occurrence σ ε ο)} (h : follow step s events = some (history, t)) :
    Occurs step s history t := by
  induction events generalizing s history with
  | nil =>
    cases h
    exact .nothing
  | cons e events ih =>
    obtain ⟨⟨s', out⟩, hs, h⟩ := Option.bind_eq_some_iff.mp h
    obtain ⟨⟨rest, t'⟩, hf, h⟩ := Option.map_eq_some_iff.mp h
    cases h
    exact (Occurs.nothing.next hs).after (ih hf)

theorem follow_events {step : σ → ε → Option (σ × ο)} {s t : σ} {events : List ε}
    {history : List (Occurrence σ ε ο)} (h : follow step s events = some (history, t)) :
    history.map Occurrence.event = events := by
  induction events generalizing s history with
  | nil =>
    cases h
    rfl
  | cons e events ih =>
    obtain ⟨⟨s', out⟩, -, h⟩ := Option.bind_eq_some_iff.mp h
    obtain ⟨⟨rest, t'⟩, hf, h⟩ := Option.map_eq_some_iff.mp h
    cases h
    rw [List.map_cons, ih hf]

/-- What is read off the history of a list of events belongs to a history that can occur. -/
theorem Occurs.of_reading {α : Type} {step : σ → ε → Option (σ × ο)} {s : σ} {events : List ε}
    {read : List (Occurrence σ ε ο) × σ → α} {a : α} (h : (follow step s events).map read = some a) :
    ∃ history t, Occurs step s history t ∧ history.map Occurrence.event = events ∧
      read (history, t) = a := by
  obtain ⟨⟨history, t⟩, hf, ha⟩ := Option.map_eq_some_iff.mp h
  exact ⟨history, t, .of_follow hf, follow_events hf, ha⟩

/-- What is true of all events of a list is true of those of its history. -/
theorem event_of_mem {history : List (Occurrence σ ε ο)} {events : List ε}
    (h : history.map Occurrence.event = events) {P : ε → Prop} (hall : ∀ e ∈ events, P e) :
    ∀ o ∈ history, P o.event := fun _ ho => hall _ (h ▸ List.mem_map_of_mem ho)

/-- The occurrence at a position has a property. -/
def At (history : List (Occurrence σ ε ο)) (i : Nat) (P : Occurrence σ ε ο → Prop) : Prop :=
  ∃ o, history[i]? = some o ∧ P o

section Positions
variable {history : List (Occurrence σ ε ο)} {i : Nat} {o : Occurrence σ ε ο}
  {P Q : Occurrence σ ε ο → Prop}

theorem At.lt (h : At history i P) : i < history.length := by
  obtain ⟨o, ho, -⟩ := h
  exact (List.getElem?_eq_some_iff.mp ho).1

theorem At.append (h : At history i P) (more : List (Occurrence σ ε ο)) :
    At (history ++ more) i P := by
  obtain ⟨o, ho, hp⟩ := h
  exact ⟨o, by rw [List.getElem?_append_left (List.getElem?_eq_some_iff.mp ho).1, ho], hp⟩

theorem at_last (h : P o) : At (history ++ [o]) history.length P :=
  ⟨o, List.getElem?_concat_length, h⟩

theorem at_concat : At (history ++ [o]) i P ↔ At history i P ∨ i = history.length ∧ P o := by
  constructor
  · rintro ⟨a, ha, hp⟩
    rcases Nat.lt_or_ge i history.length with hlt | hge
    · rw [List.getElem?_append_left hlt] at ha
      exact .inl ⟨a, ha, hp⟩
    · have hi : i < (history ++ [o]).length := (List.getElem?_eq_some_iff.mp ha).1
      rw [List.length_append, List.length_singleton] at hi
      obtain rfl : i = history.length := by omega
      rw [List.getElem?_concat_length] at ha
      cases ha
      exact .inr ⟨rfl, hp⟩
  · rintro (h | ⟨rfl, hp⟩)
    · exact h.append _
    · exact at_last hp

theorem at_take {k : Nat} : At (history.take k) i P ↔ i < k ∧ At history i P := by
  unfold At
  rw [List.getElem?_take]
  split
  · next h => simp [h]
  · next h => simp [h]

theorem at_of_map {α : Type} {read : Occurrence σ ε ο → α} {reads : List α} {a : α}
    (h : history.map read = reads) (ha : reads[i]? = some a) : At history i fun o => read o = a := by
  rw [← h, List.getElem?_map] at ha
  exact Option.map_eq_some_iff.mp ha

/-- What occurred at a position, read off a list of events and of what they gave out. -/
theorem at_of_deeds {deeds : List (ε × ο)} {e : ε} {out : ο}
    (h : history.map (fun o => (o.event, o.output)) = deeds) (hd : deeds[i]? = some (e, out)) :
    At history i fun o => o.event = e ∧ o.output = out := by
  obtain ⟨o, ho, hdeed⟩ := at_of_map h hd
  exact ⟨o, ho, Prod.mk.inj hdeed⟩

theorem At.imp (h : At history i P) (hpq : ∀ o, P o → Q o) : At history i Q := by
  obtain ⟨o, ho, hp⟩ := h
  exact ⟨o, ho, hpq o hp⟩

/-- The occurrence at a position has a property, and none after it has. -/
def Latest (history : List (Occurrence σ ε ο)) (i : Nat) (P : Occurrence σ ε ο → Prop) : Prop :=
  At history i P ∧ ∀ j, i < j → ¬At history j P

theorem latest_last (h : P o) : Latest (history ++ [o]) history.length P := by
  refine ⟨at_last h, fun j hj ha => ?_⟩
  have hlt := ha.lt
  rw [List.length_append, List.length_singleton] at hlt
  omega

/-- One more occurrence, without the property, leaves the latest one as it was. -/
theorem latest_concat (h : ¬P o) : Latest (history ++ [o]) i P ↔ Latest history i P := by
  simp only [Latest, at_concat, h, and_false, or_false]

theorem Latest.unique {j : Nat} (h : Latest history i P) (h' : Latest history j P) : i = j := by
  rcases Nat.lt_trichotomy i j with hlt | heq | hlt
  · exact absurd h'.1 (h.2 j hlt)
  · exact heq
  · exact absurd h.1 (h'.2 i hlt)

end Positions
end MessageBus
