import Mathlib.Data.Fintype.EquivFin
import MessageBus.Topic.Filter
/-!
# What a filter means

`same_topics_iff`: two filters accept the same topics just if they say the same at every level. A topic is
accepted level by level (`accepts_iff`), every filter accepts some topic, and in an accepted topic one level can
be changed at will (`accepts_change`); so what is said at one level shows in the topics, whatever is said at
the others.
-/
namespace MessageBus
set_option autoImplicit false

/-- The levels of a topic. -/
inductive Level
  | organization
  | project
  | networkId
  | group
  | name
  | method
deriving DecidableEq

/-- The topic with these fields. -/
def Topic.ofLevels (field : Level → String) : Topic :=
  ⟨field .organization, field .project, field .networkId, field .group, field .name, field .method⟩

def Topic.fieldAt (t : Topic) : Level → String
  | .organization => t.organization
  | .project => t.project
  | .networkId => t.networkId
  | .group => t.group
  | .name => t.name
  | .method => t.method

@[simp]
theorem Topic.fieldAt_ofLevels (field : Level → String) (level : Level) :
    (Topic.ofLevels field).fieldAt level = field level := by
  cases level <;> rfl

/-- The topic with another field at one level. -/
def Topic.change (t : Topic) (level : Level) (field : String) : Topic :=
  .ofLevels (Function.update t.fieldAt level field)

@[simp]
theorem Topic.fieldAt_change (t : Topic) (level : Level) (field : String) (other : Level) :
    (t.change level field).fieldAt other = if other = level then field else t.fieldAt other := by
  rw [change, fieldAt_ofLevels, Function.update_apply]

namespace TopicFilter

/-- What a filter lists at each level; methods and events are one level. -/
def values (f : TopicFilter) : Level → List String
  | .organization => f.organizations
  | .project => f.projects
  | .networkId => f.networkIds
  | .group => f.groups
  | .name => f.contracts
  | .method => f.methods ++ f.events

/-! ## One level -/

/-- Both leave a level unconstrained, or both constrain it to the same set of values. -/
def Alike (a b : List String) : Prop := (a = [] ∧ b = []) ∨ (a ≠ [] ∧ b ≠ [] ∧ ∀ v, v ∈ a ↔ v ∈ b)

theorem admits_iff {values : List String} {field : String} :
    admits values field = true ↔ values = [] ∨ field ∈ values := by
  simp [admits]

theorem exists_not_mem (values : List String) : ∃ v, v ∉ values := by
  obtain ⟨v, hv⟩ := Infinite.exists_notMem_finset values.toFinset
  exact ⟨v, fun hmem => hv (List.mem_toFinset.mpr hmem)⟩

/-- No list admits all values but the empty one. -/
theorem eq_nil_of_admits {values : List String} (h : ∀ v, admits values v = true) : values = [] := by
  obtain ⟨v, hv⟩ := exists_not_mem values
  exact (admits_iff.mp (h v)).resolve_right hv

theorem alike_iff {a b : List String} : Alike a b ↔ ∀ v, admits a v = true ↔ admits b v = true := by
  constructor
  · rintro (⟨rfl, rfl⟩ | ⟨ha, hb, hsame⟩) v
    · rfl
    · simp only [admits_iff, ha, hb, hsame v]
  · intro h
    by_cases ha : a = []
    · have hb : b = [] := eq_nil_of_admits fun v => (h v).mp (admits_iff.mpr (.inl ha))
      exact .inl ⟨ha, hb⟩
    by_cases hb : b = []
    · have ha : a = [] := eq_nil_of_admits fun v => (h v).mpr (admits_iff.mpr (.inl hb))
      exact .inl ⟨ha, hb⟩
    · refine .inr ⟨ha, hb, fun v => ?_⟩
      simpa only [admits_iff, ha, hb, false_or] using h v

theorem Alike.of_same {a b : List String} (h : ∀ v, v ∈ a ↔ v ∈ b) : Alike a b := by
  have hnil : a = [] ↔ b = [] := by
    simp only [List.eq_nil_iff_forall_not_mem, h]
  by_cases ha : a = []
  · exact .inl ⟨ha, hnil.mp ha⟩
  · exact .inr ⟨ha, fun hb => ha (hnil.mpr hb), h⟩

/-! ## All levels -/

section Levels
variable {f g : TopicFilter} {t : Topic}

theorem accepts_iff : f.accepts t = true ↔ ∀ level, admits (f.values level) (t.fieldAt level) = true := by
  simp only [accepts, Bool.and_eq_true, and_assoc]
  constructor
  · rintro ⟨ho, hp, hn, hg, hs, hm⟩ level
    cases level with
    | organization => exact ho
    | project => exact hp
    | networkId => exact hn
    | group => exact hg
    | name => exact hs
    | method => exact hm
  · intro h
    exact ⟨h .organization, h .project, h .networkId, h .group, h .name, h .method⟩

/-- In an accepted topic a level may have any field that is admitted there, and no other. -/
theorem accepts_change (h : f.accepts t = true) (level : Level) (v : String) :
    f.accepts (t.change level v) = true ↔ admits (f.values level) v = true := by
  rw [accepts_iff]
  constructor
  · intro hall
    simpa using hall level
  · intro hv other
    by_cases heq : other = level
    · simpa [heq] using hv
    · simpa [heq] using accepts_iff.mp h other

theorem exists_accepted (f : TopicFilter) : ∃ t, f.accepts t = true := by
  refine ⟨.ofLevels fun level => (f.values level).headD "", accepts_iff.mpr fun level => ?_⟩
  rw [Topic.fieldAt_ofLevels, admits_iff]
  cases f.values level with
  | nil => exact .inl rfl
  | cons v more => exact .inr List.mem_cons_self

theorem same_topics_iff (f g : TopicFilter) :
    (∀ t, f.accepts t = g.accepts t) ↔ ∀ level, Alike (f.values level) (g.values level) := by
  constructor
  · intro h level
    obtain ⟨t, hf⟩ := exists_accepted f
    have hg : g.accepts t = true := by rw [← h, hf]
    rw [alike_iff]
    intro v
    rw [← accepts_change hf, ← accepts_change hg, h]
  · intro h t
    rw [Bool.eq_iff_iff, accepts_iff, accepts_iff]
    exact forall_congr' fun level => alike_iff.mp (h level) _

end Levels

/-- The meaning of a filter is what it says at each of the six levels. Two filters accept the same topics just
if at every level both are unconstrained or both constrain it to the same set; where they differ at any level, a
topic tells them apart. So the order of values does not matter, nor how often one is given, nor whether one
stands among the methods or among the events. -/
theorem filter_meaning (f g : TopicFilter) :
    ((∀ t, f.accepts t = g.accepts t) ↔ ∀ level, Alike (f.values level) (g.values level)) ∧
    ((∃ level, ¬Alike (f.values level) (g.values level)) → ∃ t, f.accepts t ≠ g.accepts t) ∧
    (List.Forall₂ (fun l l' => ∀ v, v ∈ l.2 ↔ v ∈ l'.2) f.lists g.lists → ∀ t, f.accepts t = g.accepts t) ∧
    ∀ methods events, (∀ v, v ∈ methods ++ events ↔ v ∈ f.methods ++ f.events) →
      ∀ t, ({ f with methods := methods, events := events } : TopicFilter).accepts t = f.accepts t := by
  refine ⟨same_topics_iff f g, ?_, ?_, ?_⟩
  · rintro ⟨level, hdiffer⟩
    by_contra hsame
    push Not at hsame
    exact hdiffer ((same_topics_iff f g).mp hsame level)
  · intro h
    simp only [lists, List.forall₂_cons, List.Forall₂.nil, and_true] at h
    obtain ⟨ho, hp, hn, hg, hs, hm, he⟩ := h
    refine (same_topics_iff f g).mpr fun level => ?_
    cases level with
    | organization => exact .of_same ho
    | project => exact .of_same hp
    | networkId => exact .of_same hn
    | group => exact .of_same hg
    | name => exact .of_same hs
    | method => exact .of_same fun v => by rw [values, values, List.mem_append, List.mem_append, hm v, he v]
  · intro methods events h
    refine (same_topics_iff _ f).mpr fun level => ?_
    cases level with
    | method => exact .of_same h
    | organization | project | networkId | group | name => exact .of_same fun _ => Iff.rfl

/-- A name given twice and in another order makes no difference, nor a method named among the events; without
the event the filter means something else. -/
theorem filter_meaning_regrouped :
    let f : TopicFilter := { empty with organizations := ["a", "b"], methods := ["m"], events := ["e"] }
    let g : TopicFilter := { f with organizations := ["b", "a", "b"] }
    let h : TopicFilter := { f with events := [] }
    (List.Forall₂ (fun l l' => ∀ v, v ∈ l.2 ↔ v ∈ l'.2) f.lists g.lists ∧ ∀ t, f.accepts t = g.accepts t) ∧
    (∀ t, ({ f with methods := [], events := ["e", "m"] } : TopicFilter).accepts t = f.accepts t) ∧
    ¬Alike (f.values .method) (h.values .method) ∧ ∃ t, f.accepts t ≠ h.accepts t := by
  intro f g h
  have hlists : List.Forall₂ (fun l l' => ∀ v, v ∈ l.2 ↔ v ∈ l'.2) f.lists g.lists := by
    simp only [f, g, lists, List.forall₂_cons, List.Forall₂.nil, and_true, implies_true, iff_self]
    intro v
    simp only [List.mem_cons, List.not_mem_nil, or_false]
    tauto
  have hdiffer : ¬Alike (f.values .method) (h.values .method) := by
    rintro (⟨hnil, -⟩ | ⟨-, -, hsame⟩)
    · exact absurd hnil (by decide)
    · exact absurd ((hsame "e").mp (by decide)) (by decide)
  have hmoved : ∀ v, v ∈ [] ++ ["e", "m"] ↔ v ∈ f.methods ++ f.events := by
    intro v
    simp only [f, List.nil_append, List.cons_append, List.mem_cons, List.not_mem_nil, or_false]
    exact or_comm
  exact ⟨⟨hlists, (filter_meaning f g).2.2.1 hlists⟩, (filter_meaning f g).2.2.2 [] ["e", "m"] hmoved, hdiffer,
    (filter_meaning f h).2.1 ⟨.method, hdiffer⟩⟩

end TopicFilter
end MessageBus
