import MessageBus.Proofs.Json.Reserved
import MessageBus.Proofs.Lookup
import MessageBus.Proofs.Params.Canonical
import MessageBus.Topic.Filter
/-!
# Filters as JSON

`ofJson_toJson`: a filter is read back from its JSON form. `reading` says which filter comes from members
that hold lists of strings: of equal tags the last one counts.
-/
namespace MessageBus.TopicFilter
set_option autoImplicit false

/-- A list of strings under its tag. -/
def jsonMember (l : String × List String) : String × Json := (l.1, .array (l.2.map .string))

theorem asStrings_array (values : List String) :
    (Json.array (values.map .string)).asStrings = .ok values := by
  rw [Json.asStrings]
  induction values with
  | nil => rfl
  | cons v values ih => rw [List.map_cons, List.mapM_cons, ih]; rfl

/-- The filter that takes lists by their tags, with those of `f` where there is none. -/
def reading (f : TopicFilter) (ls : List (String × List String)) : TopicFilter where
  organizations := (Keyed.lookupLast "o" ls).getD f.organizations
  projects := (Keyed.lookupLast "p" ls).getD f.projects
  networkIds := (Keyed.lookupLast "n" ls).getD f.networkIds
  groups := (Keyed.lookupLast "g" ls).getD f.groups
  contracts := (Keyed.lookupLast "s" ls).getD f.contracts
  methods := (Keyed.lookupLast "m" ls).getD f.methods
  events := (Keyed.lookupLast "e" ls).getD f.events

theorem lookupLast_cons (l : String × List String) (ls : List (String × List String)) (tag : String)
    (values : List String) :
    (Keyed.lookupLast tag (l :: ls)).getD values =
      (Keyed.lookupLast tag ls).getD (if l.1 = tag then l.2 else values) := by
  rw [Keyed.lookupLast_cons]
  cases Keyed.lookupLast tag ls with
  | some found => rfl
  | none => by_cases h : l.1 = tag <;> simp [h, @eq_comm _ tag]

/-- Reading one member more. -/
theorem member_reading (f : TopicFilter) (l : String × List String) :
    ∃ g, f.member (jsonMember l) = .ok g ∧ ∀ ls, g.reading ls = f.reading (l :: ls) := by
  obtain ⟨tag, values⟩ := l
  rw [member, jsonMember, asStrings_array]
  simp only [reading, lookupLast_cons]
  unfold withList?
  split <;> exact ⟨_, rfl, fun ls => by simp_all⟩

theorem foldlM_member (f : TopicFilter) (ls : List (String × List String)) :
    (ls.map jsonMember).foldlM member f = .ok (f.reading ls) := by
  induction ls generalizing f with
  | nil => rfl
  | cons l ls ih =>
    obtain ⟨g, hg, hread⟩ := member_reading f l
    rw [List.map_cons, List.foldlM_cons, hg, ← hread]
    exact ih g

/-! ## Writing and reading -/

variable (f : TopicFilter)

theorem canonicalMembers_members : Json.CanonicalMembers f.members := by
  refine Json.canonicalMembers_iff.mpr fun p hp => ?_
  obtain ⟨l, -, rfl⟩ := List.mem_map.mp hp
  refine Json.canonicalItems_iff.mpr fun v hv => ?_
  obtain ⟨s, -, rfl⟩ := List.mem_map.mp hv
  trivial

theorem canonical_toJson : f.toJson.canonical = f.toJson :=
  Json.canonical_of_canonical (Json.canonical_object f.canonicalMembers_members)

/-- A filter is an object of lists of strings. -/
theorem depth_toJson : f.toJson.depth ≤ 2 := by
  refine Nat.succ_le_succ (Json.depthMembers_le_iff.mpr fun p hp => ?_)
  obtain ⟨l, -, rfl⟩ := List.mem_map.mp (Keyed.mem_of_mem_ofList hp)
  refine Nat.succ_le_succ (Json.depthItems_le_iff.mpr fun v hv => ?_)
  obtain ⟨s, -, rfl⟩ := List.mem_map.mp hv
  exact Nat.le_refl 0

theorem plain_toJson : f.toJson.Plain := by
  refine Json.plain_object.mpr ⟨fun hfirst => ?_, fun p hp => ?_⟩
  · obtain ⟨p, hp, hkey⟩ := List.mem_map.mp (List.mem_of_head? hfirst)
    obtain ⟨l, hl, rfl⟩ := List.mem_map.mp (Keyed.mem_of_mem_ofList hp)
    have htags : ∀ l ∈ f.lists, l.1 ≠ Json.numberKey := by simp [lists, Json.numberKey]
    exact htags l (List.mem_of_mem_filter hl) hkey
  · obtain ⟨l, -, rfl⟩ := List.mem_map.mp (Keyed.mem_of_mem_ofList hp)
    refine Json.plain_array.mpr fun v hv => ?_
    obtain ⟨s, -, rfl⟩ := List.mem_map.mp hv
    exact Json.plain_string s

/-- A constraint is a list that is not empty. -/
theorem lookupLast_constraint (tag : String) :
    Keyed.lookupLast tag f.constraints = (f.lists.lookup tag).filter fun values => !values.isEmpty := by
  have htags : f.lists.map Prod.fst = ["o", "p", "n", "g", "s", "m", "e"] := rfl
  have hd : (f.lists.map Prod.fst).Nodup := by rw [htags]; decide
  have hd' : (f.constraints.map Prod.fst).Nodup := hd.sublist (List.filter_sublist.map _)
  rw [Keyed.lookupLast, lookup_reverse hd', constraints, lookup_filter hd]

/-- The list that a filter has under a tag, also if it is left out for being empty. -/
theorem lookupLast_constraints (tag : String) :
    (Keyed.lookupLast tag f.constraints).getD [] = (f.lists.lookup tag).getD [] := by
  rw [lookupLast_constraint]
  cases f.lists.lookup tag with
  | none => rfl
  | some values => cases values <;> rfl

/-- A filter is what its constraints make. -/
theorem reading_constraints : empty.reading f.constraints = f := by
  simp only [reading, empty, lookupLast_constraints]
  rfl

theorem ofJson_toJson : ofJson f.toJson = .ok f := by
  have hsorted : Keyed.ofList f.members = (Keyed.ofList f.constraints).map jsonMember :=
    Keyed.ofList_map (fun values : List String => Json.array (values.map .string)) f.constraints
  -- The members come sorted, and each tag occurs once, so their order does not matter.
  have hread : empty.reading (Keyed.ofList f.constraints) = empty.reading f.constraints := by
    simp only [reading, Keyed.lookupLast_ofList]
  rw [ofJson, canonical_toJson, toJson, hsorted]
  refine (foldlM_member empty _).trans ?_
  rw [hread, reading_constraints]

end MessageBus.TopicFilter
