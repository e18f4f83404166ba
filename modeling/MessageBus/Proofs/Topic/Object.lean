import MessageBus.Proofs.Topic.Filter
/-!
# Which objects are filters

`json_form`: a JSON value is read as a filter exactly if it is an object that has lists of strings under
the tags, whatever else it has, and writing that filter gives back these lists but the empty ones. Each
member is passed over, taken or refused (`member_cases`), and a run over the members ends accordingly.
-/
namespace MessageBus
set_option autoImplicit false

/-- The errors about a JSON value, against those about a text. -/
def TopicError.isJson : TopicError → Bool
  | .topicNotObject | .filterNotObject | .mismatch _ => true
  | .tooShort _ | .tooLong _ => false

namespace TopicFilter

/-- The tags of a filter's lists. -/
def tags : List String := ["o", "p", "n", "g", "s", "m", "e"]

/-- A list of strings, be it empty. -/
def Strings (v : Json) : Prop := ∃ values : List String, v = .array (values.map .string)

/-- Under a tag stands a list of strings or nothing. -/
def Tagged (members : List (String × Json)) : Prop :=
  ∀ tag ∈ tags, ∀ v, members.lookup tag = some v → Strings v

/-- What a filter keeps of an object: the lists under tags that are not empty. -/
def kept (members : List (String × Json)) : List (String × Json) :=
  members.filter fun m => m.1 ∈ tags ∧ m.2 ≠ .array []

/-! ## One member -/

theorem withList?_isNone_iff (f : TopicFilter) (tag : String) (values : List String) :
    (f.withList? tag values).isNone = true ↔ tag ∉ tags := by
  unfold withList?
  split <;> simp_all [tags]

theorem eq_of_mapM_asString {items : List Json} {values : List String}
    (h : items.mapM Json.asString = .ok values) : items = values.map .string := by
  induction items generalizing values with
  | nil =>
    cases h
    rfl
  | cons item items ih =>
    rw [List.mapM_cons] at h
    cases item with
    | string s =>
      cases hrest : items.mapM Json.asString with
      | error e =>
        rw [hrest] at h
        cases h
      | ok rest =>
        rw [hrest] at h
        cases h
        rw [List.map_cons, ih hrest]
    | null | bool _ | number _ | array _ | object _ => cases h

theorem asStrings_eq_ok_iff {v : Json} {values : List String} :
    v.asStrings = .ok values ↔ v = .array (values.map .string) := by
  constructor
  · intro h
    cases v with
    | array items => exact congrArg Json.array (eq_of_mapM_asString h)
    | null | bool _ | number _ | string _ | object _ => cases h
  · rintro rfl
    exact asStrings_array values

/-- A member under no tag is passed over; under a tag, strings are taken, and all else is refused. -/
theorem member_cases (f : TopicFilter) (m : String × Json) :
    m.1 ∉ tags ∧ f.member m = .ok f ∨
    m.1 ∈ tags ∧ (Strings m.2 ∧ (∃ g, f.member m = .ok g) ∨
      ∃ fault, m.2.asStrings = .error fault ∧ f.member m = .error (.mismatch fault)) := by
  by_cases htag : m.1 ∈ tags
  · refine .inr ⟨htag, ?_⟩
    have hlist : ¬ (f.withList? m.1 []).isNone = true := fun h =>
      (withList?_isNone_iff f m.1 []).mp h htag
    rw [member, if_neg hlist]
    cases hstrings : m.2.asStrings with
    | ok values => exact .inl ⟨⟨values, asStrings_eq_ok_iff.mp hstrings⟩, _, rfl⟩
    | error fault => exact .inr ⟨fault, rfl, rfl⟩
  · exact .inl ⟨htag, if_pos ((withList?_isNone_iff f m.1 []).mpr htag)⟩

/-! ## All members -/

section Members
variable {f g : TopicFilter} {members : List (String × Json)}

theorem strings_of_foldlM (h : members.foldlM member f = .ok g) :
    ∀ m ∈ members, m.1 ∈ tags → Strings m.2 := by
  induction members generalizing f with
  | nil => exact List.forall_mem_nil _
  | cons m members ih =>
    rw [List.foldlM_cons] at h
    obtain ⟨hno, hm⟩ | ⟨htag, ⟨hstrings, g', hm⟩ | ⟨fault, -, hm⟩⟩ := f.member_cases m
    · rw [hm] at h
      exact List.forall_mem_cons.mpr ⟨fun htag => absurd htag hno, ih h⟩
    · rw [hm] at h
      exact List.forall_mem_cons.mpr ⟨fun _ => hstrings, ih h⟩
    · rw [hm] at h
      cases h

theorem mismatch_of_foldlM {e : TopicError} (h : members.foldlM member f = .error e) :
    ∃ m ∈ members, m.1 ∈ tags ∧ ∃ fault, m.2.asStrings = .error fault ∧ e = .mismatch fault := by
  induction members generalizing f with
  | nil => cases h
  | cons m members ih =>
    rw [List.foldlM_cons] at h
    obtain ⟨-, hm⟩ | ⟨htag, ⟨-, g', hm⟩ | ⟨fault, hfault, hm⟩⟩ := f.member_cases m
    · rw [hm] at h
      obtain ⟨m', hm', hrest⟩ := ih h
      exact ⟨m', List.mem_cons_of_mem m hm', hrest⟩
    · rw [hm] at h
      obtain ⟨m', hm', hrest⟩ := ih h
      exact ⟨m', List.mem_cons_of_mem m hm', hrest⟩
    · rw [hm] at h
      cases h
      exact ⟨m, List.mem_cons_self, htag, fault, hfault, rfl⟩

/-- Members under no tag do not count. -/
theorem foldlM_tagged (f : TopicFilter) (members : List (String × Json)) :
    members.foldlM member f = (members.filter fun m => m.1 ∈ tags).foldlM member f := by
  induction members generalizing f with
  | nil => rfl
  | cons m members ih =>
    by_cases htag : m.1 ∈ tags
    · rw [List.filter_cons_of_pos (by simpa using htag), List.foldlM_cons, List.foldlM_cons]
      exact congrArg _ (funext ih)
    · have hm : f.member m = .ok f := if_pos ((withList?_isNone_iff f m.1 []).mpr htag)
      rw [List.filter_cons_of_neg (by simpa using htag), List.foldlM_cons, hm]
      exact ih f

theorem exists_lists (h : ∀ m ∈ members, Strings m.2) :
    ∃ ls : List (String × List String), members = ls.map jsonMember := by
  induction members with
  | nil => exact ⟨[], rfl⟩
  | cons m members ih =>
    obtain ⟨⟨values, hvalues⟩, hrest⟩ := List.forall_mem_cons.mp h
    obtain ⟨ls, rfl⟩ := ih hrest
    exact ⟨(m.1, values) :: ls, by rw [List.map_cons, jsonMember, ← hvalues]⟩

end Members

/-! ## What is kept -/

/-- A filter that is read from lists has, under each tag, the list there. -/
theorem lookup_lists_reading (ls : List (String × List String)) (tag : String) :
    (empty.reading ls).lists.lookup tag =
      if tag ∈ tags then some ((Keyed.lookupLast tag ls).getD []) else none := by
  by_cases htag : tag ∈ tags
  · rw [if_pos htag]
    simp only [tags, List.mem_cons, List.not_mem_nil, or_false] at htag
    rcases htag with rfl | rfl | rfl | rfl | rfl | rfl | rfl <;> rfl
  · rw [if_neg htag]
    exact lookup_none_of_fresh htag

/-- Writing what was read from lists in key order gives those that are not empty. -/
theorem ofList_members_reading {ls : List (String × List String)} (hsorted : Keyed.Ascending ls)
    (htags : ∀ l ∈ ls, l.1 ∈ tags) :
    Keyed.ofList (empty.reading ls).members = (ls.map jsonMember).filter fun m => m.2 ≠ .array [] := by
  have hmembers : Keyed.Ascending (ls.map jsonMember) := List.pairwise_map.mpr hsorted
  refine (Keyed.ascending_ofList _).eq_of_lookup (hmembers.filter _) fun key => ?_
  have hwritten : Keyed.lookupLast key (empty.reading ls).members =
      (Keyed.lookupLast key (empty.reading ls).constraints).map fun values =>
        Json.array (values.map .string) :=
    Keyed.lookupLast_map (fun values : List String => Json.array (values.map .string)) _ key
  have hfound : (ls.map jsonMember).lookup key =
      (ls.lookup key).map fun values => Json.array (values.map .string) :=
    Keyed.lookup_map (fun values : List String => Json.array (values.map .string)) ls key
  rw [Keyed.lookup_ofList, hwritten, lookupLast_constraint, lookup_lists_reading,
    lookup_filter hmembers.nodup, hfound, Keyed.lookupLast, lookup_reverse hsorted.nodup]
  by_cases htag : key ∈ tags
  · rw [if_pos htag]
    cases ls.lookup key with
    | none => rfl
    | some values => cases values <;> rfl
  · have hnone : ls.lookup key = none := lookup_none_of_fresh fun hkey => by
      obtain ⟨l, hl, rfl⟩ := List.mem_map.mp hkey
      exact htag (htags l hl)
    rw [if_neg htag, hnone]
    rfl

theorem toJson_of_foldlM {members : List (String × Json)} {f : TopicFilter}
    (hsorted : Keyed.Ascending members) (h : members.foldlM member empty = .ok f) :
    f.toJson = .object (kept members) := by
  have hstrings : ∀ m ∈ members.filter fun m => m.1 ∈ tags, Strings m.2 := fun m hm =>
    strings_of_foldlM h m (List.mem_filter.mp hm).1 (of_decide_eq_true (List.mem_filter.mp hm).2)
  obtain ⟨ls, hls⟩ := exists_lists hstrings
  have hmembers : (ls.map jsonMember).Pairwise fun p q => p.1 < q.1 := hls ▸ hsorted.filter _
  have hascending : Keyed.Ascending ls := hmembers.of_map jsonMember fun _ _ hlt => hlt
  have htags : ∀ l ∈ ls, l.1 ∈ tags := fun l hl => by
    have hm : jsonMember l ∈ members.filter fun m => m.1 ∈ tags :=
      hls ▸ List.mem_map.mpr ⟨l, hl, rfl⟩
    exact of_decide_eq_true (List.mem_filter.mp hm).2
  rw [foldlM_tagged, hls, foldlM_member] at h
  cases h
  rw [toJson, ofList_members_reading hascending htags, ← hls,
    List.filter_filter, kept]
  congr 2
  funext m
  simp [Bool.and_comm]

/-! ## Reading and writing -/

section Reading
variable {v : Json} {members : List (String × Json)} {f : TopicFilter}

theorem ofJson_of_object (h : v.canonical = .object members) :
    ofJson v = members.foldlM member empty := by
  rw [ofJson, h]

theorem ascending_of_object (h : v.canonical = .object members) : Keyed.Ascending members := by
  have hv := Json.canonical_canonical v
  rw [h] at hv
  exact hv.1

theorem exists_object (h : ofJson v = .ok f) : ∃ members, v.canonical = .object members := by
  unfold ofJson at h
  split at h
  · exact ⟨_, by assumption⟩
  · cases h

theorem ofJson_ok_iff :
    (∃ f, ofJson v = .ok f) ↔ ∃ members, v.canonical = .object members ∧ Tagged members := by
  constructor
  · rintro ⟨f, hf⟩
    obtain ⟨members, hmembers⟩ := exists_object hf
    rw [ofJson_of_object hmembers] at hf
    exact ⟨members, hmembers, fun tag htag w hw => strings_of_foldlM hf _ (mem_of_lookup hw) htag⟩
  · rintro ⟨members, hmembers, htagged⟩
    rw [ofJson_of_object hmembers]
    cases h : members.foldlM member empty with
    | ok f => exact ⟨f, rfl⟩
    | error e =>
      -- A refused member stands under a tag and is no list of strings.
      obtain ⟨m, hm, htag, fault, hfault, -⟩ := mismatch_of_foldlM h
      have hlookup := lookup_of_mem (ascending_of_object hmembers).nodup hm
      obtain ⟨values, hvalues⟩ := htagged m.1 htag m.2 hlookup
      rw [hvalues, asStrings_array] at hfault
      cases hfault

end Reading

/-- Exactly the objects with lists of strings under the tags are filters, and what such an object has under
tags, but for empty lists, is what its filter writes; a filter reads itself back. Every refusal is for the
JSON value: it is no object, or a list under a tag is not one of strings. -/
theorem json_form :
    (∀ v, (∃ f, ofJson v = .ok f) ↔ ∃ members, v.canonical = .object members ∧ Tagged members) ∧
    (∀ v f, ofJson v = .ok f →
      ∃ members, v.canonical = .object members ∧ f.toJson = .object (kept members)) ∧
    (∀ f : TopicFilter, ofJson f.toJson = .ok f) ∧
    ∀ v e, ofJson v = .error e → e.isJson = true ∧
      (e = .filterNotObject ∧ (∀ members, v.canonical ≠ .object members) ∨
        ∃ members, v.canonical = .object members ∧ ∃ tag ∈ tags, ∃ w fault,
          members.lookup tag = some w ∧ w.asStrings = .error fault ∧ e = .mismatch fault) := by
  refine ⟨fun v => ofJson_ok_iff, fun v f h => ?_, ofJson_toJson, fun v e h => ?_⟩
  · obtain ⟨members, hmembers⟩ := exists_object h
    rw [ofJson_of_object hmembers] at h
    exact ⟨members, hmembers, toJson_of_foldlM (ascending_of_object hmembers) h⟩
  · unfold ofJson at h
    split at h
    · next members hmembers =>
      obtain ⟨m, hm, htag, fault, hfault, rfl⟩ := mismatch_of_foldlM h
      have hlookup := lookup_of_mem (ascending_of_object hmembers).nodup hm
      exact ⟨rfl, .inr ⟨members, hmembers, m.1, htag, m.2, fault, hlookup, hfault, rfl⟩⟩
    · next hno =>
      cases h
      exact ⟨rfl, .inl ⟨rfl, hno⟩⟩

/-- An object that has an empty list, a key that is no tag and a value twice. -/
theorem json_form_mixed :
    ofJson (.object [("x", .null), ("p", .array [.string "core", .string "", .string "core"]), ("o", .array [])]) =
      .ok { empty with projects := ["core", "", "core"] } ∧
    (∃ members, (Json.object [("x", .null), ("p", .array [.string "core", .string "", .string "core"]),
        ("o", .array [])]).canonical = .object members ∧
      toJson { empty with projects := ["core", "", "core"] } = .object (kept members)) ∧
    ofJson (.object [("p", .array []), ("e", .string "Transfer")]) =
      .error (.mismatch ⟨.string "Transfer", .sequence⟩) ∧
    (TopicError.mismatch ⟨.string "Transfer", .sequence⟩).isJson = true := by
  have hread : ofJson (.object [("x", .null), ("p", .array [.string "core", .string "", .string "core"]),
      ("o", .array [])]) = .ok { empty with projects := ["core", "", "core"] } := rfl
  have hrefused : ofJson (.object [("p", .array []), ("e", .string "Transfer")]) =
      .error (.mismatch ⟨.string "Transfer", .sequence⟩) := rfl
  exact ⟨hread, json_form.2.1 _ _ hread, hrefused, (json_form.2.2.2 _ _ hrefused).1⟩

end TopicFilter
end MessageBus
