import MessageBus.Proofs.Text.Parting
import MessageBus.Proofs.Topic.Filter
/-!
# Keys of filters

`key_identifies`: filters without commas and semicolons in their values have the same key just if they are
the same. A segment tells its tag by the first colon, its values by the commas and its end by the first
semicolon (`segment_append_inj`), so the segments of a key can be told apart one after the other. With a
comma or a semicolon in a value they cannot.
-/
namespace MessageBus.TopicFilter
set_option autoImplicit false

/-- No value has the character in it. -/
def Avoids (f : TopicFilter) (c : Char) : Prop := ∀ l ∈ f.lists, ∀ v ∈ l.2, c ∉ v.toList

instance (f : TopicFilter) (c : Char) : Decidable (f.Avoids c) :=
  inferInstanceAs (Decidable (∀ l ∈ f.lists, ∀ v ∈ l.2, c ∉ v.toList))

/-! ## Segments -/

/-- A tagged list whose segment can be read. -/
structure Plain (l : String × List String) : Prop where
  tag : ':' ∉ l.1.toList
  filled : l.2 ≠ []
  comma : ∀ v ∈ l.2, ',' ∉ v.toList
  semicolon : ∀ v ∈ l.2, ';' ∉ v.toList

section Segments
variable {l l' : String × List String} {rest rest' : List Char}

theorem Plain.not_mem_values (h : Plain l) : ';' ∉ [','].intercalate (l.2.map String.toList) := by
  intro hmem
  rcases mem_intercalate hmem with heq | ⟨p, hp, hmem⟩
  · exact absurd heq (by decide)
  · obtain ⟨v, hv, rfl⟩ := List.mem_map.mp hp
    exact h.semicolon v hv hmem

theorem segment_append (l : String × List String) (rest : List Char) : segment l.1 l.2 ++ rest =
    l.1.toList ++ ':' :: ([','].intercalate (l.2.map String.toList) ++ ';' :: rest) := by
  simp [segment]

/-- A segment tells its tag, its values and where it ends. -/
theorem segment_append_inj (h : Plain l) (h' : Plain l')
    (heq : segment l.1 l.2 ++ rest = segment l'.1 l'.2 ++ rest') : l = l' ∧ rest = rest' := by
  rw [segment_append, segment_append] at heq
  obtain ⟨htag, hbody⟩ := append_first_mark_inj h.tag h'.tag heq
  obtain ⟨hvalues, hrest⟩ := append_first_mark_inj h.not_mem_values h'.not_mem_values hbody
  have hlists : l.2.map String.toList = l'.2.map String.toList := by
    refine intercalate_inj (by simpa using h.filled) (by simpa using h'.filled) ?_ ?_ hvalues
    · exact List.forall_mem_map.mpr h.comma
    · exact List.forall_mem_map.mpr h'.comma
  have hsame : l.2 = l'.2 := (List.map_inj_right fun _ _ => String.toList_inj.mp).mp hlists
  exact ⟨Prod.ext (String.toList_inj.mp htag) hsame, hrest⟩

theorem segments_inj {ls ls' : List (String × List String)} (h : ∀ l ∈ ls, Plain l) (h' : ∀ l ∈ ls', Plain l)
    (heq : (ls.flatMap fun l => segment l.1 l.2) = ls'.flatMap fun l => segment l.1 l.2) : ls = ls' := by
  induction ls generalizing ls' with
  | nil =>
    cases ls' with
    | nil => rfl
    | cons l' ls' => simp [segment] at heq
  | cons l ls ih =>
    cases ls' with
    | nil => simp [segment] at heq
    | cons l' ls' =>
      rw [List.flatMap_cons, List.flatMap_cons] at heq
      have hl := h l List.mem_cons_self
      have hl' := h' l' List.mem_cons_self
      obtain ⟨hfirst, hrest⟩ := segment_append_inj hl hl' heq
      have hmore := ih (fun m hm => h m (List.mem_cons_of_mem _ hm))
        (fun m hm => h' m (List.mem_cons_of_mem _ hm)) hrest
      rw [hfirst, hmore]

end Segments

/-! ## Keys -/

section Keys
variable {f g : TopicFilter}

theorem constraints_plain (hcomma : f.Avoids ',') (hsemicolon : f.Avoids ';') :
    ∀ l ∈ f.constraints, Plain l := by
  intro l hl
  obtain ⟨hl, hfilled⟩ := List.mem_filter.mp hl
  have htags : ∀ tag ∈ f.lists.map Prod.fst, ':' ∉ tag.toList := by
    have htags : f.lists.map Prod.fst = ["o", "p", "n", "g", "s", "m", "e"] := rfl
    rw [htags]
    decide
  exact ⟨htags l.1 (List.mem_map_of_mem hl), by simpa using hfilled, hcomma l hl, hsemicolon l hl⟩

/-- The lists that are not empty, with their tags, are all there is to a filter. -/
theorem eq_of_constraints (h : f.constraints = g.constraints) : f = g := by
  rw [← reading_constraints f, h, reading_constraints]

theorem eq_of_key (hf : f.Avoids ',') (hf' : f.Avoids ';') (hg : g.Avoids ',') (hg' : g.Avoids ';')
    (h : f.key = g.key) : f = g := by
  have hsegments := String.ofList_injective h
  exact eq_of_constraints (segments_inj (constraints_plain hf hf') (constraints_plain hg hg') hsegments)

end Keys

/-- Where no value has a comma or a semicolon in it, filters have the same key just if they are the same, list
by list and in order. Neither mark can be allowed: with commas, and with semicolons, there are two filters
with the same key and a topic that one of them accepts and the other does not. -/
theorem key_identifies :
    (∀ f g : TopicFilter, f.Avoids ',' → f.Avoids ';' → g.Avoids ',' → g.Avoids ';' →
      (f.key = g.key ↔ f = g)) ∧
    (∃ f g : TopicFilter, f.Avoids ';' ∧ g.Avoids ';' ∧ f.key = g.key ∧ ∃ t, f.accepts t ≠ g.accepts t) ∧
    ∃ f g : TopicFilter, f.Avoids ',' ∧ g.Avoids ',' ∧ f.key = g.key ∧ ∃ t, f.accepts t ≠ g.accepts t := by
  refine ⟨fun f g hf hf' hg hg' => ⟨eq_of_key hf hf' hg hg', congrArg key⟩, ?_, ?_⟩
  · -- One name with a comma in it, or two names.
    refine ⟨{ empty with organizations := ["a,b"] }, { empty with organizations := ["a", "b"] }, ?_⟩
    exact ⟨by decide, by decide, by decide, ⟨"a", "", "", "", "", ""⟩, by decide⟩
  · -- A value that goes on as a segment of its own.
    refine ⟨{ empty with organizations := ["a;p:b"] },
      { empty with organizations := ["a"], projects := ["b"] }, ?_⟩
    exact ⟨by decide, by decide, by decide, ⟨"a", "b", "", "", "", ""⟩, by decide⟩

/-- A list that holds nothing but the empty text is told from an empty list, and a colon in a value from one
behind a tag. -/
theorem key_identifies_blank :
    let f : TopicFilter := ⟨[""], ["n:1", ""], [], [], [], ["a"], []⟩
    let g : TopicFilter := ⟨[], ["n:1", ""], [], [], [], [], ["a"]⟩
    f.Avoids ',' ∧ f.Avoids ';' ∧ g.Avoids ',' ∧ g.Avoids ';' ∧ f.key = "o:;p:n:1,;m:a;" ∧ f.key ≠ g.key := by
  intro f g
  have hf : f.Avoids ',' ∧ f.Avoids ';' := by decide
  have hg : g.Avoids ',' ∧ g.Avoids ';' := by decide
  have hiff := key_identifies.1 f g hf.1 hf.2 hg.1 hg.2
  have hne : f ≠ g := by decide
  exact ⟨hf.1, hf.2, hg.1, hg.2, by decide, fun hkey => hne (hiff.mp hkey)⟩

end MessageBus.TopicFilter
