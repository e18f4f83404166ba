/-!
# Texts parted at a mark

A text is parted in one way at the first occurrence of a mark, and in one way at the last. Cut at every
occurrence it falls into one part more than it has marks (`length_splitOn`), none of which has the mark
(`not_mem_of_mem_splitOn`), and it is the only text with these parts.
-/
namespace MessageBus
set_option autoImplicit false

/-! ## One mark -/

section Mark
variable {α : Type} {mark : α} {front front' back back' : List α}

/-- A text is parted in one way at the last occurrence of a mark. -/
theorem append_mark_inj (hb : mark ∉ back) (hb' : mark ∉ back')
    (h : front ++ mark :: back = front' ++ mark :: back') : front = front' ∧ back = back' := by
  rcases List.append_eq_append_iff.mp h with ⟨rest, rfl, hrest⟩ | ⟨rest, rfl, hrest⟩
  · cases rest with
    | nil =>
      cases hrest
      exact ⟨(List.append_nil _).symm, rfl⟩
    | cons a rest =>
      cases hrest
      exact absurd (List.mem_append_right _ List.mem_cons_self) hb
  · cases rest with
    | nil =>
      cases hrest
      exact ⟨List.append_nil _, rfl⟩
    | cons a rest =>
      cases hrest
      exact absurd (List.mem_append_right _ List.mem_cons_self) hb'

/-- A text is parted in one way at the first occurrence of a mark. -/
theorem append_first_mark_inj (hf : mark ∉ front) (hf' : mark ∉ front')
    (h : front ++ mark :: back = front' ++ mark :: back') : front = front' ∧ back = back' := by
  have hreversed : back.reverse ++ mark :: front.reverse = back'.reverse ++ mark :: front'.reverse := by
    simpa using congrArg List.reverse h
  have hboth := append_mark_inj (by simpa using hf) (by simpa using hf') hreversed
  exact ⟨List.reverse_inj.mp hboth.2, List.reverse_inj.mp hboth.1⟩

end Mark

/-! ## Every mark -/

section Marks
variable {α : Type} {mark : α}

theorem mem_intercalate {a : α} {parts : List (List α)} (h : a ∈ [mark].intercalate parts) :
    a = mark ∨ ∃ p ∈ parts, a ∈ p := by
  induction parts with
  | nil => simp at h
  | cons p parts ih =>
    cases parts with
    | nil => exact .inr ⟨p, List.mem_cons_self, by simpa using h⟩
    | cons q parts =>
      rw [List.intercalate_cons_cons, List.append_assoc, List.mem_append] at h
      rcases h with h | h
      · exact .inr ⟨p, List.mem_cons_self, h⟩
      · rcases List.mem_cons.mp h with h | h
        · exact .inl h
        · rcases ih h with h | ⟨q', hq', ha⟩
          · exact .inl h
          · exact .inr ⟨q', List.mem_cons_of_mem _ hq', ha⟩

variable [DecidableEq α]

theorem splitOn_cons (mark a : α) (text : List α) :
    (a :: text).splitOn mark =
      if a = mark then [] :: text.splitOn mark else (text.splitOn mark).modifyHead (a :: ·) := by
  simp only [List.splitOn_eq_splitOnP, List.splitOnP_cons_eq_if_modifyHead, beq_iff_eq]

theorem not_mem_of_mem_splitOn {text part : List α} (h : part ∈ text.splitOn mark) : mark ∉ part := by
  induction text generalizing part with
  | nil =>
    have hpart : part = [] := by simpa using h
    simp [hpart]
  | cons a text ih =>
    obtain ⟨first, more, hparts⟩ := List.exists_cons_of_ne_nil (List.splitOn_ne_nil mark text)
    rw [hparts] at ih
    rw [splitOn_cons, hparts] at h
    split at h
    · rcases List.mem_cons.mp h with rfl | h
      · exact List.not_mem_nil
      · exact ih h
    · next hne =>
      rw [List.modifyHead_cons] at h
      rcases List.mem_cons.mp h with rfl | h
      · have hfirst := ih List.mem_cons_self
        simpa [hfirst, @eq_comm _ mark] using hne
      · exact ih (List.mem_cons_of_mem _ h)

theorem length_splitOn (text : List α) : (text.splitOn mark).length = text.count mark + 1 := by
  induction text with
  | nil => simp
  | cons a text ih =>
    rw [splitOn_cons]
    split
    · next heq => rw [heq, List.count_cons_self, List.length_cons, ih]
    · next hne => rw [List.count_cons_of_ne hne, List.length_modifyHead, ih]

/-- Parts without the mark are told from the text that they make. -/
theorem intercalate_inj {parts parts' : List (List α)} (hne : parts ≠ []) (hne' : parts' ≠ [])
    (hfree : ∀ p ∈ parts, mark ∉ p) (hfree' : ∀ p ∈ parts', mark ∉ p)
    (h : [mark].intercalate parts = [mark].intercalate parts') : parts = parts' := by
  have hsplit := congrArg (List.splitOn mark) h
  rwa [List.splitOn_intercalate mark hfree hne, List.splitOn_intercalate mark hfree' hne'] at hsplit

end Marks
end MessageBus
