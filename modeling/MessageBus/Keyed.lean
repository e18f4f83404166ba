/-!
# Lists ordered by key

Pairs in strictly ascending key order. Keys are compared by code points, which is the order of their
UTF-8 bytes. `insert` keeps the order and overwrites, so a list built by insertions is determined by
the last value of each key.
-/
namespace MessageBus.Keyed
set_option autoImplicit false
universe u
variable {α : Type u}

/-- Keys strictly ascend from left to right. -/
def Ascending (pairs : List (String × α)) : Prop := pairs.Pairwise (fun p q => p.1 < q.1)

instance (pairs : List (String × α)) : Decidable (Ascending pairs) :=
  inferInstanceAs (Decidable (pairs.Pairwise _))

/-- Puts `value` under `key`, in order, in place of any value there. -/
def insert (key : String) (value : α) : List (String × α) → List (String × α)
  | [] => [(key, value)]
  | (k, v) :: rest =>
    if key < k then (key, value) :: (k, v) :: rest
    else if key = k then (key, value) :: rest
    else (k, v) :: insert key value rest

/-- Inserts pairs from left to right; of equal keys the last wins. -/
def ofList (pairs : List (String × α)) : List (String × α) :=
  pairs.foldl (fun sorted p => insert p.1 p.2 sorted) []

/-- The value of the last pair with this key. -/
def lookupLast (key : String) (pairs : List (String × α)) : Option α :=
  pairs.reverse.lookup key

/-! ## Order -/

theorem mem_insert {key : String} {value : α} {pairs : List (String × α)} {p : String × α}
    (h : p ∈ insert key value pairs) : p = (key, value) ∨ p ∈ pairs := by
  induction pairs with
  | nil => simpa [insert] using h
  | cons q rest ih =>
    obtain ⟨k, v⟩ := q
    rw [insert] at h
    split at h
    · simpa using h
    · split at h
      · rcases List.mem_cons.1 h with h | h
        · exact .inl h
        · exact .inr (List.mem_cons_of_mem _ h)
      · rcases List.mem_cons.1 h with h | h
        · exact .inr (h ▸ List.mem_cons_self)
        · rcases ih h with h | h
          · exact .inl h
          · exact .inr (List.mem_cons_of_mem _ h)

theorem lt_of_not_lt_of_ne {a b : String} (h : ¬ a < b) (hne : a ≠ b) : b < a := by
  rcases Decidable.em (b < a) with h' | h'
  · exact h'
  · exact absurd (String.le_antisymm (String.not_lt.1 h') (String.not_lt.1 h)) hne

theorem ascending_insert (key : String) (value : α) {pairs : List (String × α)}
    (h : Ascending pairs) : Ascending (insert key value pairs) := by
  induction pairs with
  | nil => simp [insert, Ascending]
  | cons q rest ih =>
    obtain ⟨k, v⟩ := q
    have hk := (List.pairwise_cons.1 h).1
    have hrest := (List.pairwise_cons.1 h).2
    rw [insert]
    split
    next hlt =>
      refine List.pairwise_cons.2 ⟨fun p hp => ?_, h⟩
      rcases List.mem_cons.1 hp with rfl | hp
      · exact hlt
      · exact String.lt_trans hlt (hk p hp)
    next hnlt =>
      split
      next heq => exact List.pairwise_cons.2 ⟨fun p hp => heq ▸ hk p hp, hrest⟩
      next hne =>
        refine List.pairwise_cons.2 ⟨fun p hp => ?_, ih hrest⟩
        rcases mem_insert hp with rfl | hp
        · exact lt_of_not_lt_of_ne hnlt hne
        · exact hk p hp

theorem ascending_filter (keep : String × α → Bool) {pairs : List (String × α)}
    (h : Ascending pairs) : Ascending (pairs.filter keep) := h.filter _

theorem ascending_foldl_insert (more : List (String × α)) {pairs : List (String × α)}
    (h : Ascending pairs) :
    Ascending (more.foldl (fun sorted p => insert p.1 p.2 sorted) pairs) := by
  induction more generalizing pairs with
  | nil => exact h
  | cons p more ih => exact ih (ascending_insert p.1 p.2 h)

theorem ascending_ofList (pairs : List (String × α)) : Ascending (ofList pairs) :=
  ascending_foldl_insert pairs List.Pairwise.nil

theorem mem_foldl_insert {more pairs : List (String × α)} {p : String × α}
    (h : p ∈ more.foldl (fun sorted q => insert q.1 q.2 sorted) pairs) : p ∈ pairs ∨ p ∈ more := by
  induction more generalizing pairs with
  | nil => exact .inl h
  | cons q more ih =>
    rcases ih h with h | h
    · rcases mem_insert h with h | h
      · exact .inr (h ▸ List.mem_cons_self)
      · exact .inl h
    · exact .inr (List.mem_cons_of_mem _ h)

theorem mem_of_mem_ofList {pairs : List (String × α)} {p : String × α}
    (h : p ∈ ofList pairs) : p ∈ pairs :=
  (mem_foldl_insert h).resolve_left (List.not_mem_nil)

end MessageBus.Keyed
