import MessageBus.Params
import MessageBus.Pool
import MessageBus.Table
/-!
# Looking up

What is found in pairs, tables, parameters and pools after each of their operations. In pairs with distinct keys, as a
table has them, order does not matter, and whatever is in them is found.
-/
namespace MessageBus
set_option autoImplicit false
universe u v

/-! ## Pairs -/

section Pairs
variable {κ : Type u} {α : Type v} [DecidableEq κ] {pairs : List (κ × α)} {key : κ} {value : α}

theorem lookup_cons_ite (p : κ × α) (pairs : List (κ × α)) (key : κ) :
    (p :: pairs).lookup key = if key = p.1 then some p.2 else pairs.lookup key := by
  obtain ⟨k, v⟩ := p
  rw [List.lookup_cons]
  by_cases h : key = k
  · rw [if_pos h, beq_iff_eq.mpr h]
  · rw [if_neg h, beq_false_of_ne h]

theorem mem_of_lookup (h : pairs.lookup key = some value) : (key, value) ∈ pairs := by
  obtain ⟨before, after, rfl, -⟩ := List.lookup_eq_some_iff.mp h
  exact List.mem_append_right _ List.mem_cons_self

theorem lookup_none_of_fresh (h : key ∉ pairs.map Prod.fst) : pairs.lookup key = none := by
  refine List.lookup_eq_none_iff.mpr fun p hp => ?_
  have hne : key ≠ p.1 := fun e => h (List.mem_map.mpr ⟨p, hp, e.symm⟩)
  simpa using hne

theorem lookup_of_mem (hd : (pairs.map Prod.fst).Nodup) (h : (key, value) ∈ pairs) :
    pairs.lookup key = some value := by
  induction pairs with
  | nil => cases h
  | cons p rest ih =>
    rw [List.map_cons, List.nodup_cons] at hd
    rw [lookup_cons_ite]
    rcases List.mem_cons.mp h with rfl | h
    · exact if_pos rfl
    · have hne : key ≠ p.1 := fun e => hd.1 (List.mem_map.mpr ⟨_, h, e⟩)
      rw [if_neg hne, ih hd.2 h]

theorem lookup_reverse (hd : (pairs.map Prod.fst).Nodup) (key : κ) :
    pairs.reverse.lookup key = pairs.lookup key := by
  have hd' : (pairs.reverse.map Prod.fst).Nodup := by
    rw [List.map_reverse]
    exact List.pairwise_reverse.mpr (hd.imp Ne.symm)
  cases h : pairs.lookup key with
  | some value => exact lookup_of_mem hd' (List.mem_reverse.mpr (mem_of_lookup h))
  | none =>
    rw [List.lookup_eq_none_iff] at h ⊢
    exact fun p hp => h p (List.mem_reverse.mp hp)

theorem lookup_filter (hd : (pairs.map Prod.fst).Nodup) (keep : κ × α → Bool) (key : κ) :
    (pairs.filter keep).lookup key = (pairs.lookup key).filter fun value => keep (key, value) := by
  induction pairs with
  | nil => rfl
  | cons p rest ih =>
    obtain ⟨k, v⟩ := p
    rw [List.map_cons, List.nodup_cons] at hd
    rw [List.filter_cons, lookup_cons_ite]
    by_cases hk : key = k
    · subst hk
      -- Keys are distinct, so no other pair with the key shows when this one is dropped.
      have hrest : (rest.filter keep).lookup key = none := by
        rw [ih hd.2, lookup_none_of_fresh hd.1, Option.filter_none]
      rw [if_pos rfl]
      cases hkeep : keep (key, v) with
      | true => rw [if_pos rfl, lookup_cons_ite, if_pos rfl, Option.filter, if_pos hkeep]
      | false => rw [if_neg Bool.false_ne_true, hrest, Option.filter, if_neg (by simp [hkeep])]
    · rw [if_neg hk, ← ih hd.2]
      cases keep (k, v) with
      | true => rw [if_pos rfl, lookup_cons_ite, if_neg hk]
      | false => rw [if_neg Bool.false_ne_true]

/-- Pairs that are kept or not by their keys alone. -/
theorem lookup_filter_keys (keep : κ → Bool) (pairs : List (κ × α)) (key : κ) :
    (pairs.filter fun p => keep p.1).lookup key = if keep key then pairs.lookup key else none := by
  induction pairs with
  | nil => simp
  | cons p rest ih =>
    obtain ⟨k, v⟩ := p
    rw [List.filter_cons, lookup_cons_ite]
    by_cases hk : key = k
    · subst hk
      cases hkeep : keep key with
      | true => simp [lookup_cons_ite]
      | false => simp [hkeep, ih]
    · cases keep k with
      | true => simp [lookup_cons_ite, hk, ih]
      | false => simp [hk, ih]

end Pairs

/-! ## Pairs in key order -/

namespace Keyed
variable {α : Type u} {pairs : List (String × α)}

theorem Ascending.nodup (h : Ascending pairs) : (pairs.map Prod.fst).Nodup := by
  refine List.pairwise_map.mpr (h.imp fun {p q} hlt heq => ?_)
  rw [heq] at hlt
  exact String.lt_irrefl _ hlt

theorem lookup_insert (key : String) (value : α) (pairs : List (String × α)) (key' : String) :
    (insert key value pairs).lookup key' = if key' = key then some value else pairs.lookup key' := by
  induction pairs with
  | nil => rw [insert, lookup_cons_ite]
  | cons p rest ih =>
    obtain ⟨k, v⟩ := p
    rw [insert]
    split
    · rw [lookup_cons_ite]
    · split
      · next _ hk =>
        subst hk
        rw [lookup_cons_ite, lookup_cons_ite]
        split <;> rfl
      · next _ hk =>
        rw [lookup_cons_ite, lookup_cons_ite, ih]
        by_cases h : key' = k
        · have hne : key' ≠ key := fun e => hk (e.symm.trans h)
          simp only [if_pos h, if_neg hne]
        · simp only [if_neg h]

theorem lookupLast_cons (p : String × α) (pairs : List (String × α)) (key : String) :
    lookupLast key (p :: pairs) = (lookupLast key pairs).or (if key = p.1 then some p.2 else none) := by
  rw [lookupLast, lookupLast, List.reverse_cons, List.lookup_append, lookup_cons_ite, List.lookup_nil]

theorem lookup_foldl_insert (more pairs : List (String × α)) (key : String) :
    (more.foldl (fun sorted p => insert p.1 p.2 sorted) pairs).lookup key =
      (lookupLast key more).or (pairs.lookup key) := by
  induction more generalizing pairs with
  | nil => rfl
  | cons p more ih =>
    rw [List.foldl_cons, ih, lookup_insert, lookupLast_cons, Option.or_assoc]
    split <;> rfl

/-- Pairs in key order are told from what is found under each key. -/
theorem Ascending.eq_of_lookup {pairs' : List (String × α)} (h : Ascending pairs) (h' : Ascending pairs')
    (hlookup : ∀ key, pairs.lookup key = pairs'.lookup key) : pairs = pairs' := by
  have hmem : ∀ p : String × α, p ∈ pairs ↔ p ∈ pairs' := fun (key, value) =>
    ⟨fun hp => mem_of_lookup ((hlookup key).symm.trans (lookup_of_mem h.nodup hp)),
      fun hp => mem_of_lookup ((hlookup key).trans (lookup_of_mem h'.nodup hp))⟩
  have hperm : pairs.Perm pairs' :=
    (List.perm_ext_iff_of_nodup (h.imp fun hlt => ne_of_apply_ne Prod.fst (String.ne_of_lt hlt))
      (h'.imp fun hlt => ne_of_apply_ne Prod.fst (String.ne_of_lt hlt))).mpr hmem
  exact hperm.eq_of_pairwise (fun p q _ _ hpq hqp => absurd hqp (String.lt_asymm hpq)) h h'

/-- A list of insertions gives every key its last value. -/
theorem lookup_ofList (pairs : List (String × α)) (key : String) :
    (ofList pairs).lookup key = lookupLast key pairs := by
  rw [ofList, lookup_foldl_insert, List.lookup_nil, Option.or_none]

theorem lookupLast_ofList (pairs : List (String × α)) (key : String) :
    lookupLast key (ofList pairs) = lookupLast key pairs := by
  rw [← lookup_ofList pairs, lookupLast, lookup_reverse (ascending_ofList pairs).nodup]

section Map
variable {β : Type v} (g : α → β)

theorem insert_map (key : String) (value : α) (pairs : List (String × α)) :
    (insert key value pairs).map (fun p => (p.1, g p.2)) =
      insert key (g value) (pairs.map fun p => (p.1, g p.2)) := by
  induction pairs with
  | nil => rfl
  | cons p rest ih =>
    obtain ⟨k, v⟩ := p
    rw [List.map_cons, insert, insert, ← ih]
    split
    · rfl
    · split <;> rfl

theorem lookup_map (pairs : List (String × α)) (key : String) :
    (pairs.map fun p => (p.1, g p.2)).lookup key = (pairs.lookup key).map g := by
  induction pairs with
  | nil => rfl
  | cons p rest ih =>
    rw [List.map_cons, lookup_cons_ite, lookup_cons_ite, ih]
    split <;> rfl

theorem lookupLast_map (pairs : List (String × α)) (key : String) :
    lookupLast key (pairs.map fun p => (p.1, g p.2)) = (lookupLast key pairs).map g := by
  rw [lookupLast, ← List.map_reverse, lookup_map, lookupLast]

/-- Keys are sorted without regard to their values. -/
theorem ofList_map (pairs : List (String × α)) :
    ofList (pairs.map fun p => (p.1, g p.2)) = (ofList pairs).map fun p => (p.1, g p.2) := by
  rw [ofList, List.foldl_map, ofList]
  change List.foldl _ (List.map (fun p : String × α => (p.1, g p.2)) []) pairs = _
  exact List.foldl_hom _ fun sorted p => (insert_map g p.1 p.2 sorted).symm

end Map

end Keyed

/-! ## Tables -/

namespace Table
variable {α : Type u}

theorem get?_insert (t : Table α) (key : String) (value : α) (key' : String) :
    (t.insert key value).get? key' = if key' = key then some value else t.get? key' :=
  Keyed.lookup_insert key value t.entries key'

theorem get?_filter (t : Table α) (keep : String → α → Bool) (key : String) :
    (t.filter keep).get? key = (t.get? key).filter (keep key) :=
  lookup_filter t.ascending.nodup _ key

theorem get?_erase (t : Table α) (key key' : String) :
    (t.erase key).get? key' = if key' = key then none else t.get? key' := by
  rw [erase, get?_filter]
  by_cases h : key' = key
  · cases t.get? key' <;> simp [h]
  · cases t.get? key' <;> simp [h]

/-- A listing of keys is sorted, and names no key twice. -/
theorem keys_ascending (t : Table α) : t.keys.Pairwise (· < ·) := List.pairwise_map.mpr t.ascending

theorem mem_keys {t : Table α} {key : String} : key ∈ t.keys ↔ ∃ value, t.get? key = some value := by
  constructor
  · intro h
    obtain ⟨⟨k, value⟩, hp, rfl⟩ := List.mem_map.mp h
    exact ⟨value, lookup_of_mem t.ascending.nodup hp⟩
  · rintro ⟨value, h⟩
    exact List.mem_map.mpr ⟨_, mem_of_lookup h, rfl⟩

end Table

theorem Params.get?_insert (p : Params) (key : String) (v : Json) (key' : String) :
    (p.insert key v).get? key' = if key' = key then some v.canonical else p.get? key' :=
  Keyed.lookup_insert key v.canonical p.fields key'

/-! ## Pools -/

namespace Pool
variable {α : Type u} {p : Pool α} {id id' : Nat} {value value' : α} {change : α → α}

theorem get?_lt (h : p.get? id = some value) : id < p.next := p.fresh _ (mem_of_lookup h)

theorem get?_next (p : Pool α) : p.get? p.next = none := by
  cases h : p.get? p.next with
  | none => rfl
  | some value => exact absurd (get?_lt h) (Nat.lt_irrefl _)

theorem get?_add (p : Pool α) (value : α) (id : Nat) :
    (p.add value).get? id = if id = p.next then some value else p.get? id :=
  lookup_cons_ite (p.next, value) p.entries id

theorem get?_modify (p : Pool α) (id : Nat) (change : α → α) (id' : Nat) :
    (p.modify id change).get? id' = if id' = id then (p.get? id').map change else p.get? id' := by
  obtain ⟨next, entries, fresh⟩ := p
  change (entries.map _).lookup id' = if id' = id then (entries.lookup id').map change else entries.lookup id'
  clear fresh
  induction entries with
  | nil => simp
  | cons e rest ih =>
    obtain ⟨k, v⟩ := e
    rw [List.map_cons, lookup_cons_ite, lookup_cons_ite, ih]
    by_cases hk : id' = k
    · subst hk
      by_cases h : id' = id <;> simp [h]
    · have hk' : id' ≠ (if k = id then (k, change v) else (k, v)).1 := by split <;> exact hk
      simp only [if_neg hk, if_neg hk']

theorem get?_remove (p : Pool α) (id id' : Nat) :
    (p.remove id).get? id' = if id' = id then none else p.get? id' := by
  refine (lookup_filter_keys (fun k => decide (k ≠ id)) p.entries id').trans ?_
  by_cases h : id' = id
  · simp [h]
  · simp [h, get?]

/-! What is found after an operation, told from what was there before. -/

theorem of_get?_add (h : (p.add value).get? id = some value') :
    id = p.next ∧ value' = value ∨ id ≠ p.next ∧ p.get? id = some value' := by
  rw [get?_add] at h
  split at h
  · next heq => exact .inl ⟨heq, (Option.some.inj h).symm⟩
  · next hne => exact .inr ⟨hne, h⟩

theorem of_get?_modify (h : (p.modify id change).get? id' = some value') :
    id' ≠ id ∧ p.get? id' = some value' ∨
      id' = id ∧ ∃ value, p.get? id = some value ∧ change value = value' := by
  rw [get?_modify] at h
  split at h
  · next heq => exact .inr ⟨heq, heq ▸ Option.map_eq_some_iff.mp h⟩
  · next hne => exact .inl ⟨hne, h⟩

theorem of_get?_remove (h : (p.remove id).get? id' = some value') :
    id' ≠ id ∧ p.get? id' = some value' := by
  rw [get?_remove] at h
  split at h
  · cases h
  · next hne => exact ⟨hne, h⟩

end Pool
end MessageBus
