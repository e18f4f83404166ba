import MessageBus.Params
/-!
# Parameters in canonical form

Sorting what is sorted changes nothing: a list in ascending key order is the list of its own insertions
(`ofList_of_ascending`), a canonical value is its own canonical form, and parameters are what their
members make (`ofMembers_fields`).
-/
namespace MessageBus
set_option autoImplicit false

namespace Keyed
universe u
variable {α : Type u}

/-- A key above all others goes to the end. -/
theorem insert_above {key : String} (value : α) {pairs : List (String × α)}
    (h : ∀ p ∈ pairs, p.1 < key) : insert key value pairs = pairs ++ [(key, value)] := by
  induction pairs with
  | nil => rfl
  | cons p rest ih =>
    obtain ⟨k, v⟩ := p
    have hk : k < key := h (k, v) List.mem_cons_self
    have hlt : ¬ key < k := fun h' => String.lt_irrefl k (String.lt_trans hk h')
    have hne : key ≠ k := fun e => String.lt_irrefl k (by rw [e] at hk; exact hk)
    rw [insert, if_neg hlt, if_neg hne, ih fun p hp => h p (List.mem_cons_of_mem _ hp),
      List.cons_append]

theorem foldl_insert_ascending (more : List (String × α)) {pairs : List (String × α)}
    (h : Ascending (pairs ++ more)) :
    more.foldl (fun sorted p => insert p.1 p.2 sorted) pairs = pairs ++ more := by
  induction more generalizing pairs with
  | nil => rw [List.foldl_nil, List.append_nil]
  | cons p more ih =>
    have hp : ∀ q ∈ pairs, q.1 < p.1 := fun q hq =>
      (List.pairwise_append.1 h).2.2 q hq p List.mem_cons_self
    have hsplit : pairs ++ p :: more = pairs ++ [p] ++ more := by simp
    rw [List.foldl_cons, insert_above p.2 hp, hsplit]
    exact ih (hsplit ▸ h)

theorem ofList_of_ascending {pairs : List (String × α)} (h : Ascending pairs) :
    ofList pairs = pairs := foldl_insert_ascending pairs h

end Keyed

namespace Json

mutual

theorem canonical_of_canonical : ∀ {v : Json}, v.Canonical → v.canonical = v
  | .null, _ | .bool _, _ | .number _, _ | .string _, _ => rfl
  | .array items, h => by rw [canonical, canonicalItems_of_canonical h]
  | .object members, h => by
    rw [canonical, canonicalMembers_of_canonical h.2, Keyed.ofList_of_ascending h.1]

theorem canonicalItems_of_canonical : ∀ {items : List Json}, CanonicalItems items →
    canonicalItems items = items
  | [], _ => rfl
  | v :: rest, h => by
    rw [canonicalItems, canonical_of_canonical h.1, canonicalItems_of_canonical h.2]

theorem canonicalMembers_of_canonical : ∀ {members : List (String × Json)},
    CanonicalMembers members → canonicalMembers members = members
  | [], _ => rfl
  | (k, v) :: rest, h => by
    rw [canonicalMembers, canonical_of_canonical h.1, canonicalMembers_of_canonical h.2]

end

end Json

namespace Params

theorem ext_fields {p q : Params} (h : p.fields = q.fields) : p = q := by
  cases p
  cases q
  cases h
  rfl

theorem toJson_inj {p q : Params} : p.toJson = q.toJson ↔ p = q :=
  ⟨fun h => ext_fields (Json.object.inj h), congrArg toJson⟩

theorem ofMembers_fields (p : Params) : ofMembers p.fields = p := by
  apply ext_fields
  change Keyed.ofList (Json.canonicalMembers p.fields) = p.fields
  rw [Json.canonicalMembers_of_canonical p.canonical.2, Keyed.ofList_of_ascending p.canonical.1]

end Params
end MessageBus
