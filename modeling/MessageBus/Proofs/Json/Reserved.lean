import MessageBus.Proofs.Json.Grammar
/-!
# Values without the reserved key

A value is `Plain` if no object in it starts with the reserved key, and `Free` if none has it anywhere.
Plain values stand for themselves alone, and only plain values are stood for; the canonical form of a free
value is free, while that of a plain one may bring the reserved key to the front.
-/
namespace MessageBus.Json
set_option autoImplicit false

mutual

/-- The keys of every object in a value, in their order. -/
def objectKeys : Json → List (List String)
  | .array items => itemObjectKeys items
  | .object members => members.map Prod.fst :: memberObjectKeys members
  | .null | .bool _ | .number _ | .string _ => []

def itemObjectKeys : List Json → List (List String)
  | [] => []
  | v :: rest => objectKeys v ++ itemObjectKeys rest

def memberObjectKeys : List (String × Json) → List (List String)
  | [] => []
  | (_, v) :: rest => objectKeys v ++ memberObjectKeys rest

end

/-- No object starts with the reserved key. -/
def Plain (v : Json) : Prop := ∀ keys ∈ v.objectKeys, keys.head? ≠ some numberKey

/-- No object has the reserved key. -/
def Free (v : Json) : Prop := ∀ keys ∈ v.objectKeys, numberKey ∉ keys

instance (v : Json) : Decidable v.Plain := List.decidableBAll _ _

instance (v : Json) : Decidable v.Free := List.decidableBAll _ _

theorem Free.plain {v : Json} (h : v.Free) : v.Plain :=
  fun keys hkeys hhead => h keys hkeys (List.mem_of_head? hhead)

theorem mem_itemObjectKeys {items : List Json} {keys : List String} :
    keys ∈ itemObjectKeys items ↔ ∃ v ∈ items, keys ∈ v.objectKeys := by
  induction items with
  | nil => simp [itemObjectKeys]
  | cons v rest ih => simp [itemObjectKeys, ih]

theorem mem_memberObjectKeys {members : List (String × Json)} {keys : List String} :
    keys ∈ memberObjectKeys members ↔ ∃ m ∈ members, keys ∈ m.2.objectKeys := by
  induction members with
  | nil => simp [memberObjectKeys]
  | cons m rest ih =>
    obtain ⟨k, v⟩ := m
    simp [memberObjectKeys, ih]

theorem plain_string (s : String) : (Json.string s).Plain := List.forall_mem_nil _

theorem plain_array {items : List Json} : (Json.array items).Plain ↔ ∀ v ∈ items, v.Plain := by
  simp only [Plain, objectKeys, mem_itemObjectKeys, forall_exists_index, and_imp]
  exact ⟨fun h v hv keys => h keys v hv, fun h keys v hv => h v hv keys⟩

theorem plain_object {members : List (String × Json)} :
    (Json.object members).Plain ↔
      (members.map Prod.fst).head? ≠ some numberKey ∧ ∀ m ∈ members, m.2.Plain := by
  simp only [Plain, objectKeys, List.forall_mem_cons, mem_memberObjectKeys, forall_exists_index, and_imp]
  exact and_congr_right fun _ => ⟨fun h m hm keys => h keys m hm, fun h keys m hm => h m hm keys⟩

/-! ## What plain values stand for -/

mutual

theorem standsFor_self : ∀ {v : Json}, v.Plain → StandsFor v v
  | .null, _ => .null
  | .bool b, _ => .bool b
  | .number n, _ => .number n
  | .string s, _ => .string s
  | .array _, h => .array (itemsStandFor_self (plain_array.mp h))
  | .object _, h => .object (plain_object.mp h).1 (membersStandFor_self (plain_object.mp h).2)

theorem itemsStandFor_self : ∀ {items : List Json}, (∀ v ∈ items, v.Plain) → ItemsStandFor items items
  | [], _ => .nil
  | _ :: _, h => .cons (standsFor_self (List.forall_mem_cons.mp h).1)
      (itemsStandFor_self (List.forall_mem_cons.mp h).2)

theorem membersStandFor_self : ∀ {members : List (String × Json)}, (∀ m ∈ members, m.2.Plain) →
    MembersStandFor members members
  | [], _ => .nil
  | (k, _) :: _, h => .cons k (standsFor_self (List.forall_mem_cons.mp h).1)
      (membersStandFor_self (List.forall_mem_cons.mp h).2)

end

mutual

theorem StandsFor.eq_of_plain : ∀ {w v : Json}, StandsFor w v → w.Plain → v = w
  | _, _, .null, _ | _, _, .bool _, _ | _, _, .number _, _ | _, _, .string _, _ => rfl
  | _, _, .array h, hw => congrArg Json.array (h.eq_of_plain (plain_array.mp hw))
  | _, _, .object _ h, hw => congrArg Json.object (h.eq_of_plain (plain_object.mp hw).2)
  | _, _, .numeral _, hw => absurd rfl (plain_object.mp hw).1

theorem ItemsStandFor.eq_of_plain : ∀ {items items' : List Json}, ItemsStandFor items items' →
    (∀ v ∈ items, v.Plain) → items' = items
  | _, _, .nil, _ => rfl
  | _, _, .cons hv h, hw => by
    obtain ⟨hplain, hrest⟩ := List.forall_mem_cons.mp hw
    rw [hv.eq_of_plain hplain, h.eq_of_plain hrest]

theorem MembersStandFor.eq_of_plain : ∀ {members members' : List (String × Json)},
    MembersStandFor members members' → (∀ m ∈ members, m.2.Plain) → members' = members
  | _, _, .nil, _ => rfl
  | _, _, .cons k hv h, hw => by
    obtain ⟨hplain, hrest⟩ := List.forall_mem_cons.mp hw
    rw [hv.eq_of_plain hplain, h.eq_of_plain hrest]

end

/-! ## What is stood for -/

theorem MembersStandFor.keys_eq {members members' : List (String × Json)} :
    MembersStandFor members members' → members'.map Prod.fst = members.map Prod.fst
  | .nil => rfl
  | .cons k _ h => congrArg (k :: ·) h.keys_eq

mutual

theorem StandsFor.plain : ∀ {w v : Json}, StandsFor w v → v.Plain
  | _, _, .null | _, _, .bool _ | _, _, .number _ | _, _, .string _ | _, _, .numeral _ =>
    List.forall_mem_nil _
  | _, _, .array h => plain_array.mpr h.plain
  | _, _, .object hkey h => plain_object.mpr ⟨by rwa [h.keys_eq], h.plain⟩

theorem ItemsStandFor.plain : ∀ {items items' : List Json}, ItemsStandFor items items' →
    ∀ v ∈ items', v.Plain
  | _, _, .nil => List.forall_mem_nil _
  | _, _, .cons hv h => List.forall_mem_cons.mpr ⟨hv.plain, h.plain⟩

theorem MembersStandFor.plain : ∀ {members members' : List (String × Json)},
    MembersStandFor members members' → ∀ m ∈ members', m.2.Plain
  | _, _, .nil => List.forall_mem_nil _
  | _, _, .cons _ hv h => List.forall_mem_cons.mpr ⟨hv.plain, h.plain⟩

end

mutual

theorem StandsFor.depth_le : ∀ {w v : Json}, StandsFor w v → v.depth ≤ w.depth
  | _, _, .null | _, _, .bool _ | _, _, .number _ | _, _, .string _ => Nat.le_refl _
  | _, _, .array h => Nat.succ_le_succ h.depth_le
  | _, _, .object _ h => Nat.succ_le_succ h.depth_le
  | _, _, .numeral _ => Nat.zero_le _

theorem ItemsStandFor.depth_le : ∀ {items items' : List Json}, ItemsStandFor items items' →
    depthItems items' ≤ depthItems items
  | _, _, .nil => Nat.le_refl _
  | _, _, .cons hv h => max_le_max hv.depth_le h.depth_le

theorem MembersStandFor.depth_le : ∀ {members members' : List (String × Json)},
    MembersStandFor members members' → depthMembers members' ≤ depthMembers members
  | _, _, .nil => Nat.le_refl _
  | _, _, .cons _ hv h => max_le_max hv.depth_le h.depth_le

end

theorem Writes.depth_le {input : List UInt8} {v : Json} (h : Writes input v) : v.depth ≤ 127 := by
  obtain ⟨d, hdepth, hstands, -⟩ := h
  exact Nat.le_trans hstands.depth_le hdepth

theorem Writes.plain {input : List UInt8} {v : Json} (h : Writes input v) : v.Plain := by
  obtain ⟨d, -, hstands, -⟩ := h
  exact hstands.plain

/-! ## Canonical form -/

theorem keys_canonicalMembers (members : List (String × Json)) :
    (canonicalMembers members).map Prod.fst = members.map Prod.fst := by
  induction members with
  | nil => rfl
  | cons m rest ih => exact congrArg (m.1 :: ·) ih

mutual

/-- Sorting members and dropping repeated ones brings no key into an object. -/
theorem objectKeys_canonical : ∀ (v : Json), ∀ keys ∈ v.canonical.objectKeys,
    ∃ keys' ∈ v.objectKeys, keys ⊆ keys'
  | .array items, keys, h => itemObjectKeys_canonical items keys h
  | .object members, keys, h => by
    rcases List.mem_cons.mp h with rfl | h
    · refine ⟨_, List.mem_cons_self, fun k hk => ?_⟩
      obtain ⟨m, hm, rfl⟩ := List.mem_map.mp hk
      rw [← keys_canonicalMembers]
      exact List.mem_map_of_mem (Keyed.mem_of_mem_ofList hm)
    · obtain ⟨m, hm, hkeys⟩ := mem_memberObjectKeys.mp h
      have hmembers : keys ∈ memberObjectKeys (canonicalMembers members) :=
        mem_memberObjectKeys.mpr ⟨m, Keyed.mem_of_mem_ofList hm, hkeys⟩
      obtain ⟨keys', hkeys', hsub⟩ := memberObjectKeys_canonical members keys hmembers
      exact ⟨keys', List.mem_cons_of_mem _ hkeys', hsub⟩
  | .null, _, h | .bool _, _, h | .number _, _, h | .string _, _, h => absurd h List.not_mem_nil

theorem itemObjectKeys_canonical : ∀ (items : List Json), ∀ keys ∈ itemObjectKeys (canonicalItems items),
    ∃ keys' ∈ itemObjectKeys items, keys ⊆ keys'
  | [], _, h => absurd h List.not_mem_nil
  | v :: rest, keys, h => by
    rcases List.mem_append.mp h with h | h
    · obtain ⟨keys', hkeys', hsub⟩ := objectKeys_canonical v keys h
      exact ⟨keys', List.mem_append_left _ hkeys', hsub⟩
    · obtain ⟨keys', hkeys', hsub⟩ := itemObjectKeys_canonical rest keys h
      exact ⟨keys', List.mem_append_right _ hkeys', hsub⟩

theorem memberObjectKeys_canonical : ∀ (members : List (String × Json)),
    ∀ keys ∈ memberObjectKeys (canonicalMembers members), ∃ keys' ∈ memberObjectKeys members, keys ⊆ keys'
  | [], _, h => absurd h List.not_mem_nil
  | (_, v) :: rest, keys, h => by
    rcases List.mem_append.mp h with h | h
    · obtain ⟨keys', hkeys', hsub⟩ := objectKeys_canonical v keys h
      exact ⟨keys', List.mem_append_left _ hkeys', hsub⟩
    · obtain ⟨keys', hkeys', hsub⟩ := memberObjectKeys_canonical rest keys h
      exact ⟨keys', List.mem_append_right _ hkeys', hsub⟩

end

theorem Free.canonical {v : Json} (h : v.Free) : v.canonical.Free := by
  intro keys hkeys hmem
  obtain ⟨keys', hkeys', hsub⟩ := objectKeys_canonical v keys hkeys
  exact h keys' hkeys' (hsub hmem)

theorem free_of_mem {members : List (String × Json)} {m : String × Json} (h : (Json.object members).Free)
    (hm : m ∈ members) : m.2.Free :=
  fun keys hkeys => h keys (List.mem_cons_of_mem _ (mem_memberObjectKeys.mpr ⟨m, hm, hkeys⟩))

end MessageBus.Json
