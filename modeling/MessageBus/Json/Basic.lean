import MessageBus.Json.Number
import MessageBus.Keyed
/-!
# JSON values

A value keeps the members of an object in the order they were read or are to be written, repeated
keys included. `canonical` sorts the members of every object by key and keeps the last of equal keys;
`Canonical` says that a value has that form already, and `canonical_canonical` that the one reaches
the other.
-/
namespace MessageBus
set_option autoImplicit false

inductive Json
  | null
  | bool (b : Bool)
  | number (n : Json.Number)
  | string (s : String)
  | array (items : List Json)
  | object (members : List (String × Json))
deriving Inhabited

namespace Json

/-! ## Equality -/

mutual

def decEq : (v w : Json) → Decidable (v = w)
  | .null, .null => isTrue rfl
  | .bool a, .bool b => if h : a = b then isTrue (h ▸ rfl) else isFalse (by simpa using h)
  | .number a, .number b => if h : a = b then isTrue (h ▸ rfl) else isFalse (by simpa using h)
  | .string a, .string b => if h : a = b then isTrue (h ▸ rfl) else isFalse (by simpa using h)
  | .array a, .array b =>
    match decEqItems a b with
    | isTrue h => isTrue (h ▸ rfl)
    | isFalse h => isFalse (by simpa using h)
  | .object a, .object b =>
    match decEqMembers a b with
    | isTrue h => isTrue (h ▸ rfl)
    | isFalse h => isFalse (by simpa using h)
  | .null, .bool _ | .null, .number _ | .null, .string _ | .null, .array _ | .null, .object _
  | .bool _, .null | .bool _, .number _ | .bool _, .string _ | .bool _, .array _ | .bool _, .object _
  | .number _, .null | .number _, .bool _ | .number _, .string _ | .number _, .array _
  | .number _, .object _
  | .string _, .null | .string _, .bool _ | .string _, .number _ | .string _, .array _
  | .string _, .object _
  | .array _, .null | .array _, .bool _ | .array _, .number _ | .array _, .string _
  | .array _, .object _
  | .object _, .null | .object _, .bool _ | .object _, .number _ | .object _, .string _
  | .object _, .array _ => isFalse (by simp)

def decEqItems : (v w : List Json) → Decidable (v = w)
  | [], [] => isTrue rfl
  | [], _ :: _ | _ :: _, [] => isFalse (by simp)
  | a :: v, b :: w =>
    match decEq a b with
    | isFalse h => isFalse (by simp [h])
    | isTrue h =>
      match decEqItems v w with
      | isTrue h' => isTrue (by rw [h, h'])
      | isFalse h' => isFalse (by simp [h'])

def decEqMembers : (v w : List (String × Json)) → Decidable (v = w)
  | [], [] => isTrue rfl
  | [], _ :: _ | _ :: _, [] => isFalse (by simp)
  | (k, a) :: v, (l, b) :: w =>
    if hk : k = l then
      match decEq a b with
      | isFalse h => isFalse (by simp [h])
      | isTrue h =>
        match decEqMembers v w with
        | isTrue h' => isTrue (by rw [h, h', hk])
        | isFalse h' => isFalse (by simp [h'])
    else isFalse (by simp [hk])

end

instance : DecidableEq Json := decEq

/-! ## Canonical form -/

mutual

/-- Sorts every object by key; of equal keys the last one stays. -/
def canonical : Json → Json
  | .array items => .array (canonicalItems items)
  | .object members => .object (Keyed.ofList (canonicalMembers members))
  | .null => .null
  | .bool b => .bool b
  | .number n => .number n
  | .string s => .string s

def canonicalItems : List Json → List Json
  | [] => []
  | v :: rest => canonical v :: canonicalItems rest

def canonicalMembers : List (String × Json) → List (String × Json)
  | [] => []
  | (k, v) :: rest => (k, canonical v) :: canonicalMembers rest

end

mutual

/-- Every object lists its keys in strictly ascending order. -/
def Canonical : Json → Prop
  | .array items => CanonicalItems items
  | .object members => Keyed.Ascending members ∧ CanonicalMembers members
  | .null | .bool _ | .number _ | .string _ => True

def CanonicalItems : List Json → Prop
  | [] => True
  | v :: rest => Canonical v ∧ CanonicalItems rest

def CanonicalMembers : List (String × Json) → Prop
  | [] => True
  | (_, v) :: rest => Canonical v ∧ CanonicalMembers rest

end

theorem canonicalMembers_iff {members : List (String × Json)} :
    CanonicalMembers members ↔ ∀ p ∈ members, Canonical p.2 := by
  induction members with
  | nil => simp [CanonicalMembers]
  | cons p rest ih =>
    obtain ⟨k, v⟩ := p
    simp [CanonicalMembers, ih]

theorem canonicalItems_iff {items : List Json} :
    CanonicalItems items ↔ ∀ v ∈ items, Canonical v := by
  induction items with
  | nil => simp [CanonicalItems]
  | cons v rest ih => simp [CanonicalItems, ih]

theorem canonical_object {members : List (String × Json)} (h : CanonicalMembers members) :
    Canonical (.object (Keyed.ofList members)) :=
  ⟨Keyed.ascending_ofList _,
    canonicalMembers_iff.2 fun p hp => canonicalMembers_iff.1 h p (Keyed.mem_of_mem_ofList hp)⟩

mutual

theorem canonical_canonical : (v : Json) → Canonical (canonical v)
  | .array items => canonicalItems_canonical items
  | .object members => canonical_object (canonicalMembers_canonical members)
  | .null | .bool _ | .number _ | .string _ => trivial

theorem canonicalItems_canonical : (items : List Json) → CanonicalItems (canonicalItems items)
  | [] => trivial
  | v :: rest => ⟨canonical_canonical v, canonicalItems_canonical rest⟩

theorem canonicalMembers_canonical :
    (members : List (String × Json)) → CanonicalMembers (canonicalMembers members)
  | [] => trivial
  | (_, v) :: rest => ⟨canonical_canonical v, canonicalMembers_canonical rest⟩

end

/-! ## Depth -/

mutual

/-- How many arrays and objects stand around the innermost value; an empty container counts one. -/
def depth : Json → Nat
  | .array items => depthItems items + 1
  | .object members => depthMembers members + 1
  | .null | .bool _ | .number _ | .string _ => 0

def depthItems : List Json → Nat
  | [] => 0
  | v :: rest => max (depth v) (depthItems rest)

def depthMembers : List (String × Json) → Nat
  | [] => 0
  | (_, v) :: rest => max (depth v) (depthMembers rest)

end

theorem depthItems_le_iff {items : List Json} {n : Nat} :
    depthItems items ≤ n ↔ ∀ v ∈ items, v.depth ≤ n := by
  induction items with
  | nil => simp [depthItems]
  | cons v rest ih => rw [depthItems, Nat.max_le, ih, List.forall_mem_cons]

theorem depthMembers_le_iff {members : List (String × Json)} {n : Nat} :
    depthMembers members ≤ n ↔ ∀ p ∈ members, p.2.depth ≤ n := by
  induction members with
  | nil => simp [depthMembers]
  | cons p rest ih =>
    obtain ⟨k, v⟩ := p
    rw [depthMembers, Nat.max_le, ih, List.forall_mem_cons]

end Json
end MessageBus
