import MessageBus.Proofs.Json.Grammar
import MessageBus.Proofs.Lookup
/-!
# Paths into values

Where a part of a value stands, by keys and positions; of equal keys the last one counts. A value has at
every path what its source has there (`at?_value`), and its canonical form nothing else
(`at?_canonical`).
-/
namespace MessageBus.Json
set_option autoImplicit false

inductive Step
  | key (k : String)
  | item (i : Nat)
deriving DecidableEq

def child? : Json → Step → Option Json
  | .object members, .key k => Keyed.lookupLast k members
  | .array items, .item i => items[i]?
  | _, _ => none

/-- What stands at a path. -/
def at? : Json → List Step → Option Json
  | v, [] => some v
  | v, s :: path => (v.child? s).bind fun w => w.at? path

namespace Source

def child? : Source → Step → Option Source
  | .object members, .key k => Keyed.lookupLast k members
  | .array items, .item i => items[i]?
  | _, _ => none

/-- What stands at a path. -/
def at? : Source → List Step → Option Source
  | d, [] => some d
  | d, s :: path => (d.child? s).bind fun e => e.at? path

theorem itemValues_eq_map (items : List Source) : itemValues items = items.map value := by
  induction items with
  | nil => rfl
  | cons d rest ih => rw [itemValues, ih, List.map_cons]

theorem memberValues_eq_map (members : List (String × Source)) :
    memberValues members = members.map fun m => (m.1, m.2.value) := by
  induction members with
  | nil => rfl
  | cons m rest ih => rw [memberValues, ih, List.map_cons]

theorem child?_value (d : Source) (s : Step) : d.value.child? s = (d.child? s).map value := by
  cases d with
  | object members =>
    cases s with
    | key k => rw [value, memberValues_eq_map, Json.child?, Keyed.lookupLast_map, child?]
    | item i => rfl
  | array items =>
    cases s with
    | key k => rfl
    | item i => rw [value, itemValues_eq_map, Json.child?, List.getElem?_map, child?]
  | null | bool _ | number _ | string _ => rfl

theorem at?_value (d : Source) (path : List Step) : d.value.at? path = (d.at? path).map value := by
  induction path generalizing d with
  | nil => rfl
  | cons s path ih =>
    rw [Json.at?, at?, child?_value]
    cases d.child? s with
    | none => rfl
    | some e => exact ih e

end Source

/-! ## Canonical form -/

theorem canonicalItems_eq_map (items : List Json) : canonicalItems items = items.map canonical := by
  induction items with
  | nil => rfl
  | cons v rest ih => rw [canonicalItems, ih, List.map_cons]

theorem canonicalMembers_eq_map (members : List (String × Json)) :
    canonicalMembers members = members.map fun m => (m.1, m.2.canonical) := by
  induction members with
  | nil => rfl
  | cons m rest ih => rw [canonicalMembers, ih, List.map_cons]

theorem child?_canonical (v : Json) (s : Step) : v.canonical.child? s = (v.child? s).map canonical := by
  cases v with
  | object members =>
    cases s with
    | key k =>
      rw [canonical, child?, canonicalMembers_eq_map, Keyed.lookupLast_ofList, Keyed.lookupLast_map, child?]
    | item i => rfl
  | array items =>
    cases s with
    | key k => rfl
    | item i => rw [canonical, canonicalItems_eq_map, child?, List.getElem?_map, child?]
  | null | bool _ | number _ | string _ => rfl

theorem at?_canonical (v : Json) (path : List Step) :
    v.canonical.at? path = (v.at? path).map canonical := by
  induction path generalizing v with
  | nil => rfl
  | cons s path ih =>
    rw [at?, at?, child?_canonical]
    cases v.child? s with
    | none => rfl
    | some w => exact ih w

mutual

theorem depth_canonical : ∀ v : Json, v.canonical.depth ≤ v.depth
  | .array items => Nat.succ_le_succ (depth_canonicalItems items)
  | .object members => by
    apply Nat.succ_le_succ
    have hmembers := depth_canonicalMembers members
    rw [depthMembers_le_iff] at hmembers ⊢
    exact fun m hm => hmembers m (Keyed.mem_of_mem_ofList hm)
  | .null | .bool _ | .number _ | .string _ => Nat.le_refl _

theorem depth_canonicalItems : ∀ items : List Json,
    depthItems (canonicalItems items) ≤ depthItems items
  | [] => Nat.le_refl _
  | v :: rest => by
    have hv := depth_canonical v
    have hrest := depth_canonicalItems rest
    rw [canonicalItems, depthItems, depthItems]
    omega

theorem depth_canonicalMembers : ∀ members : List (String × Json),
    depthMembers (canonicalMembers members) ≤ depthMembers members
  | [] => Nat.le_refl _
  | (k, v) :: rest => by
    have hv := depth_canonical v
    have hrest := depth_canonicalMembers rest
    rw [canonicalMembers, depthMembers, depthMembers]
    omega

end

/-! ## Numbers -/

/-- The number is the literal with its exponent, if there is one, in normal form. -/
structure Number.Keeps (n : Number) (l : Literal) : Prop where
  value : n.value = l.value
  plain : l.power = none → n.text = l.text
  power : ∀ p, l.power = some p →
    n.text = l.mantissa ++ 'e' :: (if p.sign = .minus then '-' else '+') :: p.digits.map Digit.char

theorem Literal.keeps (l : Literal) : l.number.Keeps l := by
  obtain ⟨negative, whole, fraction, power, hplain⟩ := l
  cases power with
  | none =>
    refine ⟨rfl, fun _ => rfl, ?_⟩
    rintro p ⟨⟩
  | some p =>
    obtain ⟨capital, sign, digits, hne⟩ := p
    refine ⟨?_, ?_, ?_⟩
    · cases sign <;> rfl
    · rintro ⟨⟩
    · rintro p ⟨⟩
      cases sign <;> rfl

end MessageBus.Json
