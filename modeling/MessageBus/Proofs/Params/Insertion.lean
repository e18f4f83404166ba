import MessageBus.Proofs.Lookup
import MessageBus.Proofs.Params.Canonical
import MessageBus.Proofs.Text.Order
/-!
# Parameters from insertions

Parameters are what is found under each key (`ext_get?`), and insertions leave under each key the last
value that was put there (`get?_insertAll`). So neither their order nor what they overwrite can be seen
afterwards (`insertAll_eq_iff`): the members stand in the order of their keys' bytes.
-/
namespace MessageBus.Params
set_option autoImplicit false

theorem ext_get? {p q : Params} (h : ∀ key, p.get? key = q.get? key) : p = q :=
  ext_fields (p.canonical.1.eq_of_lookup q.canonical.1 h)

theorem mem_fields_iff {p : Params} {key : String} {v : Json} :
    (key, v) ∈ p.fields ↔ p.get? key = some v :=
  ⟨lookup_of_mem p.canonical.1.nodup, mem_of_lookup⟩

/-- Members stand in the order of their keys' bytes. -/
theorem keys_ascending (p : Params) : (p.fields.map fun m => Utf8.bytes m.1).Pairwise (· < ·) :=
  List.pairwise_map.mpr (p.canonical.1.imp Utf8.bytes_lt_iff.mpr)

/-- Parameters after insertions, one after the other. -/
def insertAll (p : Params) (entries : List (String × Json)) : Params :=
  entries.foldl (fun p e => p.insert e.1 e.2) p

/-- What insertions leave under a key: the last value put there, or else the value that was there. -/
def left (p : Params) (entries : List (String × Json)) (key : String) : Option Json :=
  ((Keyed.lookupLast key entries).map Json.canonical).or (p.get? key)

theorem left_cons (p : Params) (e : String × Json) (entries : List (String × Json)) (key : String) :
    p.left (e :: entries) key = (p.insert e.1 e.2).left entries key := by
  rw [left, left, Keyed.lookupLast_cons, get?_insert]
  cases Keyed.lookupLast key entries with
  | some v => rfl
  | none => split <;> rfl

theorem get?_insertAll (p : Params) (entries : List (String × Json)) (key : String) :
    (p.insertAll entries).get? key = p.left entries key := by
  induction entries generalizing p with
  | nil => rfl
  | cons e entries ih =>
    rw [left_cons, ← ih]
    rfl

/-- Two histories of insertions make the same parameters exactly if they leave the same under each key. -/
theorem insertAll_eq_iff {p q : Params} {entries entries' : List (String × Json)} :
    p.insertAll entries = q.insertAll entries' ↔ ∀ key, p.left entries key = q.left entries' key := by
  constructor
  · intro h key
    rw [← get?_insertAll, ← get?_insertAll, h]
  · intro h
    exact ext_get? fun key => by rw [get?_insertAll, get?_insertAll, h]

end MessageBus.Params
