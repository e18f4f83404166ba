import MessageBus.Keyed
/-!
# Tables

A finite map from strings whose entries stand in key order. The order is part of the type, so every
listing of a table is sorted.
-/
namespace MessageBus
set_option autoImplicit false
universe u

structure Table (α : Type u) where
  entries : List (String × α)
  ascending : Keyed.Ascending entries

namespace Table
variable {α : Type u}

def empty : Table α := ⟨[], List.Pairwise.nil⟩

instance : Inhabited (Table α) := ⟨empty⟩

def get? (t : Table α) (key : String) : Option α := t.entries.lookup key

def contains (t : Table α) (key : String) : Bool := (t.get? key).isSome

def insert (t : Table α) (key : String) (value : α) : Table α :=
  ⟨Keyed.insert key value t.entries, Keyed.ascending_insert key value t.ascending⟩

/-- The entries that satisfy `keep`. -/
def filter (t : Table α) (keep : String → α → Bool) : Table α :=
  ⟨t.entries.filter (fun p => keep p.1 p.2), Keyed.ascending_filter _ t.ascending⟩

def erase (t : Table α) (key : String) : Table α := t.filter (fun k _ => k ≠ key)

def keys (t : Table α) : List String := t.entries.map (·.1)

def size (t : Table α) : Nat := t.entries.length

def isEmpty (t : Table α) : Bool := t.entries.isEmpty

end Table
end MessageBus
