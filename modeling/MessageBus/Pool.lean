/-!
# Pools

Values under numbers, each of which is given out once: a number that was removed is never used again,
so it can name a socket for ever.
-/
namespace MessageBus
set_option autoImplicit false
universe u

structure Pool (α : Type u) where
  next : Nat
  entries : List (Nat × α)
  fresh : ∀ e ∈ entries, e.1 < next

namespace Pool
variable {α : Type u}

def empty : Pool α := ⟨0, [], by simp⟩

instance : Inhabited (Pool α) := ⟨empty⟩

def get? (p : Pool α) (id : Nat) : Option α := p.entries.lookup id

def contains (p : Pool α) (id : Nat) : Bool := (p.get? id).isSome

/-- Enters a value under the number `p.next`. -/
def add (p : Pool α) (value : α) : Pool α where
  next := p.next + 1
  entries := (p.next, value) :: p.entries
  fresh := by
    intro e h
    rcases List.mem_cons.1 h with rfl | h
    · exact Nat.lt_succ_self _
    · exact Nat.lt_succ_of_lt (p.fresh e h)

def modify (p : Pool α) (id : Nat) (change : α → α) : Pool α where
  next := p.next
  entries := p.entries.map fun e => if e.1 = id then (e.1, change e.2) else e
  fresh := by
    intro e h
    obtain ⟨d, hd, rfl⟩ := List.mem_map.1 h
    split <;> exact p.fresh d hd

def remove (p : Pool α) (id : Nat) : Pool α where
  next := p.next
  entries := p.entries.filter (·.1 ≠ id)
  fresh := fun e h => p.fresh e (List.mem_filter.1 h).1

def find? (p : Pool α) (test : α → Bool) : Option Nat :=
  (p.entries.find? fun e => test e.2).map (·.1)

def count (p : Pool α) (test : α → Bool) : Nat := p.entries.countP fun e => test e.2

end Pool
end MessageBus
