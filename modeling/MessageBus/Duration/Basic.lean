/-!
# Durations

Lengths of time in nanoseconds, and the short form in which messages give them: whole seconds,
milliseconds, microseconds or nanoseconds, whichever is the greatest unit not above the length, with
a fraction in that unit.
-/
namespace MessageBus
set_option autoImplicit false

structure Duration where
  nanos : Nat
deriving DecidableEq, Repr

/-- A reading of a clock, in nanoseconds. -/
abbrev Instant := Nat

namespace Duration

def ofMillis (n : Nat) : Duration := ⟨n * 1000000⟩

def ofSecs (n : Nat) : Duration := ⟨n * 1000000000⟩

def isZero (d : Duration) : Bool := d.nanos = 0

/-- A whole number and a fraction of `places` digits, without trailing zeros. -/
def fixed (whole fraction places : Nat) : String :=
  let digits := (Nat.toDigits 10 fraction).leftpad places '0'
  let digits := (digits.reverse.dropWhile (· = '0')).reverse
  String.ofList (Nat.toDigits 10 whole ++ if digits.isEmpty then [] else '.' :: digits)

def text (d : Duration) : String :=
  let n := d.nanos
  if 1000000000 ≤ n then fixed (n / 1000000000) (n % 1000000000) 9 ++ "s"
  else if 1000000 ≤ n then fixed (n / 1000000) (n % 1000000) 6 ++ "ms"
  else if 1000 ≤ n then fixed (n / 1000) (n % 1000) 3 ++ "µs"
  else fixed n 0 0 ++ "ns"

end Duration
end MessageBus
