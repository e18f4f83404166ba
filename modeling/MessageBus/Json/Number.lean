import MessageBus.Decimal.Digits
/-!
# JSON numbers

A number keeps the digits it was written with, so that an identifier of any length survives, and a zero keeps
its minus: `-0` is read and written as it stands and is not the number `0`. Its one freedom of spelling, the
exponent, has a normal form: `e`, a sign, the digits.
-/
namespace MessageBus.Json
set_option autoImplicit false

/-- The reserved key: an object that starts with it stands for a number, whose text it holds. -/
def numberKey : String := "$serde_json::private::Number"

structure Exponent where
  negative : Bool
  digits : List Digit
  digits_ne_nil : digits ≠ []
deriving DecidableEq

/-- A number as JSON writes it; an empty fraction stands for no fraction. -/
structure Number where
  negative : Bool
  whole : List Digit
  fraction : List Digit
  exponent : Option Exponent
  whole_plain : Digits.isPlain whole = true
deriving DecidableEq

namespace Number

def ofNat (n : Nat) : Number :=
  ⟨false, Digits.ofNat n, [], none, Digits.isPlain_ofNat n⟩

/-- The value of a number written with digits alone. -/
def toNat? (n : Number) : Option Nat :=
  if n.negative || !n.fraction.isEmpty || n.exponent.isSome then none else some (Digits.value n.whole)

/-- The value of a number without fraction and exponent, if it fits 64 bits: with a sign if it is written
with a minus, else without. A zero with a minus is no integer of 64 bits, which would lose the minus. -/
def int64? (n : Number) : Option Int :=
  let size := Digits.value n.whole
  if !n.fraction.isEmpty || n.exponent.isSome then none
  else if n.negative then
    if 0 < size && size ≤ 0x8000000000000000 then some (-(size : Int)) else none
  else if size < UInt64.size then some size else none

/-! ## Spelling -/

def fractionText (digits : List Digit) : List Char :=
  if digits.isEmpty then [] else '.' :: digits.map Digit.char

def exponentText : Option Exponent → List Char
  | none => []
  | some e => 'e' :: (if e.negative then '-' else '+') :: e.digits.map Digit.char

/-- A number as it is written: sign, whole part, fraction, exponent. -/
def text (n : Number) : List Char :=
  (if n.negative then ['-'] else []) ++ n.whole.map Digit.char ++ fractionText n.fraction
    ++ exponentText n.exponent

end Number
end MessageBus.Json
