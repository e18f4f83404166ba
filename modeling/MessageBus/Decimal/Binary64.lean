import MessageBus.Decimal.Digits
/-!
# Decimals as binary64

The binary64 number nearest to a decimal, ties to the even neighbour, computed in exact integer
arithmetic. A positive finite binary64 is `m · 2^q` with `m < 2^53` and `-1074 ≤ q ≤ 971`; decimals
beyond the greatest of them become infinity.
-/
namespace MessageBus.Binary64
set_option autoImplicit false

/-- `num / den` rounded to the nearest integer, a half to the even one. -/
def roundDiv (num den : Nat) : Nat :=
  let q := num / den
  let r := num % den
  if 2 * r < den then q
  else if den < 2 * r then q + 1
  else if q % 2 = 0 then q else q + 1

/-- `num / den · 2^(-q)` as a fraction. -/
def scaled (num den : Nat) (q : Int) : Nat × Nat :=
  if q < 0 then (num * Nat.pow 2 q.natAbs, den) else (num, den * Nat.pow 2 q.natAbs)

/-- The smallest natural number of 53 binary digits. -/
def smallest : Nat := 0x10000000000000

/-- The exponent `q` at which `num / den` has 53 binary digits, or `-1074` if it is smaller. -/
def exponentOf (num den : Nat) : Int :=
  let guess : Int := (Nat.log2 num : Int) - (Nat.log2 den : Int) - 52
  let (n, d) := scaled num den guess
  let exact :=
    if n / d < smallest then guess - 1 else if n / d ≥ 2 * smallest then guess + 1 else guess
  max exact (-1074)

def infinityBits : Nat := 0x7FF0000000000000

def nanBits : Nat := 0x7FF8000000000000

def signBit : Nat := 0x8000000000000000

/-- The bits of `m · 2^q`, for `m ≤ 2^53`. -/
def pack (m : Nat) (q : Int) : Nat :=
  let (m, q) := if m = 2 * smallest then (smallest, q + 1) else (m, q)
  if q > 971 then infinityBits
  else if m < smallest then m
  else (q + 1075).toNat * smallest + (m - smallest)

/-- The bits of the binary64 nearest to the positive fraction `num / den`. -/
def nearest (num den : Nat) : Nat :=
  let q := exponentOf num den
  let (n, d) := scaled num den q
  pack (roundDiv n d) q

/-- The bits of the binary64 nearest to `mantissa · 10^exponent`. -/
def ofDecimal (mantissa : Nat) (exponent : Int) : Nat :=
  let size : Int := (Digits.ofNat mantissa).length + exponent
  if mantissa = 0 || size < -400 then 0
  else if size > 400 then infinityBits
  else if exponent < 0 then nearest mantissa (Nat.pow 10 exponent.natAbs)
  else nearest (mantissa * Nat.pow 10 exponent.natAbs) 1

def signed (negative : Bool) (bits : Nat) : Float :=
  Float.ofBits (UInt64.ofNat (if negative then signBit + bits else bits))

/-! ## Reading text -/

/-- A sign, if there is one: `true` for a minus. -/
def takeSign : List Char → Bool × List Char
  | '-' :: rest => (true, rest)
  | '+' :: rest => (false, rest)
  | rest => (false, rest)

/-- The exponent of a decimal text: `e` or `E`, an optional sign, digits up to the end. -/
def exponent? : List Char → Option Int
  | [] => some 0
  | c :: rest =>
    if c = 'e' || c = 'E' then
      let (negative, rest) := takeSign rest
      match Digits.takeChars rest with
      | ([], _) => none
      | (digits, []) =>
        let size : Int := Digits.value digits
        some (if negative then -size else size)
      | (_, _ :: _) => none
    else none

/-- An unsigned decimal: digits with at most one point among or beside them, then an exponent. -/
def magnitude? (text : List Char) : Option Nat :=
  let (whole, rest) := Digits.takeChars text
  let (fraction, rest) :=
    match rest with
    | '.' :: rest => Digits.takeChars rest
    | rest => ([], rest)
  if whole.isEmpty && fraction.isEmpty then none
  else (exponent? rest).map fun e => ofDecimal (Digits.value (whole ++ fraction)) (e - fraction.length)

/-- Reads a decimal, or `inf`, `infinity` or `nan` in any ASCII case, with an optional sign. -/
def ofText? (text : String) : Option Float :=
  let (negative, rest) := takeSign text.toList
  let word := String.ofList (rest.map Char.toLower)
  if word = "inf" || word = "infinity" then some (signed negative infinityBits)
  else if word = "nan" then some (Float.ofBits (UInt64.ofNat nanBits))
  else (magnitude? rest).map (signed negative)

end MessageBus.Binary64
