import MessageBus.Decimal.Binary64
import MessageBus.Toml.Basic
import MessageBus.Toml.Text
/-!
# TOML numbers and dates

Integers of 64 bits in four bases, floats, and dates and times. Digits may be parted by single
underscores. A date must exist in the calendar.
-/
namespace MessageBus.Toml
set_option autoImplicit false

/-! ## Digits -/

/-- Digits accepted by `digit?`, with single underscores between them: their values. -/
def digitsFrom (digit? : Char → Option Nat) : List Char → Option (List Nat × List Char)
  | [] => some ([], [])
  | '_' :: rest =>
    match rest with
    | [] => none
    | c :: _ => if (digit? c).isSome then digitsFrom digit? rest else none
  | c :: rest =>
    match digit? c with
    | some d => (digitsFrom digit? rest).map fun p => (d :: p.1, p.2)
    | none => some ([], c :: rest)

/-- One digit at least, which is no underscore. -/
def digits? (digit? : Char → Option Nat) : Reader (List Nat)
  | [] => none
  | c :: rest => if (digit? c).isSome then digitsFrom digit? (c :: rest) else none

def valueIn (base : Nat) (digits : List Nat) : Nat := digits.foldl (fun n d => n * base + d) 0

def decimalDigit? (c : Char) : Option Nat := (Digit.ofChar? c).map Fin.val

def digitBelow? (base : Nat) (c : Char) : Option Nat :=
  (hexValue? c).filter (· < base)

/-! ## Integers -/

/-- The sign of a number, if it has one: `true` for a minus. -/
def sign : List Char → Bool × List Char
  | '-' :: rest => (true, rest)
  | '+' :: rest => (false, rest)
  | input => (false, input)

def plainDigits? : Reader (List Nat)
  | '0' :: rest => some ([0], rest)
  | input => digits? decimalDigit? input

/-- Above the greatest integer; its negation is the least one. -/
def integerBound : Nat := 0x8000000000000000

def integerInBase? (base : Nat) : Reader Toml := fun input => do
  let (digits, rest) ← digits? (digitBelow? base) input
  let n := valueIn base digits
  if n < integerBound then return (.integer n, rest) else none

def integer? : Reader Toml
  | '0' :: 'x' :: rest => integerInBase? 16 rest
  | '0' :: 'o' :: rest => integerInBase? 8 rest
  | '0' :: 'b' :: rest => integerInBase? 2 rest
  | input => do
    let (negative, input) := sign input
    let (digits, rest) ← plainDigits? input
    let n := valueIn 10 digits
    if negative then
      if n ≤ integerBound then return (.integer (-n), rest) else none
    else if n < integerBound then return (.integer n, rest) else none

/-! ## Floats -/

def exponentPart? : Reader Int
  | c :: rest =>
    if c = 'e' || c = 'E' then do
      let (negative, rest) := sign rest
      let (digits, rest) ← digits? decimalDigit? rest
      let n : Int := valueIn 10 digits
      return (if negative then -n else n, rest)
    else none
  | [] => none

/-- A float that overflows upwards is refused. -/
def checkedFloat (negative : Bool) (digits : List Nat) (exponent : Int) (rest : List Char) :
    Option (Toml × List Char) :=
  if !negative && Binary64.ofDecimal (valueIn 10 digits) exponent = Binary64.infinityBits then none
  else some (.float, rest)

def special? : List Char → Option (List Char)
  | 'i' :: 'n' :: 'f' :: rest => some rest
  | 'n' :: 'a' :: 'n' :: rest => some rest
  | _ => none

/-- Whether a number here is a float: digits followed by a point or an exponent. -/
def startsFloat (input : List Char) : Bool :=
  match plainDigits? (sign input).2 with
  | some (_, c :: _) => c = '.' || c = 'e' || c = 'E'
  | _ => false

def float? : Reader Toml := fun input => do
  let (negative, input) := sign input
  match special? input with
  | some rest => return (.float, rest)
  | none => do
    let (whole, rest) ← plainDigits? input
    match rest with
    | '.' :: rest => do
      let (fraction, rest) ← digits? decimalDigit? rest
      match rest with
      | c :: _ =>
        if c = 'e' || c = 'E' then do
          let (e, rest) ← exponentPart? rest
          checkedFloat negative (whole ++ fraction) (e - fraction.length) rest
        else checkedFloat negative (whole ++ fraction) (-fraction.length) rest
      | [] => checkedFloat negative (whole ++ fraction) (-fraction.length) []
    | rest => do
      let (e, rest) ← exponentPart? rest
      checkedFloat negative whole e rest

/-! ## Dates and times -/

/-- Exactly `count` digits. -/
def fixedDigits? (count : Nat) : Reader Nat := fun input => do
  let digits ← (input.take count).mapM decimalDigit?
  if digits.length = count then return (valueIn 10 digits, input.drop count) else none

def twoDigits? (low high : Nat) : Reader Nat := fun input => do
  let (n, rest) ← fixedDigits? 2 input
  if low ≤ n && n ≤ high then return (n, rest) else none

def expect? (c : Char) : List Char → Option (List Char)
  | d :: rest => if d = c then some rest else none
  | [] => none

def daysInMonth (year month : Nat) : Nat :=
  if month = 2 then
    if year % 4 = 0 && (year % 100 ≠ 0 || year % 400 = 0) then 29 else 28
  else if [4, 6, 9, 11].contains month then 30 else 31

def date? (input : List Char) : Option (List Char) := do
  let (year, rest) ← fixedDigits? 4 input
  let rest ← expect? '-' rest
  let (month, rest) ← twoDigits? 1 12 rest
  let rest ← expect? '-' rest
  let (_, rest) ← twoDigits? 1 (daysInMonth year month) rest
  return rest

/-- A point and digits after the seconds, if they are there. -/
def secondFraction (input : List Char) : List Char :=
  match input with
  | '.' :: rest =>
    if (rest.takeWhile Char.isDigit).isEmpty then input else rest.dropWhile Char.isDigit
  | _ => input

def time? (input : List Char) : Option (List Char) := do
  let (_, rest) ← twoDigits? 0 23 input
  let rest ← expect? ':' rest
  let (_, rest) ← twoDigits? 0 59 rest
  let rest ← expect? ':' rest
  let (_, rest) ← twoDigits? 0 60 rest
  return secondFraction rest

/-- The offset from universal time, if one is there. -/
def offset? (input : List Char) : Option (List Char) :=
  match input with
  | c :: rest =>
    if c = 'Z' || c = 'z' then some rest
    else if c = '+' || c = '-' then do
      let (_, rest) ← twoDigits? 0 23 rest
      let rest ← expect? ':' rest
      let (_, rest) ← twoDigits? 0 59 rest
      return rest
    else some input
  | [] => some []

/-- Whether a date or a time starts here: four digits and a dash, or two and a colon. -/
def startsDate (input : List Char) : Bool :=
  match fixedDigits? 4 input, fixedDigits? 2 input with
  | some (_, '-' :: _), _ => true
  | _, some (_, ':' :: _) => true
  | _, _ => false

/-- Whether a time follows the date: a separator, two digits and a colon. -/
def startsTime : List Char → Bool
  | c :: rest =>
    (c = 'T' || c = 't' || c = ' ')
      && match fixedDigits? 2 rest with
        | some (_, ':' :: _) => true
        | _ => false
  | [] => false

def datetime? : Reader Toml := fun input => do
  match fixedDigits? 4 input with
  | some (_, '-' :: _) => do
    let rest ← date? input
    if startsTime rest then do
      let rest ← time? (rest.drop 1)
      return (.datetime, ← offset? rest)
    else return (.datetime, rest)
  | _ => return (.datetime, ← time? input)

/-! ## Any of them -/

def number? : Reader Toml := fun input =>
  if startsDate input then datetime? input
  else if startsFloat input || (special? (sign input).2).isSome then float? input
  else integer? input

def word? (word : List Char) (v : Toml) : Reader Toml := fun input =>
  if word.isPrefixOf input then some (v, input.drop word.length) else none

def scalar? : Reader Toml := fun input =>
  match input with
  | [] => none
  | c :: _ =>
    if c = '"' || c = '\'' then (string? input).map fun p => (.string p.1, p.2)
    else if c = 't' then word? ['t', 'r', 'u', 'e'] (.bool true) input
    else if c = 'f' then word? ['f', 'a', 'l', 's', 'e'] (.bool false) input
    else number? input

end MessageBus.Toml
