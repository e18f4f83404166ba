import MessageBus.Decimal.Digits
import MessageBus.Duration.Basic
import MessageBus.Text.Blank
/-!
# Reading durations

A duration is written as one or more numbers, each followed by its unit: `1h 30m`. Blanks may stand
anywhere but inside a unit. The whole seconds of the sum are counted in 64 bits, and so are the
nanoseconds beside them while a number is added; a text that overflows one of them is refused.
-/
namespace MessageBus.Duration
set_option autoImplicit false

def limit : Nat := UInt64.size

/-- A 64-bit count, or nothing if it does not fit. -/
def fit (n : Nat) : Option Nat := if n < limit then some n else none

/-- Nanoseconds of the units below a second, seconds of the others. -/
inductive Scale
  | nanos (each : Nat)
  | seconds (each : Nat)
deriving DecidableEq, Repr

def scale? (name : String) : Option Scale :=
  if ["nanos", "nsec", "ns"].contains name then some (.nanos 1)
  else if ["usec", "us", "µs"].contains name then some (.nanos 1000)
  else if ["millis", "msec", "ms"].contains name then some (.nanos 1000000)
  else if ["seconds", "second", "secs", "sec", "s"].contains name then some (.seconds 1)
  else if ["minutes", "minute", "mins", "min", "m"].contains name then some (.seconds 60)
  else if ["hours", "hour", "hrs", "hr", "h"].contains name then some (.seconds 3600)
  else if ["days", "day", "d"].contains name then some (.seconds 86400)
  else if ["weeks", "week", "wks", "wk", "w"].contains name then some (.seconds 604800)
  else if ["months", "month", "M"].contains name then some (.seconds 2630016)
  else if ["years", "year", "yrs", "yr", "y"].contains name then some (.seconds 31557600)
  else none

/-- A duration whose whole seconds fit 64 bits. -/
def ofNanos? (nanos : Nat) : Option Duration :=
  (fit (nanos / 1000000000)).map fun _ => ⟨nanos⟩

/-- Adds `count` units of the named kind. Nanoseconds are added to those beside the whole seconds. -/
def add? (d : Duration) (count : Nat) (unit : String) : Option Duration := do
  match ← scale? unit with
  | .nanos each =>
    let nanos ← fit (count * each)
    let _ ← fit (d.nanos % 1000000000 + nanos)
    ofNanos? (d.nanos + nanos)
  | .seconds each =>
    let secs ← fit (count * each)
    ofNanos? (d.nanos + secs * 1000000000)

def isUnitChar (c : Char) : Bool := c.isAlpha || c = 'µ'

/-- Where the reader stands: before a number, in one, or in the unit after it. -/
inductive Place
  | start
  | number (count : Nat)
  | unit (count : Nat) (name : List Char)

structure Reading where
  /-- The sum of the numbers read with their units. -/
  sum : Duration
  place : Place
  /-- Whether a unit was completed. -/
  some? : Bool

def Reading.digit (r : Reading) (d : Digit) : Option Reading :=
  match r.place with
  | .start => some { r with place := .number d.val }
  | .number count => do return { r with place := .number (← fit (count * 10 + d.val)) }
  | .unit count name => do
    let sum ← r.sum.add? count (String.ofList name.reverse)
    return ⟨sum, .number d.val, true⟩

def Reading.char (r : Reading) (c : Char) : Option Reading :=
  match Digit.ofChar? c with
  | some d => r.digit d
  | none =>
    if Text.isBlank c then
      match r.place with
      | .start | .number _ => some r
      | .unit count name => do
        let sum ← r.sum.add? count (String.ofList name.reverse)
        return ⟨sum, .start, true⟩
    else if isUnitChar c then
      match r.place with
      | .start => none
      | .number count => some { r with place := .unit count [c] }
      | .unit count name => some { r with place := .unit count (c :: name) }
    else none

/-- The sum when the text ends; a number without a unit is refused. -/
def Reading.finish (r : Reading) : Option Duration :=
  match r.place with
  | .start => if r.some? then some r.sum else none
  | .number _ => none
  | .unit count name => r.sum.add? count (String.ofList name.reverse)

/-- Reads a duration; a lone `0` needs no unit. -/
def parse? (text : String) : Option Duration :=
  if text = "0" then some ⟨0⟩
  else do
    let r ← text.toList.foldlM Reading.char ⟨⟨0⟩, .start, false⟩
    r.finish

end MessageBus.Duration
