import Mathlib.Algebra.Field.Rat
import Mathlib.Computability.Language
import MessageBus.Json.Basic
import MessageBus.Text.Utf8
/-!
# The grammar of JSON texts

Which byte sequences write which value, said without a reader. A `Source` is a text but for its blanks
and the spelling of its strings: members and items in their order, numbers as the literals they are
written with. `Source.text` is the set of its spellings and `Source.value` the value that stands in all
of them. What it stands for is the same value again unless some object in it starts with the reserved
key (`StandsFor`).
-/
namespace MessageBus.Json
set_option autoImplicit false

/-! ## Words and blanks -/

/-- A fixed text. -/
def word (s : String) : Language UInt8 := {Utf8.bytes s}

/-- Any number of spaces, tabs and ends of lines. -/
def blanks : Language UInt8 := {w | ∀ b ∈ w, b = 0x20 ∨ b = 0x09 ∨ b = 0x0A ∨ b = 0x0D}

/-! ## Numbers -/

/-- The value of a decimal. -/
def decimal (negative : Bool) (whole fraction : List Digit) (exponent : ℤ) : ℚ :=
  (if negative then -1 else 1) * (Digits.value whole + Digits.value fraction / 10 ^ fraction.length)
    * 10 ^ exponent

def Exponent.value (e : Exponent) : ℤ :=
  if e.negative then -(Digits.value e.digits : ℤ) else Digits.value e.digits

/-- The exact value of a number. -/
def Number.value (n : Number) : ℚ :=
  decimal n.negative n.whole n.fraction (n.exponent.elim 0 Exponent.value)

/-- The sign of an exponent as it is written. -/
inductive Sign
  | absent
  | plus
  | minus
deriving DecidableEq

def Sign.text : Sign → List Char
  | .absent => []
  | .plus => ['+']
  | .minus => ['-']

/-- An exponent as it is written. -/
structure Power where
  capital : Bool
  sign : Sign
  digits : List Digit
  digits_ne_nil : digits ≠ []

namespace Power

def text (p : Power) : List Char :=
  (if p.capital then 'E' else 'e') :: p.sign.text ++ p.digits.map Digit.char

def value (p : Power) : ℤ :=
  match p.sign with
  | .absent | .plus => Digits.value p.digits
  | .minus => -(Digits.value p.digits : ℤ)

/-- The exponent with the marker `e` and a sign. -/
def normal (p : Power) : Exponent := ⟨p.sign = .minus, p.digits, p.digits_ne_nil⟩

end Power

/-- A number as it is written; an empty fraction stands for no fraction. -/
structure Literal where
  negative : Bool
  whole : List Digit
  fraction : List Digit
  power : Option Power
  whole_plain : Digits.isPlain whole = true

namespace Literal

/-- Everything before the exponent. -/
def mantissa (l : Literal) : List Char :=
  (if l.negative then ['-'] else []) ++ l.whole.map Digit.char ++ Number.fractionText l.fraction

def text (l : Literal) : List Char := l.mantissa ++ l.power.elim [] Power.text

/-- The exact value of a literal. -/
def value (l : Literal) : ℚ :=
  decimal l.negative l.whole l.fraction (l.power.elim 0 Power.value)

/-- The number that a literal writes. -/
def number (l : Literal) : Number :=
  ⟨l.negative, l.whole, l.fraction, l.power.map Power.normal, l.whole_plain⟩

end Literal

/-! ## Strings -/

/-- A hexadecimal digit, in either case. -/
def HexDigit (b : UInt8) (n : Nat) : Prop :=
  n < 10 ∧ b.toNat = '0'.toNat + n ∨
    10 ≤ n ∧ n < 16 ∧ (b.toNat + 10 = 'a'.toNat + n ∨ b.toNat + 10 = 'A'.toNat + n)

/-- The four digits of a code unit. -/
def codeUnit (u : Nat) : Language UInt8 :=
  {w | ∃ a b c d i j k l, w = [a, b, c, d] ∧ HexDigit a i ∧ HexDigit b j ∧ HexDigit c k ∧ HexDigit d l ∧
    u = ((i * 16 + j) * 16 + k) * 16 + l}

/-- The letters behind a backslash, with the characters they stand for. -/
def shortEscapes : List (Char × Char) :=
  [('"', '"'), ('\\', '\\'), ('/', '/'), ('b', '\x08'), ('f', '\x0c'), ('n', '\n'), ('r', '\r'),
    ('t', '\t')]

/-- The spellings of a character between quotes. -/
inductive Spells (c : Char) : List UInt8 → Prop
  | plain (low : 0x20 ≤ c.toNat) (quote : c ≠ '"') (slash : c ≠ '\\') :
    Spells c (String.utf8EncodeChar c)
  | short {letter : Char} (h : (letter, c) ∈ shortEscapes) : Spells c (Utf8.encode ['\\', letter])
  | unit {w : List UInt8} (h : w ∈ codeUnit c.toNat) : Spells c (Utf8.encode ['\\', 'u'] ++ w)
  | pair {leading trailing : Nat} {v w : List UInt8} (hv : v ∈ codeUnit leading)
    (hw : w ∈ codeUnit trailing) (hleading : 0xD800 ≤ leading ∧ leading < 0xDC00)
    (htrailing : 0xDC00 ≤ trailing ∧ trailing < 0xE000)
    (h : c.toNat = 0x10000 + (leading - 0xD800) * 0x400 + (trailing - 0xDC00)) :
    Spells c (Utf8.encode ['\\', 'u'] ++ v ++ (Utf8.encode ['\\', 'u'] ++ w))

def character (c : Char) : Language UInt8 := {w | Spells c w}

def inside (cs : List Char) : Language UInt8 := (cs.map character).prod

def quoted (s : String) : Language UInt8 := word "\"" * inside s.toList * word "\""

/-! ## Values -/

/-- A text but for its blanks and the spelling of its strings. -/
inductive Source
  | null
  | bool (b : Bool)
  | number (l : Literal)
  | string (s : String)
  | array (items : List Source)
  | object (members : List (String × Source))

namespace Source

mutual

/-- The value that stands in a text. -/
def value : Source → Json
  | .null => .null
  | .bool b => .bool b
  | .number l => .number l.number
  | .string s => .string s
  | .array items => .array (itemValues items)
  | .object members => .object (memberValues members)

def itemValues : List Source → List Json
  | [] => []
  | d :: rest => d.value :: itemValues rest

def memberValues : List (String × Source) → List (String × Json)
  | [] => []
  | (k, d) :: rest => (k, d.value) :: memberValues rest

end

mutual

/-- The spellings, without blanks around them. -/
def spellings : Source → Language UInt8
  | .null => word "null"
  | .bool true => word "true"
  | .bool false => word "false"
  | .number l => {Utf8.encode l.text}
  | .string s => quoted s
  | .array items => word "[" * (itemSpellings items * (blanks * word "]"))
  | .object members => word "\x7b" * (memberSpellings members * (blanks * word "\x7d"))

/-- The items of an array, with commas between them. -/
def itemSpellings : List Source → Language UInt8
  | [] => 1
  | d :: rest => blanks * d.spellings * moreItemSpellings rest

/-- The items of an array, each with a comma in front. -/
def moreItemSpellings : List Source → Language UInt8
  | [] => 1
  | d :: rest => blanks * word "," * (blanks * d.spellings * moreItemSpellings rest)

/-- The members of an object, with commas between them. -/
def memberSpellings : List (String × Source) → Language UInt8
  | [] => 1
  | (k, d) :: rest =>
    blanks * quoted k * (blanks * word ":" * (blanks * d.spellings * moreMemberSpellings rest))

/-- The members of an object, each with a comma in front. -/
def moreMemberSpellings : List (String × Source) → Language UInt8
  | [] => 1
  | (k, d) :: rest =>
    blanks * word "," * (blanks * quoted k *
      (blanks * word ":" * (blanks * d.spellings * moreMemberSpellings rest)))

end

/-- The spellings of a whole text. -/
def text (d : Source) : Language UInt8 := blanks * d.spellings * blanks

end Source

/-! ## Numbers as objects -/

mutual

/-- What a value that stands in a text is read as. It is read as itself, but that an object which starts
with the reserved key is read as a number: the one that its only member, a string, writes. -/
inductive StandsFor : Json → Json → Prop
  | null : StandsFor .null .null
  | bool (b : Bool) : StandsFor (.bool b) (.bool b)
  | number (n : Number) : StandsFor (.number n) (.number n)
  | string (s : String) : StandsFor (.string s) (.string s)
  | array {items items' : List Json} (h : ItemsStandFor items items') :
    StandsFor (.array items) (.array items')
  | object {members members' : List (String × Json)}
    (hkey : (members.map Prod.fst).head? ≠ some numberKey) (h : MembersStandFor members members') :
    StandsFor (.object members) (.object members')
  | numeral (l : Literal) :
    StandsFor (.object [(numberKey, .string (String.ofList l.text))]) (.number l.number)

inductive ItemsStandFor : List Json → List Json → Prop
  | nil : ItemsStandFor [] []
  | cons {v v' : Json} {rest rest' : List Json} (hv : StandsFor v v') (h : ItemsStandFor rest rest') :
    ItemsStandFor (v :: rest) (v' :: rest')

inductive MembersStandFor : List (String × Json) → List (String × Json) → Prop
  | nil : MembersStandFor [] []
  | cons (k : String) {v v' : Json} {rest rest' : List (String × Json)} (hv : StandsFor v v')
    (h : MembersStandFor rest rest') : MembersStandFor ((k, v) :: rest) ((k, v') :: rest')

end

/-- The value that bytes write, in a text that nests no more containers than may be open at once. -/
def Writes (input : List UInt8) (v : Json) : Prop :=
  ∃ d : Source, d.value.depth ≤ 127 ∧ StandsFor d.value v ∧ input ∈ d.text

end MessageBus.Json
