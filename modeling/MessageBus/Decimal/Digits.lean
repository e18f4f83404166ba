/-!
# Decimal digits

Lists of decimal digits, most significant first: their value, the digits of a number without leading
zeros, and the characters and bytes they are written with.
-/
namespace MessageBus
set_option autoImplicit false

abbrev Digit := Fin 10

namespace Digit

def ofByte? (b : UInt8) : Option Digit :=
  if h : 48 ≤ b.toNat ∧ b.toNat ≤ 57 then some ⟨b.toNat - 48, by omega⟩ else none

def char (d : Digit) : Char := Char.ofNat (48 + d.val)

/-- Reads an ASCII digit; no other script's digits count. -/
def ofChar? (c : Char) : Option Digit :=
  if h : 48 ≤ c.toNat ∧ c.toNat ≤ 57 then some ⟨c.toNat - 48, by omega⟩ else none

end Digit

namespace Digits

/-- The value of a digit list read after the value `high`. -/
def valueFrom (high : Nat) : List Digit → Nat
  | [] => high
  | d :: rest => valueFrom (high * 10 + d.val) rest

/-- The number a digit list denotes; the empty list denotes zero. -/
def value (digits : List Digit) : Nat := valueFrom 0 digits

/-- The digits of a number, without leading zeros; zero is one digit. -/
def ofNat (n : Nat) : List Digit :=
  if h : n < 10 then [⟨n, h⟩]
  else ofNat (n / 10) ++ [⟨n % 10, Nat.mod_lt _ (by decide)⟩]

/-- A digit string in lowest form: not empty, and no zero in front of another digit. -/
def isPlain : List Digit → Bool
  | [] => false
  | [_] => true
  | d :: _ :: _ => d != 0

theorem isPlain_append {digits : List Digit} (more : List Digit)
    (h : isPlain digits = true) (positive : digits ≠ [0]) : isPlain (digits ++ more) = true := by
  match digits, more with
  | [d], [] => rfl
  | [d], _ :: _ =>
    have hd : d ≠ 0 := fun e => positive (by rw [e])
    simpa [isPlain] using hd
  | d :: _ :: _, _ => simpa [isPlain] using h

theorem ofNat_ne_nil (n : Nat) : ofNat n ≠ [] := by
  rw [ofNat]
  split <;> simp

theorem ofNat_ne_zero {n : Nat} (h : 0 < n) : ofNat n ≠ [0] := by
  rw [ofNat]
  split
  · intro e
    injection e with e
    have := congrArg Fin.val e
    simp at this
    omega
  · intro e
    have hl := congrArg List.length e
    simp [ofNat_ne_nil] at hl

theorem isPlain_ofNat (n : Nat) : isPlain (ofNat n) = true := by
  induction n using Nat.strongRecOn with
  | _ n ih =>
    rw [ofNat]
    split
    next => rfl
    next h => exact isPlain_append _ (ih _ (by omega)) (ofNat_ne_zero (by omega))

/-- The leading digits of a byte sequence, and what follows them. -/
def takeBytes : List UInt8 → List Digit × List UInt8
  | [] => ([], [])
  | b :: rest =>
    match Digit.ofByte? b with
    | some d => let (digits, rest) := takeBytes rest; (d :: digits, rest)
    | none => ([], b :: rest)

/-- The leading digits of a text, and what follows them. -/
def takeChars : List Char → List Digit × List Char
  | [] => ([], [])
  | c :: rest =>
    match Digit.ofChar? c with
    | some d => let (digits, rest) := takeChars rest; (d :: digits, rest)
    | none => ([], c :: rest)

/-- The value of a text of ASCII digits, at least one, after an optional plus sign. -/
def parse? (text : String) : Option Nat :=
  let digits := match text.toList with
    | '+' :: rest => rest
    | rest => rest
  match takeChars digits with
  | (d :: ds, []) => some (value (d :: ds))
  | _ => none

theorem takeBytes_length (input : List UInt8) : (takeBytes input).2.length ≤ input.length := by
  induction input with
  | nil => simp [takeBytes]
  | cons b rest ih =>
    rw [takeBytes]
    split
    · simp only [List.length_cons]; omega
    · simp

end Digits
end MessageBus
