import MessageBus.Json.Fault
import MessageBus.Json.Token
/-!
# Reading JSON tokens

`lex` cuts a byte sequence into tokens. It stops at the first byte that starts no token, or at the
first token that breaks off, and leaves a `Lexeme.fault` there; whether that fault is the text's first
one depends on what was allowed at its place, which `Json.parse` decides.
-/
namespace MessageBus.Json
set_option autoImplicit false

/-- A token, or the fault found where one should be; `quoted` if it lies inside a string. -/
inductive Lexeme
  | token (t : Token)
  | fault (f : Fault) (quoted : Bool)
deriving DecidableEq

def isBlank (b : UInt8) : Bool := b = 0x20 || b = 0x09 || b = 0x0A || b = 0x0D

/-! ## Literals and numbers -/

/-- The rest of the input after the bytes `word`. -/
def scanWord : List UInt8 → List UInt8 → Except Fault (List UInt8)
  | [], input => .ok input
  | _ :: _, [] => .error .endInValue
  | w :: word, b :: input => if b = w then scanWord word input else .error .literalExpected

/-- One digit at least. -/
def scanDigits (input : List UInt8) : Except Fault ({ ds : List Digit // ds ≠ [] } × List UInt8) :=
  match Digits.takeBytes input with
  | ([], []) => .error .endInValue
  | ([], _ :: _) => .error .invalidNumber
  | (d :: ds, rest) => .ok (⟨d :: ds, List.cons_ne_nil _ _⟩, rest)

def scanFraction : List UInt8 → Except Fault (List Digit × List UInt8)
  | [] => .ok ([], [])
  | b :: rest =>
    if b = 0x2E then do
      let (digits, rest) ← scanDigits rest
      return (digits.val, rest)
    else .ok ([], b :: rest)

/-- A sign: `true` for a minus. -/
def takeSign : List UInt8 → Bool × List UInt8
  | [] => (false, [])
  | b :: rest =>
    if b = 0x2D then (true, rest)
    else if b = 0x2B then (false, rest)
    else (false, b :: rest)

def scanExponent : List UInt8 → Except Fault (Option Exponent × List UInt8)
  | [] => .ok (none, [])
  | b :: rest =>
    if b = 0x65 || b = 0x45 then do
      let (negative, rest) := takeSign rest
      let (digits, rest) ← scanDigits rest
      return (some ⟨negative, digits.val, digits.property⟩, rest)
    else .ok (none, b :: rest)

/-- A number after its sign. A zero keeps a minus: `-0` is another number than `0`. -/
def scanNumber (negative : Bool) (input : List UInt8) : Except Fault (Number × List UInt8) := do
  let (whole, rest) ← scanDigits input
  if h : Digits.isPlain whole.val = true then
    let (fraction, rest) ← scanFraction rest
    let (exponent, rest) ← scanExponent rest
    return (⟨negative, whole.val, fraction, exponent, h⟩, rest)
  else .error .invalidNumber

/-- A minus, if one stands at the front. -/
def takeMinus : List UInt8 → Bool × List UInt8
  | [] => (false, [])
  | b :: rest => if b = 0x2D then (true, rest) else (false, b :: rest)

/-- The number that a text writes with nothing around it. -/
def numeral? (text : String) : Except Fault Number := do
  let (negative, digits) := takeMinus (Utf8.bytes text)
  let (n, rest) ← scanNumber negative digits
  if rest.isEmpty then return n else throw .invalidNumber

/-! ## Strings -/

def hexValue? (b : UInt8) : Option Nat :=
  if 0x30 ≤ b && b ≤ 0x39 then some (b.toNat - 0x30)
  else if 0x61 ≤ b && b ≤ 0x66 then some (b.toNat - 0x57)
  else if 0x41 ≤ b && b ≤ 0x46 then some (b.toNat - 0x37)
  else none

/-- The code unit that four hexadecimal digits write. -/
def hexUnit? (a b c d : UInt8) : Option Nat := do
  return (← hexValue? a) * 4096 + (← hexValue? b) * 256 + (← hexValue? c) * 16 + (← hexValue? d)

def isLeading (unit : Nat) : Bool := 0xD800 ≤ unit && unit ≤ 0xDBFF

def isTrailing (unit : Nat) : Bool := 0xDC00 ≤ unit && unit ≤ 0xDFFF

/-- The character that a pair of surrogates stands for. -/
def pairChar (leading trailing : Nat) : Char :=
  Char.ofNat ((leading - 0xD800) * 1024 + (trailing - 0xDC00) + 0x10000)

/-- What a backslash and this byte stand for, `u` apart. -/
def shortUnescape? (b : UInt8) : Option UInt8 :=
  if b = 0x22 || b = 0x5C || b = 0x2F then some b
  else if b = 0x62 then some 0x08
  else if b = 0x66 then some 0x0C
  else if b = 0x6E then some 0x0A
  else if b = 0x72 then some 0x0D
  else if b = 0x74 then some 0x09
  else none

/-- Puts bytes in front of those that the rest of a string stands for. -/
def withBytes (front : List UInt8) (r : Except Fault (List UInt8 × List UInt8)) :
    Except Fault (List UInt8 × List UInt8) :=
  match r with
  | .ok (more, rest) => .ok (front ++ more, rest)
  | .error f => .error f

/-- The bytes that the inside of a string stands for, up to its closing quote, and what follows. -/
def scanString : List UInt8 → Except Fault (List UInt8 × List UInt8)
  | [] => .error .endInString
  | b :: rest =>
    if b = 0x22 then .ok ([], rest)
    else if b < 0x20 then .error .controlCharacter
    else if b ≠ 0x5C then withBytes [b] (scanString rest)
    else match rest with
      | [] => .error .endInString
      | e :: rest =>
        if e ≠ 0x75 then
          match shortUnescape? e with
          | some c => withBytes [c] (scanString rest)
          | none => .error .invalidEscape
        else match rest with
          | h₁ :: h₂ :: h₃ :: h₄ :: rest =>
            match hexUnit? h₁ h₂ h₃ h₄ with
            | none => .error .invalidEscape
            | some unit =>
              if isTrailing unit then .error .loneSurrogate
              else if !isLeading unit then
                withBytes (String.utf8EncodeChar (Char.ofNat unit)) (scanString rest)
              else match rest with
                | [] => .error .endInString
                | b :: rest =>
                  if b ≠ 0x5C then .error .unpairedSurrogate
                  else match rest with
                    | [] => .error .endInString
                    | u :: rest =>
                      if u ≠ 0x75 then .error .unpairedSurrogate
                      else match rest with
                        | h₁ :: h₂ :: h₃ :: h₄ :: rest =>
                          match hexUnit? h₁ h₂ h₃ h₄ with
                          | none => .error .invalidEscape
                          | some unit' =>
                            if isTrailing unit' then
                              withBytes (String.utf8EncodeChar (pairChar unit unit'))
                                (scanString rest)
                            else .error .loneSurrogate
                        | _ => .error .endInString
          | _ => .error .endInString

/-- A string after its opening quote. -/
def scanQuoted (input : List UInt8) : Except Fault (String × List UInt8) := do
  let (inside, rest) ← scanString input
  match Utf8.text inside with
  | .ok s => return (s, rest)
  | .error _ => throw .notUtf8

/-! ## Tokens -/

def punctuation? (b : UInt8) : Option Token :=
  if b = 0x7B then some .openBrace
  else if b = 0x7D then some .closeBrace
  else if b = 0x5B then some .openBracket
  else if b = 0x5D then some .closeBracket
  else if b = 0x3A then some .colon
  else if b = 0x2C then some .comma
  else none

/-- The token that starts with byte `b`, and what follows it. -/
def scanToken (b : UInt8) (input : List UInt8) : Except Fault (Token × List UInt8) :=
  match punctuation? b with
  | some t => .ok (t, input)
  | none =>
    if b = 0x22 then (fun p => (.string p.1, p.2)) <$> scanQuoted input
    else if b = 0x6E then (fun rest => (.null, rest)) <$> scanWord [0x75, 0x6C, 0x6C] input
    else if b = 0x74 then (fun rest => (.bool true, rest)) <$> scanWord [0x72, 0x75, 0x65] input
    else if b = 0x66 then
      (fun rest => (.bool false, rest)) <$> scanWord [0x61, 0x6C, 0x73, 0x65] input
    else if b = 0x2D then (fun p => (.number p.1, p.2)) <$> scanNumber true input
    else if (Digit.ofByte? b).isSome then
      (fun p => (.number p.1, p.2)) <$> scanNumber false (b :: input)
    else .error .valueExpected

/-! ## Every token takes a byte at least -/

theorem scanWord_length {word input rest : List UInt8} (h : scanWord word input = .ok rest) :
    rest.length ≤ input.length := by
  fun_induction scanWord word input with
  | case1 input => cases h; exact Nat.le_refl _
  | case2 => cases h
  | case3 w word input ih => exact Nat.le_succ_of_le (ih h)
  | case4 => cases h

theorem scanDigits_length {input rest : List UInt8} {digits : { ds : List Digit // ds ≠ [] }}
    (h : scanDigits input = .ok (digits, rest)) : rest.length < input.length := by
  unfold scanDigits at h
  match input with
  | [] => simp [Digits.takeBytes] at h
  | b :: input =>
    have hlen := Digits.takeBytes_length input
    rw [Digits.takeBytes] at h
    cases hb : Digit.ofByte? b with
    | none => simp [hb] at h
    | some d =>
      simp only [hb] at h
      cases h
      exact Nat.lt_succ_of_le hlen

theorem scanFraction_length {input rest : List UInt8} {digits : List Digit}
    (h : scanFraction input = .ok (digits, rest)) : rest.length ≤ input.length := by
  unfold scanFraction at h
  split at h
  · cases h; exact Nat.le_refl _
  next b tail =>
    split at h
    · cases hd : scanDigits tail with
      | error f => simp [hd, bind, Except.bind] at h
      | ok p =>
        simp only [hd, bind, Except.bind, pure, Except.pure, Except.ok.injEq, Prod.mk.injEq] at h
        have := scanDigits_length hd
        rw [h.2] at this
        simp only [List.length_cons]
        omega
    · cases h; exact Nat.le_refl _

theorem takeSign_length (input : List UInt8) : (takeSign input).2.length ≤ input.length := by
  unfold takeSign
  split
  · exact Nat.le_refl _
  · split
    · exact Nat.le_succ _
    · split
      · exact Nat.le_succ _
      · exact Nat.le_refl _

theorem scanExponent_length {input rest : List UInt8} {exponent : Option Exponent}
    (h : scanExponent input = .ok (exponent, rest)) : rest.length ≤ input.length := by
  unfold scanExponent at h
  split at h
  · cases h; exact Nat.le_refl _
  next b tail =>
    split at h
    · cases hd : scanDigits (takeSign tail).2 with
      | error f => simp [hd, bind, Except.bind] at h
      | ok p =>
        simp only [hd, bind, Except.bind, pure, Except.pure, Except.ok.injEq, Prod.mk.injEq] at h
        have hs := takeSign_length tail
        have := scanDigits_length hd
        rw [h.2] at this
        simp only [List.length_cons]
        omega
    · cases h; exact Nat.le_refl _

theorem scanNumber_length {negative : Bool} {input rest : List UInt8} {n : Number}
    (h : scanNumber negative input = .ok (n, rest)) : rest.length < input.length := by
  unfold scanNumber at h
  cases hw : scanDigits input with
  | error f => simp [hw, bind, Except.bind] at h
  | ok w =>
    simp only [hw, bind, Except.bind] at h
    split at h
    · cases hf : scanFraction w.2 with
      | error f => simp [hf] at h
      | ok f =>
        simp only [hf] at h
        cases he : scanExponent f.2 with
        | error f => simp [he] at h
        | ok e =>
          simp only [he, pure, Except.pure, Except.ok.injEq, Prod.mk.injEq] at h
          have h₁ := scanDigits_length hw
          have h₂ := scanFraction_length hf
          have h₃ := scanExponent_length he
          rw [h.2] at h₃
          omega
    · cases h

theorem withBytes_eq_ok {front more rest : List UInt8}
    {r : Except Fault (List UInt8 × List UInt8)} (h : withBytes front r = .ok (more, rest)) :
    ∃ tail, more = front ++ tail ∧ r = .ok (tail, rest) := by
  unfold withBytes at h
  split at h
  · cases h; exact ⟨_, rfl, rfl⟩
  · cases h

theorem scanString_length {input inside rest : List UInt8}
    (h : scanString input = .ok (inside, rest)) : rest.length < input.length := by
  fun_induction scanString input generalizing inside <;> try cases h
  case case2 => exact Nat.lt_succ_self _
  all_goals
    obtain ⟨tail, -, h'⟩ := withBytes_eq_ok h
    rename_i ih
    have := ih h'
    simp only [List.length_cons]
    omega

theorem scanQuoted_length {input rest : List UInt8} {s : String}
    (h : scanQuoted input = .ok (s, rest)) : rest.length < input.length := by
  unfold scanQuoted at h
  cases hs : scanString input with
  | error f => simp [hs, bind, Except.bind] at h
  | ok p =>
    simp only [hs, bind, Except.bind] at h
    split at h
    · cases h; exact scanString_length hs
    · cases h

theorem map_eq_ok {ε α β : Type} {f : α → β} {r : Except ε α} {b : β} (h : f <$> r = .ok b) :
    ∃ a, r = .ok a ∧ f a = b := by
  cases r with
  | error e => cases h
  | ok a => cases h; exact ⟨a, rfl, rfl⟩

theorem scanToken_length {b : UInt8} {input rest : List UInt8} {t : Token}
    (h : scanToken b input = .ok (t, rest)) : rest.length ≤ input.length := by
  unfold scanToken at h
  split at h
  · cases h; exact Nat.le_refl _
  · split at h
    · obtain ⟨p, hp, e⟩ := map_eq_ok h
      cases e
      exact Nat.le_of_lt (scanQuoted_length hp)
    · split at h
      · obtain ⟨p, hp, e⟩ := map_eq_ok h
        cases e
        exact scanWord_length hp
      · split at h
        · obtain ⟨p, hp, e⟩ := map_eq_ok h
          cases e
          exact scanWord_length hp
        · split at h
          · obtain ⟨p, hp, e⟩ := map_eq_ok h
            cases e
            exact scanWord_length hp
          · split at h
            · obtain ⟨p, hp, e⟩ := map_eq_ok h
              cases e
              exact Nat.le_of_lt (scanNumber_length hp)
            · split at h
              · obtain ⟨p, hp, e⟩ := map_eq_ok h
                cases e
                exact Nat.le_of_lt_succ (scanNumber_length hp)
              · cases h

/-! ## The tokens of a text -/

/-- The tokens of a byte sequence, up to its end or to the first fault. -/
def lex : List UInt8 → List Lexeme
  | [] => []
  | b :: rest =>
    if isBlank b then lex rest
    else match h : scanToken b rest with
      | .ok (t, tail) =>
        have : tail.length ≤ rest.length := scanToken_length h
        .token t :: lex tail
      | .error f => [.fault f (b = 0x22)]
termination_by input => input.length
decreasing_by
  · exact Nat.lt_succ_self _
  · exact Nat.lt_succ_of_le this

end MessageBus.Json
