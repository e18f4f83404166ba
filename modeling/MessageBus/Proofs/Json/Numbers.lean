import MessageBus.Json.Lexer
import MessageBus.Proofs.Json.Grammar
import MessageBus.Proofs.Text.Utf8
/-!
# Numbers against the grammar

A literal is read as its number if nothing that would make it longer follows (`scanNumber_magnitude`), and
whatever is read as a number is a literal of it (`scanNumber_literal`).
-/
namespace MessageBus.Json
set_option autoImplicit false

/-! ## Digits -/

/-- No digit stands at the front. -/
def NoDigit (input : List UInt8) : Prop := ∀ b ∈ input.head?, Digit.ofByte? b = none

theorem digit_char_toNat : ∀ d : Digit, d.char.toNat = 48 + d.val := by decide

theorem ofByte_char : ∀ d : Digit, Digit.ofByte? (UInt8.ofNat d.char.toNat) = some d := by decide

theorem encode_digit (d : Digit) : String.utf8EncodeChar d.char = [UInt8.ofNat d.char.toNat] := by
  have hd := digit_char_toNat d
  exact Utf8.encode_one (by omega)

theorem encode_digits (digits : List Digit) :
    Utf8.encode (digits.map Digit.char) = digits.map fun d => UInt8.ofNat d.char.toNat := by
  induction digits with
  | nil => rfl
  | cons d digits ih =>
    rw [List.map_cons, Utf8.encode_cons, encode_digit, ih]
    rfl

theorem byte_of_ofByte? {b : UInt8} {d : Digit} (h : Digit.ofByte? b = some d) :
    b = UInt8.ofNat d.char.toNat := by
  unfold Digit.ofByte? at h
  split at h
  · next hb =>
    cases h
    rw [digit_char_toNat]
    have hn : 48 + (b.toNat - 48) = b.toNat := by omega
    exact (Utf8.ofNat_eq_of_toNat_eq hn).symm
  · cases h

theorem takeBytes_digits (digits : List Digit) {rest : List UInt8} (h : NoDigit rest) :
    Digits.takeBytes (Utf8.encode (digits.map Digit.char) ++ rest) = (digits, rest) := by
  rw [encode_digits]
  induction digits with
  | nil =>
    cases rest with
    | nil => rfl
    | cons b rest =>
      rw [List.map_nil, List.nil_append, Digits.takeBytes, h b rfl]
  | cons d digits ih =>
    rw [List.map_cons, List.cons_append, Digits.takeBytes, ofByte_char, ih]

theorem eq_of_takeBytes (input : List UInt8) :
    input = Utf8.encode ((Digits.takeBytes input).1.map Digit.char) ++ (Digits.takeBytes input).2 := by
  induction input with
  | nil => rfl
  | cons b input ih =>
    rw [Digits.takeBytes]
    cases hb : Digit.ofByte? b with
    | none => rfl
    | some d =>
      simp only [List.map_cons, Utf8.encode_cons, encode_digit, List.cons_append, List.nil_append]
      rw [← byte_of_ofByte? hb, ← ih]

theorem scanDigits_digits {digits : List Digit} (hne : digits ≠ []) {rest : List UInt8}
    (h : NoDigit rest) :
    scanDigits (Utf8.encode (digits.map Digit.char) ++ rest) = .ok (⟨digits, hne⟩, rest) := by
  unfold scanDigits
  rw [takeBytes_digits digits h]
  cases digits with
  | nil => exact absurd rfl hne
  | cons d digits => rfl

theorem eq_of_scanDigits {input rest : List UInt8} {digits : { ds : List Digit // ds ≠ [] }}
    (h : scanDigits input = .ok (digits, rest)) :
    input = Utf8.encode (digits.val.map Digit.char) ++ rest := by
  have htake := eq_of_takeBytes input
  unfold scanDigits at h
  split at h
  · cases h
  · cases h
  · next hd =>
    cases h
    rw [hd] at htake
    exact htake

/-! ## Fractions -/

theorem fractionText_noDigit (digits : List Digit) {rest : List UInt8} (h : NoDigit rest) :
    NoDigit (Utf8.encode (Number.fractionText digits) ++ rest) := by
  cases digits with
  | nil => exact h
  | cons d digits =>
    intro b hb
    cases hb
    decide

theorem scanFraction_text (digits : List Digit) {rest : List UInt8} (h : NoDigit rest)
    (hpoint : ∀ b ∈ rest.head?, b ≠ 0x2E) :
    scanFraction (Utf8.encode (Number.fractionText digits) ++ rest) = .ok (digits, rest) := by
  cases digits with
  | nil =>
    cases rest with
    | nil => rfl
    | cons b rest =>
      have hb := hpoint b rfl
      simp [Number.fractionText, scanFraction, hb]
  | cons d digits =>
    have hbytes : Utf8.encode (Number.fractionText (d :: digits)) ++ rest =
        0x2E :: (Utf8.encode ((d :: digits).map Digit.char) ++ rest) := rfl
    rw [hbytes, scanFraction.eq_def]
    simp only [if_true, scanDigits_digits (List.cons_ne_nil d digits) h, bind, Except.bind, pure,
      Except.pure]

theorem eq_of_scanFraction {input rest : List UInt8} {digits : List Digit}
    (h : scanFraction input = .ok (digits, rest)) :
    input = Utf8.encode (Number.fractionText digits) ++ rest := by
  unfold scanFraction at h
  split at h
  · cases h
    rfl
  · next b tail =>
    split at h
    · next hb =>
      cases hd : scanDigits tail with
      | error f => simp [hd, bind, Except.bind] at h
      | ok p =>
        obtain ⟨⟨ds, hne⟩, rest'⟩ := p
        simp only [hd, bind, Except.bind, pure, Except.pure] at h
        cases h
        obtain ⟨d, ds, rfl⟩ := List.exists_cons_of_ne_nil hne
        rw [hb, eq_of_scanDigits hd]
        rfl
    · cases h
      rfl

/-! ## Exponents -/

theorem takeSign_text (s : Sign) (digits : List Digit) (hne : digits ≠ []) (rest : List UInt8) :
    takeSign (Utf8.encode (s.text ++ digits.map Digit.char) ++ rest) =
      (decide (s = .minus), Utf8.encode (digits.map Digit.char) ++ rest) := by
  cases s with
  | plus => rfl
  | minus => rfl
  | absent =>
    obtain ⟨d, digits, rfl⟩ := List.exists_cons_of_ne_nil hne
    have hd : ∀ d : Digit, UInt8.ofNat d.char.toNat ≠ 0x2D ∧ UInt8.ofNat d.char.toNat ≠ 0x2B := by decide
    simp only [Sign.text, List.nil_append, List.map_cons, Utf8.encode_cons, encode_digit,
      List.cons_append, takeSign, if_neg (hd d).1, if_neg (hd d).2]
    rfl

theorem eq_of_takeSign (input : List UInt8) :
    ∃ s : Sign, (takeSign input).1 = decide (s = .minus) ∧
      input = Utf8.encode s.text ++ (takeSign input).2 := by
  unfold takeSign
  split
  · exact ⟨.absent, rfl, rfl⟩
  · split
    · next hb => exact ⟨.minus, rfl, by rw [hb]; rfl⟩
    · split
      · next hb => exact ⟨.plus, rfl, by rw [hb]; rfl⟩
      · exact ⟨.absent, rfl, rfl⟩

/-- What may follow a number: nothing that would make it longer. -/
def EndsNumber (input : List UInt8) : Prop :=
  ∀ b ∈ input.head?, Digit.ofByte? b = none ∧ b ≠ 0x2E ∧ b ≠ 0x65 ∧ b ≠ 0x45

theorem EndsNumber.noDigit {input : List UInt8} (h : EndsNumber input) : NoDigit input :=
  fun b hb => (h b hb).1

def Power.marker (p : Power) : UInt8 := if p.capital then 0x45 else 0x65

theorem encode_power (p : Power) :
    Utf8.encode p.text = p.marker :: Utf8.encode (p.sign.text ++ p.digits.map Digit.char) := by
  unfold Power.text Power.marker
  cases p.capital with
  | true => rfl
  | false => rfl

theorem scanExponent_text (p : Option Power) {rest : List UInt8} (h : EndsNumber rest) :
    scanExponent (Utf8.encode (p.elim [] Power.text) ++ rest) = .ok (p.map Power.normal, rest) := by
  cases p with
  | none =>
    cases rest with
    | nil => rfl
    | cons b rest =>
      have hb := (h b rfl).2.2
      simp [scanExponent, hb]
  | some p =>
    have hb : (decide (p.marker = 0x65) || decide (p.marker = 0x45)) = true := by
      unfold Power.marker
      split <;> rfl
    rw [Option.elim_some, encode_power, List.cons_append, scanExponent.eq_def]
    simp only [hb, if_true, takeSign_text p.sign p.digits p.digits_ne_nil,
      scanDigits_digits p.digits_ne_nil h.noDigit, bind, Except.bind, pure, Except.pure]
    rfl

theorem eq_of_scanExponent {input rest : List UInt8} {e : Option Exponent}
    (h : scanExponent input = .ok (e, rest)) :
    ∃ p : Option Power, p.map Power.normal = e ∧ input = Utf8.encode (p.elim [] Power.text) ++ rest := by
  unfold scanExponent at h
  split at h
  · cases h
    exact ⟨none, rfl, rfl⟩
  · next b tail =>
    split at h
    · next hb =>
      obtain ⟨s, hs, htail⟩ := eq_of_takeSign tail
      cases hd : scanDigits (takeSign tail).2 with
      | error f => simp [hd, bind, Except.bind] at h
      | ok q =>
        obtain ⟨⟨ds, hne⟩, rest'⟩ := q
        simp only [hd, bind, Except.bind, pure, Except.pure] at h
        cases h
        rw [hs]
        refine ⟨some ⟨b = 0x45, s, ds, hne⟩, rfl, ?_⟩
        have hmarker : (if decide (b = 0x45) then 0x45 else 0x65) = b := by
          simp only [Bool.or_eq_true, decide_eq_true_eq] at hb
          rcases hb with rfl | rfl
          · rfl
          · rfl
        rw [Option.elim_some, encode_power, Power.marker, hmarker, htail, eq_of_scanDigits hd,
          Utf8.encode_append, List.cons_append, List.append_assoc]
    · cases h
      exact ⟨none, rfl, rfl⟩

theorem power_ends (p : Option Power) {rest : List UInt8} (h : EndsNumber rest) :
    NoDigit (Utf8.encode (p.elim [] Power.text) ++ rest) ∧
      ∀ b ∈ (Utf8.encode (p.elim [] Power.text) ++ rest).head?, b ≠ 0x2E := by
  cases p with
  | none => exact ⟨h.noDigit, fun b hb => (h b hb).2.1⟩
  | some p =>
    have hmarker : Digit.ofByte? p.marker = none ∧ p.marker ≠ 0x2E := by
      unfold Power.marker
      split <;> decide
    rw [Option.elim_some, encode_power]
    constructor
    · intro b hb
      cases hb
      exact hmarker.1
    · intro b hb
      cases hb
      exact hmarker.2

/-! ## Numbers -/

/-- A literal without its sign. -/
def Literal.magnitude (l : Literal) : List Char :=
  l.whole.map Digit.char ++ (Number.fractionText l.fraction ++ l.power.elim [] Power.text)

theorem Literal.text_eq (l : Literal) : l.text = (if l.negative then ['-'] else []) ++ l.magnitude := by
  simp [Literal.text, Literal.mantissa, Literal.magnitude]

theorem Literal.whole_ne_nil (l : Literal) : l.whole ≠ [] := by
  intro h
  have hplain := l.whole_plain
  rw [h] at hplain
  cases hplain

theorem scanNumber_magnitude (l : Literal) {rest : List UInt8} (h : EndsNumber rest) :
    scanNumber l.negative (Utf8.encode l.magnitude ++ rest) = .ok (l.number, rest) := by
  obtain ⟨hdigit, hpoint⟩ := power_ends l.power h
  have hwhole := scanDigits_digits l.whole_ne_nil (fractionText_noDigit l.fraction hdigit)
  have hfraction := scanFraction_text l.fraction hdigit hpoint
  rw [Literal.magnitude, Utf8.encode_append, Utf8.encode_append, List.append_assoc, List.append_assoc,
    scanNumber, hwhole]
  simp only [bind, Except.bind, dif_pos l.whole_plain, hfraction, scanExponent_text l.power h, pure,
    Except.pure]
  rfl

theorem scanNumber_literal {negative : Bool} {input rest : List UInt8} {n : Number}
    (h : scanNumber negative input = .ok (n, rest)) :
    ∃ l : Literal, l.number = n ∧ l.negative = negative ∧ input = Utf8.encode l.magnitude ++ rest := by
  unfold scanNumber at h
  cases hw : scanDigits input with
  | error f => simp [hw, bind, Except.bind] at h
  | ok w =>
    simp only [hw, bind, Except.bind] at h
    split at h
    · next hplain =>
      cases hf : scanFraction w.2 with
      | error f => simp [hf] at h
      | ok f =>
        simp only [hf] at h
        cases he : scanExponent f.2 with
        | error f => simp [he] at h
        | ok e =>
          simp only [he, pure, Except.pure] at h
          cases h
          obtain ⟨p, hp, htail⟩ := eq_of_scanExponent he
          refine ⟨⟨negative, w.1.val, f.1, p, hplain⟩, ?_, rfl, ?_⟩
          · rw [Literal.number, hp]
          · rw [eq_of_scanDigits hw, eq_of_scanFraction hf, htail]
            simp [Literal.magnitude, Utf8.encode_append]
    · cases h

end MessageBus.Json
