import MessageBus.Proofs.Json.Numbers
/-!
# Reading decimal digits

A text of digits denotes a number, whatever its length and its leading zeros (`Denotes`). A list of digits
is read as what it denotes (`read?_eq_some_iff`), and a text may have a plus sign in front of it
(`parse?_eq_some_iff`); nothing else is read.
-/
namespace MessageBus.Digits
set_option autoImplicit false

/-! ## What digits denote -/

/-- A text of decimal digits, at least one, and the number that they write. -/
structure Denotes (text : List Char) (n : Nat) : Prop where
  nonempty : text ≠ []
  digits : ∀ c ∈ text, c.isDigit = true
  value : Nat.ofDigitChars 10 text 0 = n

theorem isDigit_char : ∀ d : Digit, d.char.isDigit = true := by decide

theorem ofChar_char : ∀ d : Digit, Digit.ofChar? d.char = some d := by decide

theorem char_of_ofChar? {c : Char} {d : Digit} (h : Digit.ofChar? c = some d) : c = d.char := by
  unfold Digit.ofChar? at h
  split at h
  · next hc =>
    cases h
    apply Char.toNat_inj.mp
    rw [Json.digit_char_toNat]
    change c.toNat = 48 + (c.toNat - 48)
    omega
  · cases h

theorem exists_digits {text : List Char} (h : ∀ c ∈ text, c.isDigit = true) :
    ∃ digits : List Digit, text = digits.map Digit.char := by
  induction text with
  | nil => exact ⟨[], rfl⟩
  | cons c text ih =>
    obtain ⟨hc, htext⟩ := List.forall_mem_cons.mp h
    obtain ⟨digits, rfl⟩ := ih htext
    have hrange : 48 ≤ c.toNat ∧ c.toNat ≤ 57 := Char.isDigit_iff_toNat.mp hc
    have hfound : Digit.ofChar? c = some ⟨c.toNat - 48, by omega⟩ := dif_pos hrange
    exact ⟨_ :: digits, by rw [List.map_cons, ← char_of_ofChar? hfound]⟩

theorem ofDigitChars_digits (digits : List Digit) (high : Nat) :
    Nat.ofDigitChars 10 (digits.map Digit.char) high = valueFrom high digits := by
  induction digits generalizing high with
  | nil => rfl
  | cons d digits ih =>
    have hdigit : d.char.toNat - '0'.toNat = d.val := by
      rw [Json.digit_char_toNat]
      exact Nat.add_sub_cancel_left 48 d.val
    rw [List.map_cons, Nat.ofDigitChars_cons, ih, valueFrom, hdigit, Nat.mul_comm]

theorem denotes_digits {digits : List Digit} (hne : digits ≠ []) :
    Denotes (digits.map Digit.char) (value digits) where
  nonempty := by simpa using hne
  digits := by
    intro c hc
    obtain ⟨d, -, rfl⟩ := List.mem_map.mp hc
    exact isDigit_char d
  value := ofDigitChars_digits digits 0

theorem valueFrom_append (digits more : List Digit) (high : Nat) :
    valueFrom high (digits ++ more) = valueFrom (valueFrom high digits) more := by
  induction digits generalizing high with
  | nil => rfl
  | cons d digits ih => exact ih _

theorem value_ofNat (n : Nat) : value (ofNat n) = n := by
  induction n using Nat.strongRecOn with
  | _ n ih =>
    rw [ofNat]
    split
    · exact Nat.zero_add n
    · have hfront : valueFrom 0 (ofNat (n / 10)) = n / 10 := ih (n / 10) (by omega)
      rw [value, valueFrom_append, hfront]
      exact Nat.div_add_mod' n 10

/-! ## Texts of digits -/

theorem takeChars_digits (digits : List Digit) : takeChars (digits.map Digit.char) = (digits, []) := by
  induction digits with
  | nil => rfl
  | cons d digits ih => rw [List.map_cons, takeChars, ofChar_char, ih]

theorem eq_of_takeChars (text : List Char) :
    text = (takeChars text).1.map Digit.char ++ (takeChars text).2 := by
  induction text with
  | nil => rfl
  | cons c text ih =>
    rw [takeChars]
    cases hc : Digit.ofChar? c with
    | none => rfl
    | some d => rw [List.map_cons, List.cons_append, ← char_of_ofChar? hc, ← ih]

/-- The value of a text of digits alone. -/
def read? (text : List Char) : Option Nat :=
  match takeChars text with
  | (d :: ds, []) => some (value (d :: ds))
  | _ => none

theorem read?_digits {digits : List Digit} (hne : digits ≠ []) :
    read? (digits.map Digit.char) = some (value digits) := by
  rw [read?, takeChars_digits]
  cases digits with
  | nil => exact absurd rfl hne
  | cons d ds => rfl

theorem read?_eq_some_iff {text : List Char} {n : Nat} : read? text = some n ↔ Denotes text n := by
  constructor
  · intro h
    unfold read? at h
    split at h
    · next d ds htake =>
      cases h
      have htext := eq_of_takeChars text
      rw [htake, List.append_nil] at htext
      rw [htext]
      exact denotes_digits (List.cons_ne_nil d ds)
    · cases h
  · rintro ⟨hne, hdigits, rfl⟩
    obtain ⟨digits, rfl⟩ := exists_digits hdigits
    rw [read?_digits fun hnil => hne (congrArg _ hnil), ofDigitChars_digits]
    rfl

theorem read?_eq_none {text : List Char} {c : Char} (h : c ∈ text) (hc : c.isDigit = false) :
    read? text = none := by
  refine Option.eq_none_iff_forall_ne_some.mpr fun n hn => ?_
  have hdigit := (read?_eq_some_iff.mp hn).digits c h
  rw [hc] at hdigit
  cases hdigit

theorem parse?_eq_some_iff {s : String} {n : Nat} :
    parse? s = some n ↔ ∃ digits, (s.toList = digits ∨ s.toList = '+' :: digits) ∧ Denotes digits n := by
  unfold parse?
  change read? _ = some n ↔ _
  rw [read?_eq_some_iff]
  split
  · next rest hs =>
    refine ⟨fun h => ⟨rest, .inr hs, h⟩, ?_⟩
    rintro ⟨digits, rfl | hdigits, h⟩
    · -- A plus sign is no digit.
      have hplus := h.digits '+' (by rw [hs]; exact List.mem_cons_self)
      exact absurd hplus (by decide)
    · rw [hs] at hdigits
      rwa [(List.cons.inj hdigits).2]
  · next rest hno =>
    refine ⟨fun h => ⟨_, .inl rfl, h⟩, ?_⟩
    rintro ⟨digits, rfl | hdigits, h⟩
    · exact h
    · exact absurd hdigits (hno digits)

theorem denotes_toDigits (n : Nat) : Denotes (Nat.toDigits 10 n) n where
  nonempty := Nat.toDigits_ne_nil
  digits := fun _ => Nat.isDigit_of_mem_toDigits (by decide) (by decide)
  value := Nat.ofDigitChars_ten_toDigits

end MessageBus.Digits
