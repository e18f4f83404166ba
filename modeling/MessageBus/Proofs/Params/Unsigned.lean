import MessageBus.Proofs.Decimal.Reading
import MessageBus.Proofs.Envelope.RoundTrip
/-!
# Unsigned integers in parameters

`unsigned_exact`: an unsigned integer is read from parameters exactly if decimal digits alone write it, in
a number or in a string, there also behind a plus sign, and it is less than 2 ^ 64, however many digits
there are. What was read is read again behind the wire, if the parameters nest no deeper than may be sent.
-/
namespace MessageBus
set_option autoImplicit false

/-! ## Numbers -/

namespace Json.Number

/-- A number is unsigned if its text has nothing but digits: no minus, no point and no exponent. -/
theorem toNat?_eq (m : Number) : m.toNat? = Digits.read? m.text := by
  obtain ⟨negative, whole, fraction, exponent, hplain⟩ := m
  match negative, fraction, exponent with
  | true, _, _ => exact (Digits.read?_eq_none (by simp [text]) (by decide : '-'.isDigit = false)).symm
  | false, _ :: _, _ =>
    exact (Digits.read?_eq_none (by simp [text, fractionText]) (by decide : '.'.isDigit = false)).symm
  | false, [], some _ =>
    exact (Digits.read?_eq_none (by simp [text, exponentText]) (by decide : 'e'.isDigit = false)).symm
  | false, [], none =>
    have hne : whole ≠ [] := by
      rintro rfl
      cases hplain
    have htext : text ⟨false, whole, [], none, hplain⟩ = whole.map Digit.char := by
      simp [text, fractionText, exponentText]
    rw [htext, Digits.read?_digits hne]
    rfl

theorem toNat?_ofNat (n : Nat) : (ofNat n).toNat? = some n := congrArg some (Digits.value_ofNat n)

end Json.Number

/-! ## Values -/

namespace Json

/-- A value writes a number with decimal digits alone; a string may have a plus sign in front of them. -/
def Denotes : Json → Nat → Prop
  | .number m, n => Digits.Denotes m.text n
  | .string s, n => ∃ digits, (s.toList = digits ∨ s.toList = '+' :: digits) ∧ Digits.Denotes digits n
  | _, _ => False

/-- The number that a value writes. -/
def unsigned? : Json → Option Nat
  | .number m => m.toNat?
  | .string s => Digits.parse? s
  | _ => none

theorem unsigned?_eq_some_iff {v : Json} {n : Nat} : v.unsigned? = some n ↔ v.Denotes n := by
  cases v with
  | number m =>
    change m.toNat? = some n ↔ _
    rw [Number.toNat?_eq]
    exact Digits.read?_eq_some_iff
  | string s => exact Digits.parse?_eq_some_iff
  | null | bool _ | array _ | object _ => exact ⟨nofun, nofun⟩

theorem Denotes.unique {v : Json} {m n : Nat} (hm : v.Denotes m) (hn : v.Denotes n) : m = n :=
  Option.some.inj ((unsigned?_eq_some_iff.mpr hm).symm.trans (unsigned?_eq_some_iff.mpr hn))

theorem denotes_ofNat (n : Nat) : (Json.number (.ofNat n)).Denotes n :=
  unsigned?_eq_some_iff.mp (Number.toNat?_ofNat n)

theorem denotes_toString (n : Nat) : (Json.string (toString n)).Denotes n := by
  refine ⟨Nat.toDigits 10 n, .inl ?_, Digits.denotes_toDigits n⟩
  rw [Nat.toString_eq_ofList_toDigits, String.toList_ofList]

end Json

/-! ## Parameters -/

namespace Params
variable {p : Params} {key : String} {n : Nat}

theorem getUnsigned_of_get? {v : Json} (h : p.get? key = some v) :
    p.getUnsigned key = match v.unsigned? with
      | some n => if n < 2 ^ 64 then .ok n else .error (.invalidType key .unsigned)
      | none => .error (.invalidType key .unsigned) := by
  have hrequire : p.require key = .ok v := by rw [require, h]
  rw [getUnsigned, hrequire]
  rfl

theorem getUnsigned_missing (h : p.get? key = none) : p.getUnsigned key = .error (.missing key) := by
  have hrequire : p.require key = .error (.missing key) := by rw [require, h]
  rw [getUnsigned, hrequire]
  rfl

/-- What there is to say of a key: it is absent, or its value writes a number that fits, or none. -/
theorem getUnsigned_cases (p : Params) (key : String) :
    p.get? key = none ∧ p.getUnsigned key = .error (.missing key) ∨
    ∃ v, p.get? key = some v ∧
      ((∃ n, n < 2 ^ 64 ∧ v.Denotes n ∧ p.getUnsigned key = .ok n) ∨
        (∀ n, v.Denotes n → 2 ^ 64 ≤ n) ∧ p.getUnsigned key = .error (.invalidType key .unsigned)) := by
  cases hget : p.get? key with
  | none => exact .inl ⟨rfl, getUnsigned_missing hget⟩
  | some v =>
    refine .inr ⟨v, rfl, ?_⟩
    rw [getUnsigned_of_get? hget]
    cases hv : v.unsigned? with
    | none =>
      have hno : ∀ n, ¬ v.Denotes n := fun n hn => by
        rw [Json.unsigned?_eq_some_iff.mpr hn] at hv
        cases hv
      exact .inr ⟨fun n hn => absurd hn (hno n), rfl⟩
    | some n =>
      have hn := Json.unsigned?_eq_some_iff.mp hv
      by_cases hfits : n < 2 ^ 64
      · exact .inl ⟨n, hfits, hn, if_pos hfits⟩
      · exact .inr ⟨fun m hm => hm.unique hn ▸ Nat.le_of_not_lt hfits, if_neg hfits⟩

theorem getUnsigned_eq_ok_iff :
    p.getUnsigned key = .ok n ↔ n < 2 ^ 64 ∧ ∃ v, p.get? key = some v ∧ v.Denotes n := by
  obtain ⟨hget, hread⟩ | ⟨v, hget, ⟨m, hm, hv, hread⟩ | ⟨hlarge, hread⟩⟩ := p.getUnsigned_cases key
  · rw [hread, hget]
    exact ⟨nofun, nofun⟩
  · rw [hread, hget]
    constructor
    · intro h
      cases h
      exact ⟨hm, v, rfl, hv⟩
    · rintro ⟨-, w, hw, hn⟩
      cases hw
      rw [hv.unique hn]
  · rw [hread, hget]
    refine ⟨nofun, ?_⟩
    rintro ⟨hn, w, hw, hwrites⟩
    cases hw
    exact absurd hn (Nat.not_lt.mpr (hlarge n hwrites))

theorem getUnsigned_eq_missing_iff : p.getUnsigned key = .error (.missing key) ↔ p.get? key = none := by
  obtain ⟨hget, hread⟩ | ⟨v, hget, ⟨m, -, -, hread⟩ | ⟨-, hread⟩⟩ := p.getUnsigned_cases key
  · exact ⟨fun _ => hget, fun _ => hread⟩
  · rw [hread, hget]
    exact ⟨nofun, nofun⟩
  · rw [hread, hget]
    exact ⟨nofun, nofun⟩

theorem getUnsigned_eq_invalid_iff : p.getUnsigned key = .error (.invalidType key .unsigned) ↔
    ∃ v, p.get? key = some v ∧ ∀ n, v.Denotes n → 2 ^ 64 ≤ n := by
  obtain ⟨hget, hread⟩ | ⟨v, hget, ⟨m, hm, hv, hread⟩ | ⟨hlarge, hread⟩⟩ := p.getUnsigned_cases key
  · rw [hread, hget]
    exact ⟨nofun, nofun⟩
  · rw [hread, hget]
    refine ⟨nofun, ?_⟩
    rintro ⟨w, hw, hlarge⟩
    cases hw
    exact absurd hm (Nat.not_lt.mpr (hlarge m hv))
  · exact ⟨fun _ => ⟨v, hget, hlarge⟩, fun _ => hread⟩

/-- What is put under a key is read there if it writes a number that fits. -/
theorem getUnsigned_insert {v : Json} (hn : n < 2 ^ 64) (hv : v.canonical.Denotes n) :
    (p.insert key v).getUnsigned key = .ok n :=
  getUnsigned_eq_ok_iff.mpr ⟨hn, v.canonical, by rw [get?_insert, if_pos rfl], hv⟩

/-- An unsigned integer is read exactly where decimal digits write one below 2 ^ 64, a key is missing exactly
if it is absent, and in every other case the value is refused, whatever its length. What was read is read
again from the encoded request if a message carries the parameters; where they nest too deep for that, the
request is not decoded at all. And every number below 2 ^ 64 is read where it was put, as a number or as a
string. -/
theorem unsigned_exact (p : Params) (key : String) :
    (∀ n, p.getUnsigned key = .ok n ↔ n < 2 ^ 64 ∧ ∃ v, p.get? key = some v ∧ v.Denotes n) ∧
    (p.getUnsigned key = .error (.missing key) ↔ p.get? key = none) ∧
    (p.getUnsigned key = .error (.invalidType key .unsigned) ↔
      ∃ v, p.get? key = some v ∧ ∀ n, v.Denotes n → 2 ^ 64 ≤ n) ∧
    (∀ n command, p.getUnsigned key = .ok n →
      (p.Carried → ∃ r, Request.decode (Request.encode ⟨command, p⟩) = .ok r ∧
        r.params.getUnsigned key = .ok n) ∧
      (126 < p.depth →
        (∃ fault, Request.decode (Request.encode ⟨command, p⟩) = .error (.malformed fault)) ∧
        (p.Plain → Request.decode (Request.encode ⟨command, p⟩) = .error (.malformed .tooDeep)))) ∧
    ∀ n, n < 2 ^ 64 → (p.insert key (.number (.ofNat n))).getUnsigned key = .ok n ∧
      (p.insert key (.string (toString n))).getUnsigned key = .ok n := by
  refine ⟨fun n => getUnsigned_eq_ok_iff, getUnsigned_eq_missing_iff, getUnsigned_eq_invalid_iff,
    fun n command hread => ?_, fun n hn => ?_⟩
  · refine ⟨fun hp => ⟨⟨command, p⟩, Request.decode_carried hp, hread⟩, fun hdeep =>
      ⟨Request.decode_deep hdeep, fun hp => ?_⟩⟩
    rw [Request.decode_encode hp, if_neg (Nat.not_le.mpr hdeep)]
  · exact ⟨getUnsigned_insert hn (Json.denotes_ofNat n), getUnsigned_insert hn (Json.denotes_toString n)⟩

/-- The largest number, written in a string with a plus sign and a leading zero. -/
theorem unsigned_exact_largest :
    let p := Params.empty.insert "block" (.string "+018446744073709551615")
    p.getUnsigned "block" = .ok 18446744073709551615 ∧ p.Carried ∧
      (∃ r, Request.decode (Request.encode ⟨"snapshot", p⟩) = .ok r ∧
        r.params.getUnsigned "block" = .ok 18446744073709551615) ∧
      (p.insert "id" (.number (.ofNat 18446744073709551615))).getUnsigned "id" = .ok 18446744073709551615 := by
  intro p
  have hread : p.getUnsigned "block" = .ok 18446744073709551615 := rfl
  have hcarried : p.Carried := ⟨by decide, by decide⟩
  exact ⟨hread, hcarried, ((unsigned_exact p "block").2.2.2.1 _ "snapshot" hread).1 hcarried,
    ((unsigned_exact p "id").2.2.2.2 _ (by decide)).1⟩

/-- Beside a value of 126 containers a number is read, but not from the encoded request. -/
theorem unsigned_lost_in_depth :
    let p := (Params.empty.insert "deep" (Json.nested 125)).insert "n" (.number (.ofNat 7))
    p.getUnsigned "n" = .ok 7 ∧
      ∀ command r, Request.decode (Request.encode ⟨command, p⟩) ≠ .ok r := by
  intro p
  refine ⟨getUnsigned_insert (by decide) (Json.denotes_ofNat 7), fun command r hdecode => ?_⟩
  have hdeep : p.get? "deep" = some (Json.nested 125) := by
    rw [get?_insert, if_neg (by decide), get?_insert, if_pos rfl, Json.canonical_nested]
  have hdepth : 126 < p.depth := by
    have hlt := depth_of_get? hdeep
    rwa [Json.depth_nested] at hlt
  obtain ⟨fault, hfault⟩ := Request.decode_deep (r := ⟨command, p⟩) hdepth
  cases hfault.symm.trans hdecode

end Params

end MessageBus
