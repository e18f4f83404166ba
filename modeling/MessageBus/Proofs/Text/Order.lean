import MessageBus.Proofs.Text.Utf8
/-!
# The order of texts

Texts are compared by code points, and that is the order of their bytes (`bytes_lt_iff`): a longer form starts
with a greater byte, and two forms of one length differ first where the code points do.
-/
namespace MessageBus.Utf8
set_option autoImplicit false

theorem ofNat_cons_lt_iff {m n : Nat} {x y : List UInt8} (hm : m < 256) (hn : n < 256) :
    UInt8.ofNat m :: x < UInt8.ofNat n :: y ↔ m < n ∨ m = n ∧ x < y := by
  rw [List.cons_lt_cons_iff, UInt8.lt_iff_toNat_lt, ← UInt8.toNat_inj, toNat_ofNat_of_lt hm, toNat_ofNat_of_lt hn]

/-- The first byte tells how many there are. -/
theorem encode_lead (c : Char) : ∃ lead more, String.utf8EncodeChar c = UInt8.ofNat lead :: more ∧ lead < 256 ∧
    (c.toNat ≤ 0x7F ↔ lead < 192) ∧ (c.toNat ≤ 0x7FF ↔ lead < 224) ∧ (c.toNat ≤ 0xFFFF ↔ lead < 240) := by
  by_cases h₁ : c.toNat ≤ 0x7F
  · exact ⟨_, _, encode_one h₁, by omega, by omega, by omega, by omega⟩
  by_cases h₂ : c.toNat ≤ 0x7FF
  · exact ⟨_, _, encode_two h₁ h₂, by omega, by omega, by omega, by omega⟩
  by_cases h₃ : c.toNat ≤ 0xFFFF
  · exact ⟨_, _, encode_three h₂ h₃, by omega, by omega, by omega, by omega⟩
  · exact ⟨_, _, encode_four h₃, by omega, by omega, by omega, by omega⟩

/-- A code point as its digits in a form of four bytes. -/
theorem toNat_eq_digits (c : Char) : c.toNat = c.toNat / 262144 % 8 * 262144 + c.toNat / 4096 % 64 * 4096 +
    c.toNat / 64 % 64 * 64 + c.toNat % 64 := by
  have hscalar := scalar c
  omega

section Order
variable {c d : Char} {x y : List UInt8}

/-- A form of more bytes is the greater one. -/
theorem encode_lt_of_longer
    (h : c.toNat ≤ 0x7F ∧ ¬d.toNat ≤ 0x7F ∨ c.toNat ≤ 0x7FF ∧ ¬d.toNat ≤ 0x7FF ∨
      c.toNat ≤ 0xFFFF ∧ ¬d.toNat ≤ 0xFFFF) :
    String.utf8EncodeChar c ++ x < String.utf8EncodeChar d ++ y := by
  obtain ⟨m, more, hc, hm, h₁, h₂, h₃⟩ := encode_lead c
  obtain ⟨n, more', hd, hn, h₁', h₂', h₃'⟩ := encode_lead d
  rw [hc, hd, List.cons_append, List.cons_append, ofNat_cons_lt_iff hm hn]
  exact .inl (by omega)

/-! Forms of one length are compared byte by byte. -/

theorem encode_lt_of_two (h : c.toNat < d.toNat) (hc : ¬c.toNat ≤ 0x7F) (hd : d.toNat ≤ 0x7FF) :
    String.utf8EncodeChar c ++ x < String.utf8EncodeChar d ++ y := by
  have hfirst : c.toNat / 64 % 32 + 192 < d.toNat / 64 % 32 + 192 ∨
      c.toNat / 64 % 32 + 192 = d.toNat / 64 % 32 + 192 ∧ c.toNat % 64 + 128 < d.toNat % 64 + 128 := by
    omega
  rw [encode_two (by omega) hd, encode_two hc (by omega)]
  simp (disch := omega) only [List.cons_append, List.nil_append, ofNat_cons_lt_iff]
  exact hfirst.imp_right (.imp_right .inl)

theorem encode_lt_of_three (h : c.toNat < d.toNat) (hc : ¬c.toNat ≤ 0x7FF) (hd : d.toNat ≤ 0xFFFF) :
    String.utf8EncodeChar c ++ x < String.utf8EncodeChar d ++ y := by
  have hfirst : c.toNat / 4096 % 16 + 224 < d.toNat / 4096 % 16 + 224 ∨
      c.toNat / 4096 % 16 + 224 = d.toNat / 4096 % 16 + 224 ∧
        (c.toNat / 64 % 64 + 128 < d.toNat / 64 % 64 + 128 ∨
          c.toNat / 64 % 64 + 128 = d.toNat / 64 % 64 + 128 ∧ c.toNat % 64 + 128 < d.toNat % 64 + 128) := by
    omega
  rw [encode_three (by omega) hd, encode_three hc (by omega)]
  simp (disch := omega) only [List.cons_append, List.nil_append, ofNat_cons_lt_iff]
  exact hfirst.imp_right (.imp_right (.imp_right (.imp_right .inl)))

theorem encode_lt_of_four (h : c.toNat < d.toNat) (hc : ¬c.toNat ≤ 0xFFFF) :
    String.utf8EncodeChar c ++ x < String.utf8EncodeChar d ++ y := by
  have hd : ¬d.toNat ≤ 0xFFFF := by omega
  have hcdigits := toNat_eq_digits c
  have hddigits := toNat_eq_digits d
  have hfirst : c.toNat / 262144 % 8 + 240 < d.toNat / 262144 % 8 + 240 ∨
      c.toNat / 262144 % 8 + 240 = d.toNat / 262144 % 8 + 240 ∧
        (c.toNat / 4096 % 64 + 128 < d.toNat / 4096 % 64 + 128 ∨
          c.toNat / 4096 % 64 + 128 = d.toNat / 4096 % 64 + 128 ∧
            (c.toNat / 64 % 64 + 128 < d.toNat / 64 % 64 + 128 ∨
              c.toNat / 64 % 64 + 128 = d.toNat / 64 % 64 + 128 ∧
                c.toNat % 64 + 128 < d.toNat % 64 + 128)) := by
    omega
  rw [encode_four hd, encode_four hc]
  simp (disch := omega) only [List.cons_append, List.nil_append, ofNat_cons_lt_iff]
  exact hfirst.imp_right (.imp_right (.imp_right (.imp_right (.imp_right (.imp_right .inl)))))

theorem encode_lt (h : c < d) : String.utf8EncodeChar c ++ x < String.utf8EncodeChar d ++ y := by
  have h : c.toNat < d.toNat := h
  by_cases hd₁ : d.toNat ≤ 0x7F
  · rw [encode_one hd₁, encode_one (by omega), List.singleton_append, List.singleton_append,
      ofNat_cons_lt_iff (by omega) (by omega)]
    exact .inl h
  by_cases hc₁ : c.toNat ≤ 0x7F
  · exact encode_lt_of_longer (.inl ⟨hc₁, hd₁⟩)
  by_cases hd₂ : d.toNat ≤ 0x7FF
  · exact encode_lt_of_two h hc₁ hd₂
  by_cases hc₂ : c.toNat ≤ 0x7FF
  · exact encode_lt_of_longer (.inr (.inl ⟨hc₂, hd₂⟩))
  by_cases hd₃ : d.toNat ≤ 0xFFFF
  · exact encode_lt_of_three h hc₂ hd₃
  by_cases hc₃ : c.toNat ≤ 0xFFFF
  · exact encode_lt_of_longer (.inr (.inr ⟨hc₃, hd₃⟩))
  · exact encode_lt_of_four h hc₃

end Order

/-! ## Texts -/

theorem encode_lt_encode {a b : List Char} (h : a < b) : encode a < encode b := by
  induction a generalizing b with
  | nil =>
    cases b with
    | nil => exact absurd h (List.lt_irrefl _)
    | cons d b =>
      obtain ⟨lead, more, hd, -⟩ := encode_lead d
      rw [encode_cons, hd]
      exact List.nil_lt_cons _ _
  | cons c a ih =>
    cases b with
    | nil => exact absurd h (List.not_lt_nil _)
    | cons d b =>
      rw [encode_cons, encode_cons]
      rcases List.cons_lt_cons_iff.mp h with hlt | ⟨rfl, hlt⟩
      · exact encode_lt hlt
      · exact List.append_left_lt (ih hlt)

/-- The order of strings is the order of their bytes. -/
theorem bytes_lt_iff {a b : String} : bytes a < bytes b ↔ a < b := by
  constructor
  · intro h
    refine Decidable.byContradiction fun hnot => ?_
    by_cases hlt : b < a
    · exact List.lt_asymm h (encode_lt_encode hlt)
    · have heq : a = b := String.le_antisymm (String.not_lt.mp hlt) (String.not_lt.mp hnot)
      rw [heq] at h
      exact List.lt_irrefl _ h
  · exact encode_lt_encode

end MessageBus.Utf8
