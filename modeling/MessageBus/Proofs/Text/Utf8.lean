import MessageBus.Text.Utf8
/-!
# What is written in UTF-8 reads back

`decode_encode` and its form for strings, `text_bytes`: the reader inverts the writer on every text, and reads
nothing else (`text_eq_ok_iff`).
The reader is followed through one character of each of the four lengths; no byte of a character beyond
ASCII is an ASCII byte, so scanners that look for those pass over it (`le_of_mem_encode`).
-/
namespace MessageBus.Utf8
set_option autoImplicit false

/-! ## Bytes by their values -/

theorem toNat_ofNat_of_lt {n : Nat} (h : n < 256) : (UInt8.ofNat n).toNat = n := by
  rw [UInt8.toNat_ofNat']
  exact Nat.mod_eq_of_lt h

theorem isTail_iff {b : UInt8} : isTail b = true ↔ 128 ≤ b.toNat ∧ b.toNat ≤ 191 := by
  simp [isTail, UInt8.le_iff_toNat_le]

theorem isTail_low (n : Nat) {b : UInt8} (h : b.toNat = n % 64 + 128) : isTail b = true := by
  rw [isTail_iff]
  omega

theorem ofNat_eq_of_toNat {c : Char} {n : Nat} (h : n = c.toNat) : Char.ofNat n = c := by
  rw [h]
  exact Char.ofNat_toNat c

theorem scalar (c : Char) : c.toNat < 0xD800 ∨ 0xDFFF < c.toNat ∧ c.toNat < 0x110000 := c.valid

/-! ## The bytes of a character -/

theorem encode_one {c : Char} (h : c.toNat ≤ 0x7F) :
    String.utf8EncodeChar c = [UInt8.ofNat c.toNat] := if_pos h

theorem encode_two {c : Char} (h₁ : ¬ c.toNat ≤ 0x7F) (h₂ : c.toNat ≤ 0x7FF) :
    String.utf8EncodeChar c =
      [UInt8.ofNat (c.toNat / 64 % 32 + 192), UInt8.ofNat (c.toNat % 64 + 128)] :=
  (if_neg h₁).trans (if_pos h₂)

theorem encode_three {c : Char} (h₂ : ¬ c.toNat ≤ 0x7FF) (h₃ : c.toNat ≤ 0xFFFF) :
    String.utf8EncodeChar c =
      [UInt8.ofNat (c.toNat / 4096 % 16 + 224), UInt8.ofNat (c.toNat / 64 % 64 + 128),
        UInt8.ofNat (c.toNat % 64 + 128)] := by
  have h₁ : ¬ c.toNat ≤ 0x7F := fun h => h₂ (Nat.le_trans h (by decide))
  exact (if_neg h₁).trans ((if_neg h₂).trans (if_pos h₃))

theorem encode_four {c : Char} (h₃ : ¬ c.toNat ≤ 0xFFFF) :
    String.utf8EncodeChar c =
      [UInt8.ofNat (c.toNat / 262144 % 8 + 240), UInt8.ofNat (c.toNat / 4096 % 64 + 128),
        UInt8.ofNat (c.toNat / 64 % 64 + 128), UInt8.ofNat (c.toNat % 64 + 128)] := by
  have h₁ : ¬ c.toNat ≤ 0x7F := fun h => h₃ (Nat.le_trans h (by decide))
  have h₂ : ¬ c.toNat ≤ 0x7FF := fun h => h₃ (Nat.le_trans h (by decide))
  exact (if_neg h₁).trans ((if_neg h₂).trans (if_neg h₃))

/-- The bytes of a character beyond ASCII are all beyond ASCII. -/
theorem le_of_mem_encode {c : Char} (h : 128 ≤ c.toNat) {b : UInt8}
    (hb : b ∈ String.utf8EncodeChar c) : 128 ≤ b.toNat := by
  have h₁ : ¬ c.toNat ≤ 0x7F := by omega
  by_cases h₂ : c.toNat ≤ 0x7FF
  · rw [encode_two h₁ h₂] at hb
    simp only [List.mem_cons, List.not_mem_nil, or_false] at hb
    rcases hb with rfl | rfl <;> rw [toNat_ofNat_of_lt (by omega)] <;> omega
  by_cases h₃ : c.toNat ≤ 0xFFFF
  · rw [encode_three h₂ h₃] at hb
    simp only [List.mem_cons, List.not_mem_nil, or_false] at hb
    rcases hb with rfl | rfl | rfl <;> rw [toNat_ofNat_of_lt (by omega)] <;> omega
  · rw [encode_four h₃] at hb
    simp only [List.mem_cons, List.not_mem_nil, or_false] at hb
    rcases hb with rfl | rfl | rfl | rfl <;> rw [toNat_ofNat_of_lt (by omega)] <;> omega

/-- Only the first byte of a character may start one. -/
theorem encode_front (c : Char) : ∃ b more, String.utf8EncodeChar c = b :: more ∧ isTail b = false ∧
    ∀ x ∈ more, isTail x = true := by
  have hfirst : ∀ n, n < 128 ∨ 192 ≤ n ∧ n < 256 → isTail (UInt8.ofNat n) = false := by
    intro n hn
    rw [← Bool.not_eq_true, isTail_iff, toNat_ofNat_of_lt (by omega)]
    omega
  have hlater : ∀ n, isTail (UInt8.ofNat (n % 64 + 128)) = true := fun n =>
    isTail_low n (toNat_ofNat_of_lt (by omega))
  have hnone : ∀ x ∈ ([] : List UInt8), isTail x = true := List.forall_mem_nil _
  by_cases h₁ : c.toNat ≤ 0x7F
  · exact ⟨_, _, encode_one h₁, hfirst _ (by omega), hnone⟩
  by_cases h₂ : c.toNat ≤ 0x7FF
  · exact ⟨_, _, encode_two h₁ h₂, hfirst _ (by omega), List.forall_mem_cons.mpr ⟨hlater _, hnone⟩⟩
  by_cases h₃ : c.toNat ≤ 0xFFFF
  · exact ⟨_, _, encode_three h₂ h₃, hfirst _ (by omega),
      List.forall_mem_cons.mpr ⟨hlater _, List.forall_mem_cons.mpr ⟨hlater _, hnone⟩⟩⟩
  · exact ⟨_, _, encode_four h₃, hfirst _ (by omega), List.forall_mem_cons.mpr ⟨hlater _,
      List.forall_mem_cons.mpr ⟨hlater _, List.forall_mem_cons.mpr ⟨hlater _, hnone⟩⟩⟩⟩

/-- The byte of an ASCII character stands in no text without that character. -/
theorem not_mem_encode {c : Char} (hc : c.toNat < 128) {text : List Char} (h : c ∉ text) :
    UInt8.ofNat c.toNat ∉ encode text := by
  intro hmem
  obtain ⟨d, hd, hb⟩ := List.mem_flatMap.1 hmem
  have hcb : (UInt8.ofNat c.toNat).toNat = c.toNat := toNat_ofNat_of_lt (by omega)
  by_cases hascii : 128 ≤ d.toNat
  · have := le_of_mem_encode hascii hb
    omega
  · rw [encode_one (by omega), List.mem_singleton] at hb
    have hdb : (UInt8.ofNat d.toNat).toNat = d.toNat := toNat_ofNat_of_lt (by omega)
    have hn : c.toNat = d.toNat := by rw [← hcb, hb, hdb]
    exact h (Char.toNat_inj.1 hn ▸ hd)

/-! ## Reading one character -/

theorem decodeFrom_one (index : Nat) {c : Char} (rest : List UInt8) (h : c.toNat ≤ 0x7F) :
    decodeFrom index (String.utf8EncodeChar c ++ rest) = (c :: ·) <$> decodeFrom (index + 1) rest := by
  have ha : (UInt8.ofNat c.toNat).toNat = c.toNat := toNat_ofNat_of_lt (by omega)
  have hlow : UInt8.ofNat c.toNat < 0x80 := by
    rw [UInt8.lt_iff_toNat_lt, ha]
    exact Nat.lt_succ_of_le h
  rw [encode_one h, List.singleton_append, decodeFrom.eq_def]
  simp only [if_pos hlow, ha, Char.ofNat_toNat]

theorem decodeFrom_two (index : Nat) {c : Char} (rest : List UInt8) (h₁ : ¬ c.toNat ≤ 0x7F)
    (h₂ : c.toNat ≤ 0x7FF) :
    decodeFrom index (String.utf8EncodeChar c ++ rest) = (c :: ·) <$> decodeFrom (index + 2) rest := by
  have ha : (UInt8.ofNat (c.toNat / 64 % 32 + 192)).toNat = c.toNat / 64 % 32 + 192 :=
    toNat_ofNat_of_lt (by omega)
  have hb : (UInt8.ofNat (c.toNat % 64 + 128)).toNat = c.toNat % 64 + 128 :=
    toNat_ofNat_of_lt (by omega)
  rw [encode_two h₁ h₂]
  generalize UInt8.ofNat (c.toNat / 64 % 32 + 192) = a at ha
  generalize UInt8.ofNat (c.toNat % 64 + 128) = b at hb
  have hlow : ¬ a < 0x80 := by simp [UInt8.lt_iff_toNat_lt, ha]
  have hlead : (0xC2 ≤ a && a ≤ 0xDF) = true := by
    simp only [Bool.and_eq_true, decide_eq_true_eq, UInt8.le_iff_toNat_le, ha, UInt8.reduceToNat]
    omega
  have hchar : charOfTwo a b = c := ofNat_eq_of_toNat (by rw [ha, hb]; omega)
  rw [List.cons_append, List.singleton_append, decodeFrom.eq_def]
  simp only [if_neg hlow, if_pos hlead, if_pos (isTail_low _ hb), hchar]

theorem decodeFrom_three (index : Nat) {c : Char} (rest : List UInt8) (h₂ : ¬ c.toNat ≤ 0x7FF)
    (h₃ : c.toNat ≤ 0xFFFF) :
    decodeFrom index (String.utf8EncodeChar c ++ rest) = (c :: ·) <$> decodeFrom (index + 3) rest := by
  have ha : (UInt8.ofNat (c.toNat / 4096 % 16 + 224)).toNat = c.toNat / 4096 % 16 + 224 :=
    toNat_ofNat_of_lt (by omega)
  have hb : (UInt8.ofNat (c.toNat / 64 % 64 + 128)).toNat = c.toNat / 64 % 64 + 128 :=
    toNat_ofNat_of_lt (by omega)
  have hd : (UInt8.ofNat (c.toNat % 64 + 128)).toNat = c.toNat % 64 + 128 :=
    toNat_ofNat_of_lt (by omega)
  rw [encode_three h₂ h₃]
  generalize UInt8.ofNat (c.toNat / 4096 % 16 + 224) = a at ha
  generalize UInt8.ofNat (c.toNat / 64 % 64 + 128) = b at hb
  generalize UInt8.ofNat (c.toNat % 64 + 128) = d at hd
  have hlow : ¬ a < 0x80 := by simp [UInt8.lt_iff_toNat_lt, ha]
  have htwo : ¬ (0xC2 ≤ a && a ≤ 0xDF) = true := by
    simp only [Bool.and_eq_true, decide_eq_true_eq, UInt8.le_iff_toNat_le, ha, UInt8.reduceToNat]
    omega
  have hlead : (0xE0 ≤ a && a ≤ 0xEF) = true := by
    simp only [Bool.and_eq_true, decide_eq_true_eq, UInt8.le_iff_toNat_le, ha, UInt8.reduceToNat]
    omega
  -- The second byte is bounded more tightly below U+1000 and at the surrogates.
  have hsecond : isSecondOfThree a b = true := by
    have hs := scalar c
    unfold isSecondOfThree
    split
    next he =>
      have hv : a.toNat = 224 := by rw [he]; rfl
      simp only [Bool.and_eq_true, decide_eq_true_eq, UInt8.le_iff_toNat_le, hb, UInt8.reduceToNat]
      omega
    next =>
      split
      next he =>
        have hv : a.toNat = 237 := by rw [he]; rfl
        simp only [Bool.and_eq_true, decide_eq_true_eq, UInt8.le_iff_toNat_le, hb, UInt8.reduceToNat]
        omega
      next => exact isTail_low _ hb
  have hchar : charOfThree a b d = c := ofNat_eq_of_toNat (by rw [ha, hb, hd]; omega)
  rw [List.cons_append, List.cons_append, List.singleton_append, decodeFrom.eq_def]
  simp only [if_neg hlow, if_neg htwo, if_pos hlead, hsecond, Bool.not_true, Bool.false_eq_true,
    if_false, if_pos (isTail_low _ hd), hchar]

theorem decodeFrom_four (index : Nat) {c : Char} (rest : List UInt8) (h₃ : ¬ c.toNat ≤ 0xFFFF) :
    decodeFrom index (String.utf8EncodeChar c ++ rest) = (c :: ·) <$> decodeFrom (index + 4) rest := by
  have hs := scalar c
  have ha : (UInt8.ofNat (c.toNat / 262144 % 8 + 240)).toNat = c.toNat / 262144 % 8 + 240 :=
    toNat_ofNat_of_lt (by omega)
  have hb : (UInt8.ofNat (c.toNat / 4096 % 64 + 128)).toNat = c.toNat / 4096 % 64 + 128 :=
    toNat_ofNat_of_lt (by omega)
  have hd : (UInt8.ofNat (c.toNat / 64 % 64 + 128)).toNat = c.toNat / 64 % 64 + 128 :=
    toNat_ofNat_of_lt (by omega)
  have he : (UInt8.ofNat (c.toNat % 64 + 128)).toNat = c.toNat % 64 + 128 :=
    toNat_ofNat_of_lt (by omega)
  rw [encode_four h₃]
  generalize UInt8.ofNat (c.toNat / 262144 % 8 + 240) = a at ha
  generalize UInt8.ofNat (c.toNat / 4096 % 64 + 128) = b at hb
  generalize UInt8.ofNat (c.toNat / 64 % 64 + 128) = d at hd
  generalize UInt8.ofNat (c.toNat % 64 + 128) = e at he
  have hlow : ¬ a < 0x80 := by simp [UInt8.lt_iff_toNat_lt, ha]
  have htwo : ¬ (0xC2 ≤ a && a ≤ 0xDF) = true := by
    simp only [Bool.and_eq_true, decide_eq_true_eq, UInt8.le_iff_toNat_le, ha, UInt8.reduceToNat]
    omega
  have hthree : ¬ (0xE0 ≤ a && a ≤ 0xEF) = true := by
    simp only [Bool.and_eq_true, decide_eq_true_eq, UInt8.le_iff_toNat_le, ha, UInt8.reduceToNat]
    omega
  have hlead : (0xF0 ≤ a && a ≤ 0xF4) = true := by
    simp only [Bool.and_eq_true, decide_eq_true_eq, UInt8.le_iff_toNat_le, ha, UInt8.reduceToNat]
    omega
  -- The second byte is bounded more tightly below U+40000 and above U+FFFFF.
  have hsecond : isSecondOfFour a b = true := by
    unfold isSecondOfFour
    split
    next h =>
      have hv : a.toNat = 240 := by rw [h]; rfl
      simp only [Bool.and_eq_true, decide_eq_true_eq, UInt8.le_iff_toNat_le, hb, UInt8.reduceToNat]
      omega
    next =>
      split
      next h =>
        have hv : a.toNat = 244 := by rw [h]; rfl
        simp only [Bool.and_eq_true, decide_eq_true_eq, UInt8.le_iff_toNat_le, hb, UInt8.reduceToNat]
        omega
      next => exact isTail_low _ hb
  have hchar : charOfFour a b d e = c := ofNat_eq_of_toNat (by rw [ha, hb, hd, he]; omega)
  rw [List.cons_append, List.cons_append, List.cons_append, List.singleton_append,
    decodeFrom.eq_def]
  simp only [if_neg hlow, if_neg htwo, if_neg hthree, if_pos hlead, hsecond, isTail_low _ hd,
    Bool.not_true, Bool.false_eq_true, if_false, if_pos (isTail_low _ he), hchar]

/-- One character is read from its own bytes, whatever follows them. -/
theorem decodeFrom_char (index : Nat) (c : Char) (rest : List UInt8) :
    ∃ next, decodeFrom index (String.utf8EncodeChar c ++ rest) = (c :: ·) <$> decodeFrom next rest := by
  by_cases h₁ : c.toNat ≤ 0x7F
  · exact ⟨_, decodeFrom_one index rest h₁⟩
  by_cases h₂ : c.toNat ≤ 0x7FF
  · exact ⟨_, decodeFrom_two index rest h₁ h₂⟩
  by_cases h₃ : c.toNat ≤ 0xFFFF
  · exact ⟨_, decodeFrom_three index rest h₂ h₃⟩
  · exact ⟨_, decodeFrom_four index rest h₃⟩

/-! ## Texts -/

@[simp] theorem encode_nil : encode [] = [] := rfl

theorem encode_cons (c : Char) (text : List Char) :
    encode (c :: text) = String.utf8EncodeChar c ++ encode text := List.flatMap_cons ..

theorem encode_append (front back : List Char) : encode (front ++ back) = encode front ++ encode back :=
  List.flatMap_append

theorem decodeFrom_encode (index : Nat) (text : List Char) :
    decodeFrom index (encode text) = .ok text := by
  induction text generalizing index with
  | nil => rfl
  | cons c text ih =>
    obtain ⟨next, h⟩ := decodeFrom_char index c (encode text)
    rw [encode_cons, h, ih]
    rfl

theorem decode_encode (text : List Char) : decode (encode text) = .ok text := decodeFrom_encode 0 text

theorem text_bytes (s : String) : text (bytes s) = .ok s := by
  rw [text, bytes, decode_encode]
  exact congrArg Except.ok String.ofList_toList

/-! ## Only what is written reads -/

theorem toNat_charOfNat {n : Nat} (h : n < 0xD800 ∨ 0xDFFF < n ∧ n < 0x110000) :
    (Char.ofNat n).toNat = n := by
  have hv : n.isValidChar := h
  rw [Char.ofNat, dif_pos hv]
  rfl

theorem ofNat_eq_of_toNat_eq {n : Nat} {b : UInt8} (h : n = b.toNat) : UInt8.ofNat n = b := by
  rw [h]
  exact UInt8.ofNat_toNat

theorem encode_ascii {a : UInt8} (ha : a < 0x80) : String.utf8EncodeChar (Char.ofNat a.toNat) = [a] := by
  simp only [UInt8.lt_iff_toNat_lt, UInt8.reduceToNat] at ha
  have hn : (Char.ofNat a.toNat).toNat = a.toNat := toNat_charOfNat (.inl (by omega))
  rw [encode_one (by omega), ofNat_eq_of_toNat_eq hn]

theorem encode_charOfTwo {a b : UInt8} (ha : (0xC2 ≤ a && a ≤ 0xDF) = true) (hb : isTail b = true) :
    String.utf8EncodeChar (charOfTwo a b) = [a, b] := by
  simp only [Bool.and_eq_true, decide_eq_true_eq, UInt8.le_iff_toNat_le, UInt8.reduceToNat] at ha
  rw [isTail_iff] at hb
  have hn : (charOfTwo a b).toNat = a.toNat % 32 * 64 + b.toNat % 64 :=
    toNat_charOfNat (.inl (by omega))
  rw [encode_two (by omega) (by omega), ofNat_eq_of_toNat_eq (b := a) (by omega),
    ofNat_eq_of_toNat_eq (b := b) (by omega)]

/-- The second byte is one like those behind it, but that it has a lower bound after one leading byte and an
upper bound after another. -/
theorem bounds_of_second {a b x y low high : UInt8} (hne : x ≠ y) (hlow : 128 ≤ low.toNat)
    (hhigh : high.toNat ≤ 191)
    (h : (if a = x then low ≤ b && b ≤ 0xBF else if a = y then 0x80 ≤ b && b ≤ high else isTail b) = true) :
    128 ≤ b.toNat ∧ b.toNat ≤ 191 ∧ (a.toNat = x.toNat → low.toNat ≤ b.toNat) ∧
      (a.toNat = y.toNat → b.toNat ≤ high.toNat) := by
  rw [UInt8.toNat_inj, UInt8.toNat_inj]
  split at h
  · next hx =>
    simp only [Bool.and_eq_true, decide_eq_true_eq, UInt8.le_iff_toNat_le, UInt8.reduceToNat] at h
    exact ⟨by omega, h.2, fun _ => h.1, fun hy => absurd (hx.symm.trans hy) hne⟩
  · next hx =>
    split at h
    · next hy =>
      simp only [Bool.and_eq_true, decide_eq_true_eq, UInt8.le_iff_toNat_le, UInt8.reduceToNat] at h
      exact ⟨h.1, by omega, fun h => absurd h hx, fun _ => h.2⟩
    · next hy =>
      rw [isTail_iff] at h
      exact ⟨h.1, h.2, fun h => absurd h hx, fun h => absurd h hy⟩

theorem encode_charOfThree {a b c : UInt8} (ha : (0xE0 ≤ a && a ≤ 0xEF) = true)
    (hb : isSecondOfThree a b = true) (hc : isTail c = true) :
    String.utf8EncodeChar (charOfThree a b c) = [a, b, c] := by
  simp only [Bool.and_eq_true, decide_eq_true_eq, UInt8.le_iff_toNat_le, UInt8.reduceToNat] at ha
  obtain ⟨hlow, hhigh, hfirst, hsurrogate⟩ := bounds_of_second (by decide) (by decide) (by decide) hb
  simp only [UInt8.reduceToNat] at hfirst hsurrogate
  rw [isTail_iff] at hc
  have hn : (charOfThree a b c).toNat = a.toNat % 16 * 4096 + b.toNat % 64 * 64 + c.toNat % 64 :=
    toNat_charOfNat (by omega)
  rw [encode_three (by omega) (by omega), ofNat_eq_of_toNat_eq (b := a) (by omega),
    ofNat_eq_of_toNat_eq (b := b) (by omega), ofNat_eq_of_toNat_eq (b := c) (by omega)]

theorem encode_charOfFour {a b c d : UInt8} (ha : (0xF0 ≤ a && a ≤ 0xF4) = true)
    (hb : isSecondOfFour a b = true) (hc : isTail c = true) (hd : isTail d = true) :
    String.utf8EncodeChar (charOfFour a b c d) = [a, b, c, d] := by
  simp only [Bool.and_eq_true, decide_eq_true_eq, UInt8.le_iff_toNat_le, UInt8.reduceToNat] at ha
  obtain ⟨hlow, hhigh, hfirst, hlast⟩ := bounds_of_second (by decide) (by decide) (by decide) hb
  simp only [UInt8.reduceToNat] at hfirst hlast
  rw [isTail_iff] at hc hd
  have hn : (charOfFour a b c d).toNat =
      a.toNat % 8 * 262144 + b.toNat % 64 * 4096 + c.toNat % 64 * 64 + d.toNat % 64 :=
    toNat_charOfNat (by omega)
  rw [encode_four (by omega), ofNat_eq_of_toNat_eq (b := a) (by omega),
    ofNat_eq_of_toNat_eq (b := b) (by omega), ofNat_eq_of_toNat_eq (b := c) (by omega),
    ofNat_eq_of_toNat_eq (b := d) (by omega)]

theorem encode_of_decodeFrom {index : Nat} {input : List UInt8} {text : List Char}
    (h : decodeFrom index input = .ok text) : encode text = input := by
  fun_induction decodeFrom index input generalizing text <;> try cases h
  case case1 => rfl
  case case2 index a rest ha ih =>
    obtain ⟨more, hmore, rfl⟩ := map_cons_eq_ok h
    rw [encode_cons, encode_ascii ha, ih hmore, List.singleton_append]
  case case4 ha b rest hb ih =>
    obtain ⟨more, hmore, rfl⟩ := map_cons_eq_ok h
    rw [encode_cons, encode_charOfTwo ha hb, ih hmore]
    rfl
  case case9 ha b hb c rest hc ih =>
    obtain ⟨more, hmore, rfl⟩ := map_cons_eq_ok h
    rw [encode_cons, encode_charOfThree ha (by simpa using hb) hc, ih hmore]
    rfl
  case case16 ha b hb c hc d rest hd ih =>
    obtain ⟨more, hmore, rfl⟩ := map_cons_eq_ok h
    rw [encode_cons, encode_charOfFour ha (by simpa using hb) (by simpa using hc) hd, ih hmore]
    rfl

/-- A character that text in UTF-8 starts with is its first. -/
theorem encode_cancel {text : List Char} {c : Char} {rest : List UInt8}
    (h : encode text = String.utf8EncodeChar c ++ rest) :
    ∃ more, text = c :: more ∧ rest = encode more := by
  obtain ⟨next, hchar⟩ := decodeFrom_char 0 c rest
  have htext := decodeFrom_encode 0 text
  rw [h, hchar] at htext
  obtain ⟨more, hmore, rfl⟩ := map_cons_eq_ok htext
  exact ⟨more, rfl, (encode_of_decodeFrom hmore).symm⟩

/-- Bytes read as a text exactly if they are its bytes. -/
theorem text_eq_ok_iff {input : List UInt8} {s : String} : text input = .ok s ↔ input = bytes s := by
  constructor
  · intro h
    cases hd : decode input with
    | error fault =>
      rw [text, hd] at h
      cases h
    | ok chars =>
      rw [text, hd] at h
      cases h
      rw [bytes, String.toList_ofList, encode_of_decodeFrom hd]
  · rintro rfl
    exact text_bytes s

end MessageBus.Utf8
