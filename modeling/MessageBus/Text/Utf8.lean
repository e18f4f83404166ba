/-!
# UTF-8

Characters as bytes and back. `encode` writes every character in its shortest form; `decode` accepts
exactly the well-formed sequences and otherwise says where the first fault lies: a byte that cannot
stand where it stands (`illFormed`), or text that stops in the middle of a character (`truncated`).
-/
namespace MessageBus.Utf8
set_option autoImplicit false

/-- The bytes of a list of characters. -/
def encode (text : List Char) : List UInt8 := text.flatMap String.utf8EncodeChar

/-- The bytes of a string. -/
def bytes (text : String) : List UInt8 := encode text.toList

/-! ## Reading -/

/-- The first fault of a byte sequence, at the index where its valid part ends. -/
inductive Fault
  | illFormed (index length : Nat)
  | truncated (index : Nat)
deriving DecidableEq, Repr

def Fault.message : Fault → String
  | .illFormed index length => s!"invalid utf-8 sequence of {length} bytes from index {index}"
  | .truncated index => s!"incomplete utf-8 byte sequence from index {index}"

def isTail (b : UInt8) : Bool := 0x80 ≤ b && b ≤ 0xBF

/-- What may follow the first byte `a` of three: no overlong form and no surrogate. -/
def isSecondOfThree (a b : UInt8) : Bool :=
  if a = 0xE0 then 0xA0 ≤ b && b ≤ 0xBF
  else if a = 0xED then 0x80 ≤ b && b ≤ 0x9F
  else isTail b

/-- What may follow the first byte `a` of four: no overlong form and nothing above U+10FFFF. -/
def isSecondOfFour (a b : UInt8) : Bool :=
  if a = 0xF0 then 0x90 ≤ b && b ≤ 0xBF
  else if a = 0xF4 then 0x80 ≤ b && b ≤ 0x8F
  else isTail b

def charOfTwo (a b : UInt8) : Char :=
  Char.ofNat (a.toNat % 32 * 64 + b.toNat % 64)

def charOfThree (a b c : UInt8) : Char :=
  Char.ofNat (a.toNat % 16 * 4096 + b.toNat % 64 * 64 + c.toNat % 64)

def charOfFour (a b c d : UInt8) : Char :=
  Char.ofNat (a.toNat % 8 * 262144 + b.toNat % 64 * 4096 + c.toNat % 64 * 64 + d.toNat % 64)

/-- Reads characters from the byte at position `index` on. -/
def decodeFrom (index : Nat) : List UInt8 → Except Fault (List Char)
  | [] => .ok []
  | a :: rest =>
    if a < 0x80 then (Char.ofNat a.toNat :: ·) <$> decodeFrom (index + 1) rest
    else if 0xC2 ≤ a && a ≤ 0xDF then
      match rest with
      | [] => .error (.truncated index)
      | b :: rest =>
        if isTail b then (charOfTwo a b :: ·) <$> decodeFrom (index + 2) rest
        else .error (.illFormed index 1)
    else if 0xE0 ≤ a && a ≤ 0xEF then
      match rest with
      | [] => .error (.truncated index)
      | b :: rest =>
        if !isSecondOfThree a b then .error (.illFormed index 1)
        else match rest with
          | [] => .error (.truncated index)
          | c :: rest =>
            if isTail c then (charOfThree a b c :: ·) <$> decodeFrom (index + 3) rest
            else .error (.illFormed index 2)
    else if 0xF0 ≤ a && a ≤ 0xF4 then
      match rest with
      | [] => .error (.truncated index)
      | b :: rest =>
        if !isSecondOfFour a b then .error (.illFormed index 1)
        else match rest with
          | [] => .error (.truncated index)
          | c :: rest =>
            if !isTail c then .error (.illFormed index 2)
            else match rest with
              | [] => .error (.truncated index)
              | d :: rest =>
                if isTail d then (charOfFour a b c d :: ·) <$> decodeFrom (index + 4) rest
                else .error (.illFormed index 3)
    else .error (.illFormed index 1)

/-- The characters of a byte sequence, or its first fault. -/
def decode (input : List UInt8) : Except Fault (List Char) := decodeFrom 0 input

/-- The string of a byte sequence, or its first fault. -/
def text (input : List UInt8) : Except Fault String := String.ofList <$> decode input

/-! ## ASCII -/

theorem eq_of_ofNat_eq {n : Nat} {c : Char} (h : Char.ofNat n = c) (hc : c ≠ Char.ofNat 0) :
    n = c.toNat := by
  by_cases hv : n.isValidChar
  · rw [← h, Char.ofNat, dif_pos hv]
    rfl
  · simp [Char.ofNat, hv] at h
    exact absurd h.symm hc

theorem ne_of_ascii_lt {n : Nat} {c : Char} (hpos : 0 < c.toNat) (hc : c.toNat < n) :
    c ≠ Char.ofNat n := by
  intro e
  have hne : c ≠ Char.ofNat 0 := by
    rintro rfl
    exact absurd hpos (by decide)
  have := eq_of_ofNat_eq e.symm hne
  omega

theorem ascii_ne_charOfTwo {a b : UInt8} {c : Char} (ha : 0xC2 ≤ a && a ≤ 0xDF)
    (hpos : 0 < c.toNat) (hc : c.toNat < 128) : c ≠ charOfTwo a b := by
  simp only [Bool.and_eq_true, decide_eq_true_eq, UInt8.le_iff_toNat_le] at ha
  have h₁ : (0xC2 : UInt8).toNat = 194 := rfl
  have h₂ : (0xDF : UInt8).toNat = 223 := rfl
  exact ne_of_ascii_lt hpos (by omega)

theorem ascii_ne_charOfThree {a b d : UInt8} {c : Char} (ha : 0xE0 ≤ a && a ≤ 0xEF)
    (hb : isSecondOfThree a b = true) (hpos : 0 < c.toNat) (hc : c.toNat < 128) :
    c ≠ charOfThree a b d := by
  simp only [Bool.and_eq_true, decide_eq_true_eq, UInt8.le_iff_toNat_le] at ha
  have h₁ : (0xE0 : UInt8).toNat = 224 := rfl
  have h₂ : (0xEF : UInt8).toNat = 239 := rfl
  refine ne_of_ascii_lt hpos ?_
  by_cases he : a = 0xE0
  · subst he
    simp only [isSecondOfThree, if_pos, Bool.and_eq_true, decide_eq_true_eq,
      UInt8.le_iff_toNat_le] at hb
    have h₃ : (0xA0 : UInt8).toNat = 160 := rfl
    have h₄ : (0xBF : UInt8).toNat = 191 := rfl
    omega
  · have : a.toNat ≠ 224 := fun e => he (UInt8.toNat_inj.1 e)
    omega

theorem ascii_ne_charOfFour {a b d e : UInt8} {c : Char} (ha : 0xF0 ≤ a && a ≤ 0xF4)
    (hb : isSecondOfFour a b = true) (hpos : 0 < c.toNat) (hc : c.toNat < 128) :
    c ≠ charOfFour a b d e := by
  simp only [Bool.and_eq_true, decide_eq_true_eq, UInt8.le_iff_toNat_le] at ha
  have h₁ : (0xF0 : UInt8).toNat = 240 := rfl
  have h₂ : (0xF4 : UInt8).toNat = 244 := rfl
  refine ne_of_ascii_lt hpos ?_
  by_cases he : a = 0xF0
  · subst he
    simp only [isSecondOfFour, if_pos, Bool.and_eq_true, decide_eq_true_eq,
      UInt8.le_iff_toNat_le] at hb
    have h₃ : (0x90 : UInt8).toNat = 144 := rfl
    have h₄ : (0xBF : UInt8).toNat = 191 := rfl
    omega
  · have : a.toNat ≠ 240 := fun e => he (UInt8.toNat_inj.1 e)
    omega

theorem map_cons_eq_ok {ε α : Type} {a : α} {r : Except ε (List α)} {l : List α}
    (h : (a :: ·) <$> r = .ok l) : ∃ rest, r = .ok rest ∧ l = a :: rest := by
  cases r with
  | error e => cases h
  | ok rest => cases h; exact ⟨rest, rfl, rfl⟩

/-- An ASCII character of the text stands as its own byte in the input. -/
theorem mem_of_decodeFrom {index : Nat} {input : List UInt8} {text : List Char} {c : Char}
    (h : decodeFrom index input = .ok text) (hmem : c ∈ text) (hpos : 0 < c.toNat)
    (hc : c.toNat < 128) : UInt8.ofNat c.toNat ∈ input := by
  fun_induction decodeFrom index input generalizing text <;> try cases h
  case case1 => cases hmem
  case case2 index a rest ha ih =>
    obtain ⟨more, hmore, rfl⟩ := map_cons_eq_ok h
    rcases List.mem_cons.1 hmem with e | hmem
    · have hne : c ≠ Char.ofNat 0 := by
        rintro rfl
        exact absurd hpos (by decide)
      rw [← eq_of_ofNat_eq e.symm hne, UInt8.ofNat_toNat]
      exact List.mem_cons_self
    · exact List.mem_cons_of_mem _ (ih hmore hmem)
  case case4 ha b rest hb ih =>
    obtain ⟨more, hmore, rfl⟩ := map_cons_eq_ok h
    rcases List.mem_cons.1 hmem with e | hmem
    · exact absurd e (ascii_ne_charOfTwo ha hpos hc)
    · exact List.mem_cons_of_mem _ (List.mem_cons_of_mem _ (ih hmore hmem))
  case case9 ha b hb d rest hd ih =>
    obtain ⟨more, hmore, rfl⟩ := map_cons_eq_ok h
    rcases List.mem_cons.1 hmem with e | hmem
    · exact absurd e (ascii_ne_charOfThree ha (by simpa using hb) hpos hc)
    · exact List.mem_cons_of_mem _ (List.mem_cons_of_mem _ (List.mem_cons_of_mem _ (ih hmore hmem)))
  case case16 ha b hb d hd e rest he ih =>
    obtain ⟨more, hmore, rfl⟩ := map_cons_eq_ok h
    rcases List.mem_cons.1 hmem with e | hmem
    · exact absurd e (ascii_ne_charOfFour ha (by simpa using hb) hpos hc)
    · exact List.mem_cons_of_mem _ (List.mem_cons_of_mem _ (List.mem_cons_of_mem _
        (List.mem_cons_of_mem _ (ih hmore hmem))))

end MessageBus.Utf8
