import MessageBus.Json.Lexer
import MessageBus.Proofs.Json.Grammar
import MessageBus.Proofs.Text.Utf8
/-!
# Strings against the grammar

`scanQuoted_eq_ok_iff`: what the scanner reads as a string are exactly the spellings of that string. It
passes over bytes and decodes them at the end, so a character beyond ASCII is known only behind its last
byte; no escape can stand within it, since an escape gives whole characters.
-/
namespace MessageBus.Json
set_option autoImplicit false

/-! ## Escapes -/

theorem hexValue?_eq_some_iff {b : UInt8} {n : Nat} : hexValue? b = some n ↔ HexDigit b n := by
  have h0 : '0'.toNat = 48 := rfl
  have ha : 'a'.toNat = 97 := rfl
  have hA : 'A'.toNat = 65 := rfl
  unfold hexValue? HexDigit
  simp only [Bool.and_eq_true, decide_eq_true_eq, UInt8.le_iff_toNat_le, UInt8.reduceToNat, h0, ha, hA]
  split_ifs
  all_goals
    simp only [Option.some.injEq, false_iff]
    omega

theorem hexUnit?_eq_some_iff {a b c d : UInt8} {u : Nat} :
    hexUnit? a b c d = some u ↔ [a, b, c, d] ∈ codeUnit u := by
  simp only [hexUnit?, bind, pure, Option.bind_eq_some_iff, hexValue?_eq_some_iff, Option.some.injEq]
  constructor
  · rintro ⟨i, hi, j, hj, k, hk, l, hl, h⟩
    exact ⟨a, b, c, d, i, j, k, l, rfl, hi, hj, hk, hl, by omega⟩
  · rintro ⟨_, _, _, _, i, j, k, l, he, hi, hj, hk, hl, h⟩
    cases he
    exact ⟨i, hi, j, hj, k, hk, l, hl, by omega⟩

theorem hexUnit?_of_mem {w : List UInt8} {u : Nat} (h : w ∈ codeUnit u) :
    ∃ a b c d, w = [a, b, c, d] ∧ hexUnit? a b c d = some u := by
  obtain ⟨a, b, c, d, _, _, _, _, rfl, _⟩ := id h
  exact ⟨a, b, c, d, rfl, hexUnit?_eq_some_iff.mpr h⟩

theorem shortUnescape?_of_mem {letter c : Char} (h : (letter, c) ∈ shortEscapes) :
    ∃ e b, Utf8.encode ['\\', letter] = [0x5C, e] ∧ e ≠ 0x75 ∧ shortUnescape? e = some b ∧
      String.utf8EncodeChar c = [b] := by
  simp only [shortEscapes, List.mem_cons, Prod.mk.injEq, List.not_mem_nil, or_false] at h
  rcases h with ⟨rfl, rfl⟩ | ⟨rfl, rfl⟩ | ⟨rfl, rfl⟩ | ⟨rfl, rfl⟩ | ⟨rfl, rfl⟩ | ⟨rfl, rfl⟩ | ⟨rfl, rfl⟩ |
    ⟨rfl, rfl⟩ <;> exact ⟨_, _, rfl, by decide, rfl, rfl⟩

theorem mem_of_shortUnescape? {e b : UInt8} (h : shortUnescape? e = some b) :
    ∃ letter c, (letter, c) ∈ shortEscapes ∧ Utf8.encode ['\\', letter] = [0x5C, e] ∧
      String.utf8EncodeChar c = [b] := by
  unfold shortUnescape? at h
  split_ifs at h with hself hb hf hn hr ht
  · simp only [Bool.or_eq_true, decide_eq_true_eq] at hself
    cases h
    rcases hself with (rfl | rfl) | rfl
    · exact ⟨'"', '"', by decide, rfl, rfl⟩
    · exact ⟨'\\', '\\', by decide, rfl, rfl⟩
    · exact ⟨'/', '/', by decide, rfl, rfl⟩
  · cases hb
    cases h
    exact ⟨'b', '\x08', by decide, rfl, rfl⟩
  · cases hf
    cases h
    exact ⟨'f', '\x0c', by decide, rfl, rfl⟩
  · cases hn
    cases h
    exact ⟨'n', '\n', by decide, rfl, rfl⟩
  · cases hr
    cases h
    exact ⟨'r', '\r', by decide, rfl, rfl⟩
  · cases ht
    cases h
    exact ⟨'t', '\t', by decide, rfl, rfl⟩

/-! ## Spellings are read -/

theorem withBytes_withBytes (front back : List UInt8) (r : Except Fault (List UInt8 × List UInt8)) :
    withBytes front (withBytes back r) = withBytes (front ++ back) r := by
  cases r with
  | error f => rfl
  | ok p => simp [withBytes]

theorem withBytes_nil (r : Except Fault (List UInt8 × List UInt8)) : withBytes [] r = r := by
  cases r <;> rfl

/-- A byte that neither ends a string nor needs an escape stands for itself. -/
theorem scanString_plain {b : UInt8} (rest : List UInt8) (hquote : b ≠ 0x22) (hlow : ¬ b < 0x20)
    (hslash : b ≠ 0x5C) : scanString (b :: rest) = withBytes [b] (scanString rest) := by
  rw [scanString.eq_def]
  simp only [if_neg hquote, if_neg hlow, if_pos hslash]

theorem scanString_beyond (bytes rest : List UInt8) (h : ∀ b ∈ bytes, 128 ≤ b.toNat) :
    scanString (bytes ++ rest) = withBytes bytes (scanString rest) := by
  induction bytes with
  | nil => rw [List.nil_append, withBytes_nil]
  | cons b bytes ih =>
    have hb : 128 ≤ b.toNat := h b List.mem_cons_self
    have hquote : b ≠ 0x22 := fun e => absurd hb (by rw [e]; decide)
    have hslash : b ≠ 0x5C := fun e => absurd hb (by rw [e]; decide)
    have hlow : ¬ b < 0x20 := by
      simp only [UInt8.lt_iff_toNat_lt, UInt8.reduceToNat]
      omega
    rw [List.cons_append, scanString_plain _ hquote hlow hslash,
      ih fun x hx => h x (List.mem_cons_of_mem b hx), withBytes_withBytes, List.singleton_append]

/-- A character that may stand for itself between quotes. -/
theorem scanString_char {c : Char} (rest : List UInt8) (low : 0x20 ≤ c.toNat) (quote : c ≠ '"')
    (slash : c ≠ '\\') :
    scanString (String.utf8EncodeChar c ++ rest) = withBytes (String.utf8EncodeChar c) (scanString rest) := by
  by_cases hascii : c.toNat < 128
  · have hb : (UInt8.ofNat c.toNat).toNat = c.toNat := Utf8.toNat_ofNat_of_lt (by omega)
    have hne : ∀ d : Char, c ≠ d → d.toNat < 128 → UInt8.ofNat c.toNat ≠ UInt8.ofNat d.toNat := by
      intro d hd hlt e
      have hn : c.toNat = d.toNat := by
        rw [← hb, e, Utf8.toNat_ofNat_of_lt (by omega)]
      exact hd (Char.toNat_inj.1 hn)
    rw [Utf8.encode_one (Nat.le_of_lt_succ hascii), List.singleton_append]
    refine scanString_plain rest (hne '"' quote (by decide)) ?_ (hne '\\' slash (by decide))
    rw [UInt8.lt_iff_toNat_lt, hb]
    exact Nat.not_lt.mpr low
  · exact scanString_beyond _ rest fun b hb => Utf8.le_of_mem_encode (by omega) hb

theorem scanString_short_escape {letter c : Char} (rest : List UInt8) (h : (letter, c) ∈ shortEscapes) :
    scanString (Utf8.encode ['\\', letter] ++ rest) =
      withBytes (String.utf8EncodeChar c) (scanString rest) := by
  obtain ⟨e, b, hbytes, hne, hread, hc⟩ := shortUnescape?_of_mem h
  rw [hbytes, hc, List.cons_append, List.singleton_append, scanString.eq_def]
  simp [hne, hread]

theorem scanString_unit {c : Char} {w : List UInt8} (rest : List UInt8) (h : w ∈ codeUnit c.toNat) :
    scanString (Utf8.encode ['\\', 'u'] ++ w ++ rest) =
      withBytes (String.utf8EncodeChar c) (scanString rest) := by
  obtain ⟨h₁, h₂, h₃, h₄, rfl, hunit⟩ := hexUnit?_of_mem h
  have hs := Utf8.scalar c
  have hleading : isLeading c.toNat = false := by simp [isLeading]; omega
  have htrailing : isTrailing c.toNat = false := by simp [isTrailing]; omega
  have hbytes : Utf8.encode ['\\', 'u'] ++ [h₁, h₂, h₃, h₄] ++ rest =
      0x5C :: 0x75 :: h₁ :: h₂ :: h₃ :: h₄ :: rest := rfl
  rw [hbytes, scanString.eq_def]
  simp [hunit, hleading, htrailing]

theorem scanString_pair {c : Char} {leading trailing : Nat} {v w : List UInt8} (rest : List UInt8)
    (hv : v ∈ codeUnit leading) (hw : w ∈ codeUnit trailing)
    (hleading : 0xD800 ≤ leading ∧ leading < 0xDC00) (htrailing : 0xDC00 ≤ trailing ∧ trailing < 0xE000)
    (h : c.toNat = 0x10000 + (leading - 0xD800) * 0x400 + (trailing - 0xDC00)) :
    scanString (Utf8.encode ['\\', 'u'] ++ v ++ (Utf8.encode ['\\', 'u'] ++ w) ++ rest) =
      withBytes (String.utf8EncodeChar c) (scanString rest) := by
  obtain ⟨h₁, h₂, h₃, h₄, rfl, hfirst⟩ := hexUnit?_of_mem hv
  obtain ⟨k₁, k₂, k₃, k₄, rfl, hsecond⟩ := hexUnit?_of_mem hw
  have hl : isLeading leading = true := by simp [isLeading]; omega
  have hlt : isTrailing leading = false := by simp [isTrailing]; omega
  have ht : isTrailing trailing = true := by simp [isTrailing]; omega
  have hchar : pairChar leading trailing = c := by
    apply Utf8.ofNat_eq_of_toNat
    omega
  have hbytes : Utf8.encode ['\\', 'u'] ++ [h₁, h₂, h₃, h₄] ++
      (Utf8.encode ['\\', 'u'] ++ [k₁, k₂, k₃, k₄]) ++ rest =
      0x5C :: 0x75 :: h₁ :: h₂ :: h₃ :: h₄ :: 0x5C :: 0x75 :: k₁ :: k₂ :: k₃ :: k₄ :: rest := rfl
  rw [hbytes, scanString.eq_def]
  simp [hfirst, hsecond, hl, hlt, ht, hchar]

theorem scanString_spells {c : Char} {w : List UInt8} (rest : List UInt8) (h : Spells c w) :
    scanString (w ++ rest) = withBytes (String.utf8EncodeChar c) (scanString rest) := by
  cases h with
  | plain low quote slash => exact scanString_char rest low quote slash
  | short h => exact scanString_short_escape rest h
  | unit h => exact scanString_unit rest h
  | pair hv hw hleading htrailing h => exact scanString_pair rest hv hw hleading htrailing h

theorem inside_cons (c : Char) (cs : List Char) : inside (c :: cs) = character c * inside cs := List.prod_cons

theorem scanString_inside {cs : List Char} {w : List UInt8} (rest : List UInt8) (h : w ∈ inside cs) :
    scanString (w ++ 0x22 :: rest) = .ok (Utf8.encode cs, rest) := by
  induction cs generalizing w with
  | nil =>
    have hw : w = [] := h
    rw [hw, List.nil_append, scanString.eq_def]
    rfl
  | cons c cs ih =>
    rw [inside_cons, Language.mem_mul] at h
    obtain ⟨v, hv, w, hw, rfl⟩ := h
    rw [List.append_assoc, scanString_spells _ hv, ih hw, Utf8.encode_cons]
    rfl

/-! ## What is read is a spelling -/

/-- A byte that may stand for itself belongs to a character that may. -/
theorem spells_of_front {c : Char} {b : UInt8} {more : List UInt8} (h : String.utf8EncodeChar c = b :: more)
    (hquote : b ≠ 0x22) (hlow : ¬ b < 0x20) (hslash : b ≠ 0x5C) : Spells c (b :: more) := by
  rw [← h]
  have hascii : c.toNat < 128 → b = UInt8.ofNat c.toNat := by
    intro hc
    rw [Utf8.encode_one (by omega)] at h
    cases h
    rfl
  apply Spells.plain
  · apply Nat.le_of_not_lt
    intro hc
    apply hlow
    rw [hascii (by omega), UInt8.lt_iff_toNat_lt, Utf8.toNat_ofNat_of_lt (by omega)]
    exact hc
  · rintro rfl
    exact hquote (hascii (by decide))
  · rintro rfl
    exact hslash (hascii (by decide))

/-- The rest of a spelling, from within a character on: the tail bytes of that character as they stand,
then the characters behind it. -/
def Within (more : List UInt8) (cs : List Char) (input rest : List UInt8) : Prop :=
  ∃ w ∈ inside cs, input = more ++ (w ++ 0x22 :: rest)

theorem Within.spelled {c : Char} {cs : List Char} {w input rest : List UInt8} (hw : Spells c w)
    (h : Within [] cs input rest) : Within [] (c :: cs) (w ++ input) rest := by
  obtain ⟨v, hv, rfl⟩ := h
  refine ⟨w ++ v, ?_, by simp⟩
  rw [inside_cons]
  exact Language.append_mem_mul hw hv

theorem Within.byte {b : UInt8} {more tail input rest : List UInt8} {cs : List Char}
    (hquote : b ≠ 0x22) (hlow : ¬ b < 0x20) (hslash : b ≠ 0x5C)
    (hmore : ∀ x ∈ more, Utf8.isTail x = true) (h : b :: tail = more ++ Utf8.encode cs)
    (ih : ∀ more' cs', (∀ x ∈ more', Utf8.isTail x = true) → tail = more' ++ Utf8.encode cs' →
      Within more' cs' input rest) : Within more cs (b :: input) rest := by
  cases more with
  | cons x more =>
    -- The byte goes on with the character under way.
    cases h
    obtain ⟨w, hw, rfl⟩ := ih more cs (fun x hx => hmore x (List.mem_cons_of_mem _ hx)) rfl
    exact ⟨w, hw, rfl⟩
  | nil =>
    cases cs with
    | nil => cases h
    | cons c cs =>
      obtain ⟨front, more, hc, -, htail⟩ := Utf8.encode_front c
      rw [List.nil_append, Utf8.encode_cons, hc, List.cons_append] at h
      cases h
      obtain ⟨w, hw, rfl⟩ := ih more cs htail rfl
      have hspells := spells_of_front hc hquote hlow hslash
      simpa using Within.spelled hspells ⟨w, hw, rfl⟩

theorem Within.escape {c : Char} {w more tail input rest : List UInt8} {cs : List Char} (hw : Spells c w)
    (hmore : ∀ x ∈ more, Utf8.isTail x = true)
    (h : String.utf8EncodeChar c ++ tail = more ++ Utf8.encode cs)
    (ih : ∀ cs', tail = Utf8.encode cs' → Within [] cs' input rest) : Within more cs (w ++ input) rest := by
  obtain ⟨front, after, hc, hfront, -⟩ := Utf8.encode_front c
  cases more with
  | cons x more =>
    -- The first byte of a character is no tail byte.
    rw [hc, List.cons_append, List.cons_append, List.cons.injEq] at h
    have hx := hmore x List.mem_cons_self
    rw [← h.1, hfront] at hx
    cases hx
  | nil =>
    obtain ⟨cs', rfl, htail⟩ := Utf8.encode_cancel h.symm
    exact (ih cs' htail).spelled hw

theorem spells_unit {u : Nat} {h₁ h₂ h₃ h₄ : UInt8} (h : hexUnit? h₁ h₂ h₃ h₄ = some u)
    (ht : isTrailing u = false) (hl : isLeading u = false) : Spells (Char.ofNat u) [0x5C, 0x75, h₁, h₂, h₃, h₄] := by
  have hunit := hexUnit?_eq_some_iff.mp h
  have hu : (Char.ofNat u).toNat = u := by
    obtain ⟨_, _, _, _, i, j, k, l, -, hi, hj, hk, hl', hsum⟩ := hunit
    simp only [isTrailing, isLeading, Bool.and_eq_false_iff, decide_eq_false_iff_not] at ht hl
    apply Utf8.toNat_charOfNat
    unfold HexDigit at hi hj hk hl'
    omega
  rw [← hu] at hunit
  exact Spells.unit hunit

theorem spells_pair {u t : Nat} {h₁ h₂ h₃ h₄ k₁ k₂ k₃ k₄ : UInt8} (hfirst : hexUnit? h₁ h₂ h₃ h₄ = some u)
    (hsecond : hexUnit? k₁ k₂ k₃ k₄ = some t) (hu : isLeading u = true) (ht : isTrailing t = true) :
    Spells (pairChar u t) [0x5C, 0x75, h₁, h₂, h₃, h₄, 0x5C, 0x75, k₁, k₂, k₃, k₄] := by
  simp only [isLeading, isTrailing, Bool.and_eq_true, decide_eq_true_eq] at hu ht
  have hchar : (pairChar u t).toNat = (u - 0xD800) * 1024 + (t - 0xDC00) + 0x10000 :=
    Utf8.toNat_charOfNat (by omega)
  exact Spells.pair (hexUnit?_eq_some_iff.mp hfirst) (hexUnit?_eq_some_iff.mp hsecond) (by omega)
    (by omega) (by omega)

theorem scanString_within {input rest out : List UInt8} (h : scanString input = .ok (out, rest)) :
    ∀ (more : List UInt8) (cs : List Char), (∀ x ∈ more, Utf8.isTail x = true) →
      out = more ++ Utf8.encode cs → Within more cs input rest := by
  fun_induction scanString input generalizing out <;> try cases h
  case case2 =>
    intro more cs hmore hout
    obtain ⟨rfl, hcs⟩ := List.append_eq_nil_iff.mp hout.symm
    cases cs with
    | nil => exact ⟨[], rfl, rfl⟩
    | cons c cs =>
      obtain ⟨front, after, hc, -⟩ := Utf8.encode_front c
      rw [Utf8.encode_cons, hc] at hcs
      cases hcs
  case case4 b input hquote hlow hslash ih =>
    obtain ⟨tail, rfl, htail⟩ := withBytes_eq_ok h
    intro more cs hmore hout
    exact Within.byte hquote hlow hslash hmore hout (ih htail)
  case case6 hslash e input hne b he ih =>
    obtain ⟨tail, rfl, htail⟩ := withBytes_eq_ok h
    obtain ⟨letter, c, hmem, hbytes, hc⟩ := mem_of_shortUnescape? he
    intro more cs hmore hout
    rw [← hc] at hout
    have hw := Within.escape (.short hmem) hmore hout fun cs' => ih htail [] cs' (by simp)
    rw [hbytes] at hw
    rw [of_not_not hslash]
    exact hw
  case case10 b _ _ hslash e hu h₁ h₂ h₃ h₄ input unit hunit htrailing hleading ih =>
    obtain ⟨tail, rfl, htail⟩ := withBytes_eq_ok h
    intro more cs hmore hout
    have hspells := spells_unit hunit (by simpa using htrailing) (by simpa using hleading)
    rw [of_not_not hslash, of_not_not hu]
    exact Within.escape hspells hmore hout fun cs' => ih htail [] cs' (by simp)
  case case16 b _ _ hslash e hu h₁ h₂ h₃ h₄ unit hunit _ hleading b' hslash' e' hu' k₁ k₂ k₃ k₄ input
      unit' hunit' htrailing ih =>
    obtain ⟨tail, hback, htail⟩ := withBytes_eq_ok h
    intro more cs hmore hout
    rw [hback] at hout
    have hspells := spells_pair hunit hunit' (by simpa using hleading) htrailing
    rw [of_not_not hslash, of_not_not hu, of_not_not hslash', of_not_not hu']
    exact Within.escape hspells hmore hout fun cs' => ih htail [] cs' (by simp)

/-- The scanner reads a string, behind its opening quote, from exactly the spellings of that string. -/
theorem scanQuoted_eq_ok_iff {input rest : List UInt8} {s : String} :
    scanQuoted input = .ok (s, rest) ↔ ∃ w ∈ inside s.toList, input = w ++ 0x22 :: rest := by
  constructor
  · intro h
    unfold scanQuoted at h
    cases hs : scanString input with
    | error f => simp [hs, bind, Except.bind] at h
    | ok p =>
      obtain ⟨out, rest'⟩ := p
      simp only [hs, bind, Except.bind] at h
      split at h
      · next s' htext =>
        cases h
        rw [Utf8.text_eq_ok_iff] at htext
        exact scanString_within hs [] s.toList (by simp) htext
      · cases h
  · rintro ⟨w, hw, rfl⟩
    have htext : Utf8.text (Utf8.encode s.toList) = .ok s := Utf8.text_bytes s
    rw [scanQuoted, scanString_inside rest hw]
    simp only [bind, Except.bind, htext]
    rfl

end MessageBus.Json
