import MessageBus.Json.Token
import MessageBus.Proofs.Json.Numbers
import MessageBus.Proofs.Json.Strings
/-!
# Tokens against the grammar

The lexer finds a token exactly where one of its spellings stands, behind blanks (`lex_token`, `of_lex_cons`),
but that a number must end before what follows it. A string is a numeral exactly if it is the text of a
literal (`numeral?_eq_ok_iff`).
-/
namespace MessageBus.Json
set_option autoImplicit false

/-- The spellings of a token. -/
def Token.spellings : Token → Language UInt8
  | .openBrace => word "\x7b"
  | .closeBrace => word "\x7d"
  | .openBracket => word "["
  | .closeBracket => word "]"
  | .colon => word ":"
  | .comma => word ","
  | .null => word "null"
  | .bool true => word "true"
  | .bool false => word "false"
  | .number n => {w | ∃ l : Literal, l.number = n ∧ w = Utf8.encode l.text}
  | .string s => quoted s

/-- Where a number must end before what follows it. -/
def Token.isNumber : Token → Bool
  | .number _ => true
  | _ => false

/-! ## A token is found -/

theorem lex_cons_token {b : UInt8} {input rest : List UInt8} {t : Token} (hblank : isBlank b = false)
    (h : scanToken b input = .ok (t, rest)) : lex (b :: input) = .token t :: lex rest := by
  rw [lex]
  simp only [hblank, Bool.false_eq_true, if_false]
  split
  next t' rest' h' =>
    rw [h] at h'
    cases h'
    rfl
  next f h' =>
    rw [h] at h'
    cases h'

theorem digit_front (d : Digit) (input : List UInt8) :
    isBlank (UInt8.ofNat d.char.toNat) = false ∧
      scanToken (UInt8.ofNat d.char.toNat) input =
        (fun p => (.number p.1, p.2)) <$> scanNumber false (UInt8.ofNat d.char.toNat :: input) := by
  match d with
  | 0 | 1 | 2 | 3 | 4 | 5 | 6 | 7 | 8 | 9 => exact ⟨rfl, rfl⟩

theorem magnitude_front (l : Literal) : ∃ (d : Digit) (tail : List UInt8),
    Utf8.encode l.magnitude = UInt8.ofNat d.char.toNat :: tail := by
  obtain ⟨d, digits, hw⟩ := List.exists_cons_of_ne_nil l.whole_ne_nil
  rw [Literal.magnitude, hw, List.map_cons, List.cons_append, Utf8.encode_cons, encode_digit]
  exact ⟨d, _, rfl⟩

theorem lex_literal (l : Literal) {rest : List UInt8} (h : EndsNumber rest) :
    lex (Utf8.encode l.text ++ rest) = .token (.number l.number) :: lex rest := by
  have hscan := scanNumber_magnitude l h
  rw [l.text_eq]
  cases hneg : l.negative with
  | true =>
    rw [hneg] at hscan
    have htoken : scanToken 0x2D (Utf8.encode l.magnitude ++ rest) = .ok (.number l.number, rest) :=
      congrArg (Functor.map fun p : Number × List UInt8 => (Token.number p.1, p.2)) hscan
    exact lex_cons_token (by decide) htoken
  | false =>
    obtain ⟨d, tail, htail⟩ := magnitude_front l
    rw [hneg, htail, List.cons_append] at hscan
    rw [if_neg Bool.false_ne_true, List.nil_append, htail, List.cons_append]
    have htoken : scanToken (UInt8.ofNat d.char.toNat) (tail ++ rest) = .ok (.number l.number, rest) := by
      rw [(digit_front d _).2, hscan]
      rfl
    exact lex_cons_token (digit_front d (tail ++ rest)).1 htoken

theorem quoted_iff {s : String} {w : List UInt8} :
    w ∈ quoted s ↔ ∃ v ∈ inside s.toList, w = 0x22 :: (v ++ [0x22]) := by
  rw [quoted, Language.mem_mul]
  constructor
  · rintro ⟨_, ⟨_, rfl, v, hv, rfl⟩, _, rfl, rfl⟩
    exact ⟨v, hv, rfl⟩
  · rintro ⟨v, hv, rfl⟩
    exact ⟨_, Language.append_mem_mul rfl hv, _, rfl, rfl⟩

/-- A token is read from each of its spellings; a number needs to end there. -/
theorem lex_token {t : Token} {w rest : List UInt8} (hw : w ∈ t.spellings)
    (h : t.isNumber → EndsNumber rest) : lex (w ++ rest) = .token t :: lex rest := by
  cases t with
  | number n =>
    obtain ⟨l, rfl, rfl⟩ := hw
    exact lex_literal l (h rfl)
  | string s =>
    obtain ⟨v, hv, rfl⟩ := quoted_iff.mp hw
    have hscan : scanQuoted (v ++ 0x22 :: rest) = .ok (s, rest) := scanQuoted_eq_ok_iff.mpr ⟨v, hv, rfl⟩
    have htoken : scanToken 0x22 (v ++ 0x22 :: rest) = .ok (.string s, rest) :=
      congrArg (Functor.map fun p : String × List UInt8 => (Token.string p.1, p.2)) hscan
    rw [List.cons_append, List.append_assoc, List.singleton_append]
    exact lex_cons_token (by decide) htoken
  | bool b =>
    cases b with
    | true =>
      cases hw
      exact lex_cons_token (by decide) rfl
    | false =>
      cases hw
      exact lex_cons_token (by decide) rfl
  | openBrace | closeBrace | openBracket | closeBracket | colon | comma | null =>
    cases hw
    exact lex_cons_token (by decide) rfl

theorem isBlank_iff {b : UInt8} : isBlank b = true ↔ b = 0x20 ∨ b = 0x09 ∨ b = 0x0A ∨ b = 0x0D := by
  simp [isBlank, or_assoc]

theorem lex_blanks {w : List UInt8} (hw : w ∈ blanks) (rest : List UInt8) : lex (w ++ rest) = lex rest := by
  induction w with
  | nil => rfl
  | cons b w ih =>
    have hb : isBlank b = true := isBlank_iff.mpr (hw b List.mem_cons_self)
    rw [List.cons_append, lex, if_pos hb]
    exact ih fun x hx => hw x (List.mem_cons_of_mem b hx)

/-! ## What is found is a token -/

theorem eq_of_scanWord {w input rest : List UInt8} (h : scanWord w input = .ok rest) :
    input = w ++ rest := by
  fun_induction scanWord w input with
  | case1 input =>
    cases h
    rfl
  | case2 => cases h
  | case3 b w input ih => rw [ih h, List.cons_append]
  | case4 => cases h

theorem mem_of_punctuation? {b : UInt8} {t : Token} (h : punctuation? b = some t) : [b] ∈ t.spellings := by
  unfold punctuation? at h
  split_ifs at h with hb hb hb hb hb hb
  all_goals
    cases h
    rw [hb]
    rfl

theorem of_scanToken {b : UInt8} {input rest : List UInt8} {t : Token}
    (h : scanToken b input = .ok (t, rest)) : ∃ w ∈ t.spellings, b :: input = w ++ rest := by
  unfold scanToken at h
  split at h
  · next hb =>
    cases h
    exact ⟨[b], mem_of_punctuation? hb, rfl⟩
  · split_ifs at h with hquote hn ht hf hminus hdigit
    · obtain ⟨⟨s, rest'⟩, hs, e⟩ := map_eq_ok h
      cases e
      obtain ⟨v, hv, rfl⟩ := scanQuoted_eq_ok_iff.mp hs
      rw [hquote]
      exact ⟨_, quoted_iff.mpr ⟨v, hv, rfl⟩, by simp⟩
    · obtain ⟨rest', hw, e⟩ := map_eq_ok h
      cases e
      rw [hn, eq_of_scanWord hw]
      exact ⟨_, rfl, rfl⟩
    · obtain ⟨rest', hw, e⟩ := map_eq_ok h
      cases e
      rw [ht, eq_of_scanWord hw]
      exact ⟨_, rfl, rfl⟩
    · obtain ⟨rest', hw, e⟩ := map_eq_ok h
      cases e
      rw [hf, eq_of_scanWord hw]
      exact ⟨_, rfl, rfl⟩
    · obtain ⟨⟨n, rest'⟩, hs, e⟩ := map_eq_ok h
      cases e
      obtain ⟨l, hl, hneg, rfl⟩ := scanNumber_literal hs
      refine ⟨_, ⟨l, hl, rfl⟩, ?_⟩
      rw [l.text_eq, hneg, hminus]
      rfl
    · obtain ⟨⟨n, rest'⟩, hs, e⟩ := map_eq_ok h
      cases e
      obtain ⟨l, hl, hneg, hbytes⟩ := scanNumber_literal hs
      refine ⟨_, ⟨l, hl, rfl⟩, ?_⟩
      rw [l.text_eq, hneg, hbytes]
      rfl

theorem of_lex_cons {input : List UInt8} {t : Token} {more : List Lexeme}
    (h : lex input = .token t :: more) :
    ∃ w ∈ blanks * t.spellings, ∃ rest, input = w ++ rest ∧ lex rest = more := by
  fun_induction lex input with
  | case1 => cases h
  | case2 b input hb ih =>
    obtain ⟨w, hw, rest, rfl, hrest⟩ := ih h
    obtain ⟨v, hv, u, hu, rfl⟩ := Language.mem_mul.mp hw
    have hblank : b :: v ∈ blanks := List.forall_mem_cons.mpr ⟨isBlank_iff.mp hb, hv⟩
    exact ⟨_, Language.append_mem_mul hblank hu, rest, rfl, hrest⟩
  | case3 b input hb t' tail hscan hlength ih =>
    cases h
    obtain ⟨w, hw, hbytes⟩ := of_scanToken hscan
    have hnone : [] ∈ blanks := List.forall_mem_nil _
    exact ⟨_, Language.append_mem_mul hnone hw, tail, hbytes, rfl⟩
  | case4 => cases h

theorem of_lex_nil {input : List UInt8} (h : lex input = []) : input ∈ blanks := by
  fun_induction lex input with
  | case1 => exact List.forall_mem_nil _
  | case2 b input hb ih => exact List.forall_mem_cons.mpr ⟨isBlank_iff.mp hb, ih h⟩
  | case3 => cases h
  | case4 => cases h

/-! ## Numerals -/

theorem takeMinus_text (l : Literal) :
    takeMinus (Utf8.encode l.text) = (l.negative, Utf8.encode l.magnitude) := by
  rw [l.text_eq]
  cases l.negative with
  | true => rfl
  | false =>
    obtain ⟨d, tail, htail⟩ := magnitude_front l
    have hminus : ∀ d : Digit, UInt8.ofNat d.char.toNat ≠ 0x2D := by decide
    simp only [Bool.false_eq_true, if_false, List.nil_append, htail, takeMinus, if_neg (hminus d)]

theorem eq_of_takeMinus (input : List UInt8) :
    input = Utf8.encode (if (takeMinus input).1 then ['-'] else []) ++ (takeMinus input).2 := by
  unfold takeMinus
  split
  · rfl
  · split
    · next hb => rw [hb]; rfl
    · rfl

theorem numeral?_text (l : Literal) : numeral? (String.ofList l.text) = .ok l.number := by
  have hends : EndsNumber [] := by
    intro b hb
    cases hb
  have hscan := scanNumber_magnitude l hends
  rw [List.append_nil] at hscan
  simp only [numeral?, Utf8.bytes, String.toList_ofList, takeMinus_text, hscan, bind, Except.bind]
  rfl

/-- A string is a numeral exactly if it is the text of a literal. -/
theorem numeral?_eq_ok_iff {s : String} {n : Number} :
    numeral? s = .ok n ↔ ∃ l : Literal, l.number = n ∧ s = String.ofList l.text := by
  constructor
  · intro h
    unfold numeral? at h
    cases hscan : scanNumber (takeMinus (Utf8.bytes s)).1 (takeMinus (Utf8.bytes s)).2 with
    | error f => simp [hscan, bind, Except.bind] at h
    | ok p =>
      simp only [hscan, bind, Except.bind] at h
      split_ifs at h with hrest
      cases h
      obtain ⟨l, hl, hneg, hdigits⟩ := scanNumber_literal hscan
      rw [List.isEmpty_iff.mp hrest, List.append_nil] at hdigits
      have hbytes := eq_of_takeMinus (Utf8.bytes s)
      rw [hdigits, ← hneg, ← Utf8.encode_append, ← l.text_eq] at hbytes
      have htext : Utf8.text (Utf8.bytes s) = .ok (String.ofList l.text) := by
        rw [Utf8.text_eq_ok_iff, hbytes, Utf8.bytes, String.toList_ofList]
      rw [Utf8.text_bytes] at htext
      exact ⟨l, hl, Except.ok.inj htext⟩
  · rintro ⟨l, rfl, rfl⟩
    exact numeral?_text l

end MessageBus.Json
