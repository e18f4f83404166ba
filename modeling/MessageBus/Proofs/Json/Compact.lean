import MessageBus.Proofs.Json.Spelling
/-!
# The compact text of a value

`bytes_mem`: what is written for a value is one of the spellings of a source of that value, so it is cut
into the tokens of the value (`lex_bytes`).
-/
namespace MessageBus.Json
set_option autoImplicit false

/-! ## Numbers -/

/-- The exponent as it is written in normal form. -/
def Exponent.power (e : Exponent) : Power :=
  ⟨false, if e.negative then .minus else .plus, e.digits, e.digits_ne_nil⟩

theorem Exponent.normal_power (e : Exponent) : e.power.normal = e := by
  obtain ⟨negative, digits, hne⟩ := e
  cases negative <;> rfl

theorem Exponent.text_power (e : Exponent) : e.power.text = Number.exponentText (some e) := by
  obtain ⟨negative, digits, hne⟩ := e
  cases negative <;> rfl

def Number.literal (n : Number) : Literal :=
  ⟨n.negative, n.whole, n.fraction, n.exponent.map Exponent.power, n.whole_plain⟩

theorem Number.number_literal (n : Number) : n.literal.number = n := by
  obtain ⟨negative, whole, fraction, exponent, hplain⟩ := n
  cases exponent with
  | none => rfl
  | some e => simp [Number.literal, Literal.number, e.normal_power]

theorem Number.text_literal (n : Number) : n.literal.text = n.text := by
  obtain ⟨negative, whole, fraction, exponent, hplain⟩ := n
  cases exponent with
  | none => rfl
  | some e => exact congrArg (Literal.mantissa ⟨negative, whole, fraction, _, hplain⟩ ++ ·) e.text_power

/-! ## Strings -/

theorem hexDigit_hexChar : ∀ n < 16, HexDigit (UInt8.ofNat (hexChar n).toNat) n := by
  unfold HexDigit
  decide

theorem hexChar_ascii : ∀ n < 16, (hexChar n).toNat < 128 := by decide

theorem spells_control {c : Char} (h : c.toNat < 0x20) :
    Spells c (Utf8.encode ['\\', 'u', '0', '0', hexChar (c.toNat / 16), hexChar (c.toNat % 16)]) := by
  have hhigh := hexChar_ascii (c.toNat / 16) (by omega)
  have hlow := hexChar_ascii (c.toNat % 16) (by omega)
  have hunit : Utf8.encode ['0', '0', hexChar (c.toNat / 16), hexChar (c.toNat % 16)] ∈ codeUnit c.toNat := by
    have hbytes : Utf8.encode ['0', '0', hexChar (c.toNat / 16), hexChar (c.toNat % 16)] =
        [0x30, 0x30, UInt8.ofNat (hexChar (c.toNat / 16)).toNat,
          UInt8.ofNat (hexChar (c.toNat % 16)).toNat] := by
      simp only [Utf8.encode_cons, Utf8.encode_one (Nat.le_of_lt_succ hhigh),
        Utf8.encode_one (Nat.le_of_lt_succ hlow)]
      rfl
    exact ⟨_, _, _, _, 0, 0, c.toNat / 16, c.toNat % 16, hbytes, .inl ⟨by decide, rfl⟩,
      .inl ⟨by decide, rfl⟩, hexDigit_hexChar _ (by omega), hexDigit_hexChar _ (by omega), by omega⟩
  exact Spells.unit hunit

theorem mem_of_shortEscape? {c letter : Char} (h : shortEscape? c = some letter) :
    (letter, c) ∈ shortEscapes := by
  unfold shortEscape? at h
  split at h <;> cases h <;> decide

theorem spells_escapedChar (c : Char) : Spells c (Utf8.encode (escapedChar c)) := by
  unfold escapedChar
  split
  · next letter h => exact Spells.short (mem_of_shortEscape? h)
  · next hnone =>
    split
    · next hlow => exact spells_control hlow
    · next hlow =>
      -- Quotes and backslashes have short escapes, so `c` is neither.
      have hquote : c ≠ '"' := by
        rintro rfl
        cases hnone
      have hslash : c ≠ '\\' := by
        rintro rfl
        cases hnone
      rw [Utf8.encode_cons, Utf8.encode_nil, List.append_nil]
      exact Spells.plain (Nat.le_of_not_lt hlow) hquote hslash

theorem encode_mem_inside (cs : List Char) : Utf8.encode (cs.flatMap escapedChar) ∈ inside cs := by
  induction cs with
  | nil => rfl
  | cons c cs ih =>
    rw [List.flatMap_cons, Utf8.encode_append, inside_cons]
    exact Language.append_mem_mul (spells_escapedChar c) ih

theorem encode_mem_quoted (s : String) : Utf8.encode (stringText s) ∈ quoted s := by
  have hbytes : Utf8.encode (stringText s) = 0x22 :: (Utf8.encode (s.toList.flatMap escapedChar) ++ [0x22]) := by
    rw [stringText, List.cons_append, Utf8.encode_cons, Utf8.encode_append]
    rfl
  rw [quoted_iff, hbytes]
  exact ⟨_, encode_mem_inside s.toList, rfl⟩

/-! ## Values -/

mutual

/-- The source that a value is written as. -/
def source : Json → Source
  | .null => .null
  | .bool b => .bool b
  | .number n => .number n.literal
  | .string s => .string s
  | .array items => .array (itemSources items)
  | .object members => .object (memberSources members)

def itemSources : List Json → List Source
  | [] => []
  | v :: rest => source v :: itemSources rest

def memberSources : List (String × Json) → List (String × Source)
  | [] => []
  | (k, v) :: rest => (k, source v) :: memberSources rest

end

mutual

theorem value_source : ∀ v : Json, v.source.value = v
  | .null | .bool _ | .string _ => rfl
  | .number n => congrArg Json.number n.number_literal
  | .array items => congrArg Json.array (itemValues_itemSources items)
  | .object members => congrArg Json.object (memberValues_memberSources members)

theorem itemValues_itemSources : ∀ items : List Json, Source.itemValues (itemSources items) = items
  | [] => rfl
  | v :: rest => by
    rw [itemSources, Source.itemValues, value_source v, itemValues_itemSources rest]

theorem memberValues_memberSources : ∀ members : List (String × Json),
    Source.memberValues (memberSources members) = members
  | [] => rfl
  | (k, v) :: rest => by
    rw [memberSources, Source.memberValues, value_source v, memberValues_memberSources rest]

end

/-- Tokens written one after another. -/
def compact (ts : List Token) : List UInt8 := Utf8.encode (ts.flatMap Token.text)

theorem compact_append (ts us : List Token) : compact (ts ++ us) = compact ts ++ compact us := by
  rw [compact, List.flatMap_append, Utf8.encode_append]
  rfl

theorem compact_cons (t : Token) (ts : List Token) :
    compact (t :: ts) = Utf8.encode t.text ++ compact ts := by
  rw [compact, List.flatMap_cons, Utf8.encode_append]
  rfl

theorem mem_behind_blanks {spellings : Language UInt8} {w : List UInt8} (h : w ∈ spellings) :
    w ∈ blanks * spellings := by
  have hnone : [] ∈ blanks := List.forall_mem_nil _
  exact Language.append_mem_mul hnone h

mutual

theorem compact_mem : ∀ v : Json, compact v.tokens ∈ v.source.spellings
  | .null | .bool true | .bool false => rfl
  | .number n => by
    have htext : Utf8.encode n.literal.text = Utf8.encode n.text := congrArg Utf8.encode n.text_literal
    rw [tokens, compact_cons, compact, List.flatMap_nil, Utf8.encode_nil, List.append_nil]
    exact htext.symm
  | .string s => by
    rw [tokens, compact_cons, compact, List.flatMap_nil, Utf8.encode_nil, List.append_nil]
    exact encode_mem_quoted s
  | .array items => by
    have hclose : compact [.closeBracket] ∈ blanks * word "]" := mem_behind_blanks rfl
    have hopen : Utf8.encode (Token.text .openBracket) ∈ word "[" := rfl
    rw [tokens, List.cons_append, compact_cons, compact_append]
    exact Language.append_mem_mul hopen (Language.append_mem_mul (compact_items items) hclose)
  | .object members => by
    have hclose : compact [.closeBrace] ∈ blanks * word "\x7d" := mem_behind_blanks rfl
    have hopen : Utf8.encode (Token.text .openBrace) ∈ word "\x7b" := rfl
    rw [tokens, List.cons_append, compact_cons, compact_append]
    exact Language.append_mem_mul hopen (Language.append_mem_mul (compact_members members) hclose)

theorem compact_items : ∀ items : List Json,
    compact (itemTokens items) ∈ Source.itemSpellings (itemSources items)
  | [] => rfl
  | v :: rest => by
    rw [itemTokens, compact_append]
    exact Language.append_mem_mul (mem_behind_blanks (compact_mem v)) (compact_moreItems rest)

theorem compact_moreItems : ∀ items : List Json,
    compact (moreItemTokens items) ∈ Source.moreItemSpellings (itemSources items)
  | [] => rfl
  | v :: rest => by
    have hcomma : Utf8.encode (Token.text .comma) ∈ blanks * word "," := mem_behind_blanks rfl
    have hv := Language.append_mem_mul (mem_behind_blanks (compact_mem v)) (compact_moreItems rest)
    rw [moreItemTokens, List.cons_append, compact_cons, compact_append]
    exact Language.append_mem_mul hcomma hv

theorem compact_members : ∀ members : List (String × Json),
    compact (memberTokens members) ∈ Source.memberSpellings (memberSources members)
  | [] => rfl
  | (k, v) :: rest => by
    have hkey : Utf8.encode (Token.text (.string k)) ∈ blanks * quoted k :=
      mem_behind_blanks (encode_mem_quoted k)
    have hcolon : Utf8.encode (Token.text .colon) ∈ blanks * word ":" := mem_behind_blanks rfl
    have hv := Language.append_mem_mul (mem_behind_blanks (compact_mem v)) (compact_moreMembers rest)
    rw [memberTokens, List.cons_append, List.cons_append, compact_cons, compact_cons, compact_append]
    exact Language.append_mem_mul hkey (Language.append_mem_mul hcolon hv)

theorem compact_moreMembers : ∀ members : List (String × Json),
    compact (moreMemberTokens members) ∈ Source.moreMemberSpellings (memberSources members)
  | [] => rfl
  | (k, v) :: rest => by
    have hcomma : Utf8.encode (Token.text .comma) ∈ blanks * word "," := mem_behind_blanks rfl
    have hkey : Utf8.encode (Token.text (.string k)) ∈ blanks * quoted k :=
      mem_behind_blanks (encode_mem_quoted k)
    have hcolon : Utf8.encode (Token.text .colon) ∈ blanks * word ":" := mem_behind_blanks rfl
    have hv := Language.append_mem_mul (mem_behind_blanks (compact_mem v)) (compact_moreMembers rest)
    rw [moreMemberTokens, List.cons_append, List.cons_append, List.cons_append, compact_cons, compact_cons,
      compact_cons, compact_append]
    exact Language.append_mem_mul hcomma
      (Language.append_mem_mul hkey (Language.append_mem_mul hcolon hv))

end

theorem bytes_mem (v : Json) : v.bytes ∈ v.source.text := by
  have hnone : [] ∈ blanks := List.forall_mem_nil _
  have h := Language.append_mem_mul (mem_behind_blanks (compact_mem v)) hnone
  rwa [List.append_nil] at h

/-- The text of a value is cut into the tokens of the value. -/
theorem lex_bytes (v : Json) : lex v.bytes = v.tokens.map Lexeme.token :=
  Source.lex_eq_tokens_iff.mpr ⟨v.source, value_source v, bytes_mem v⟩

end MessageBus.Json
