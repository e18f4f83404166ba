import MessageBus.Proofs.Json.Lexing
/-!
# Sources against tokens

Every spelling of a source is cut into the tokens of the value that it writes (`lex_source`), and input
that starts with the tokens of a value starts with a spelling of some source of it (`of_lex_value`).
-/
namespace MessageBus.Json
set_option autoImplicit false

/-! ## Ends of numbers -/

/-- The tokens after which a number is at its end. -/
def Token.isCloser : Token → Bool
  | .closeBrace | .closeBracket | .comma => true
  | _ => false

/-- Before each of the spellings a number is at its end if it is without them. -/
def Closes (spellings : Language UInt8) : Prop :=
  ∀ w ∈ spellings, ∀ rest, EndsNumber rest → EndsNumber (w ++ rest)

theorem endsNumber_nil : EndsNumber [] := by
  intro b hb
  cases hb

theorem closes_one : Closes 1 := by
  rintro w rfl rest h
  exact h

theorem closes_blanks : Closes blanks := by
  intro w hw rest h
  cases w with
  | nil => exact h
  | cons b w =>
    intro b' hb'
    cases hb'
    rcases hw b List.mem_cons_self with rfl | rfl | rfl | rfl <;> decide

theorem closes_closer {t : Token} (ht : t.isCloser = true) (more : Language UInt8) :
    Closes (blanks * t.spellings * more) := by
  intro w hw rest _
  obtain ⟨_, ⟨v, hv, u, hu, rfl⟩, x, _, rfl⟩ := hw
  have hfront : EndsNumber (u ++ (x ++ rest)) := by
    cases t with
    | closeBrace | closeBracket | comma =>
      cases hu
      intro b hb
      cases hb
      decide
    | openBrace | openBracket | colon | null | bool _ | number _ | string _ => cases ht
  have h := closes_blanks v hv _ hfront
  simpa using h

/-! ## Spellings are cut into tokens -/

/-- Each of the spellings is cut into these tokens if what follows ends a number. -/
def Cuts (spellings : Language UInt8) (ts : List Token) : Prop :=
  ∀ w ∈ spellings, ∀ rest, EndsNumber rest → lex (w ++ rest) = ts.map Lexeme.token ++ lex rest

variable {front back : Language UInt8} {ts us : List Token} {t : Token}

theorem cuts_one : Cuts 1 [] := by
  rintro w rfl rest -
  rfl

theorem cuts_token (t : Token) : Cuts t.spellings [t] :=
  fun _ hw _ h => lex_token hw fun _ => h

theorem Cuts.behind_blanks (h : Cuts back us) : Cuts (blanks * back) us := by
  intro w hw rest hrest
  obtain ⟨v, hv, u, hu, rfl⟩ := Language.mem_mul.mp hw
  rw [List.append_assoc, lex_blanks hv, h u hu rest hrest]

theorem Cuts.mul (h : Cuts front ts) (hback : Cuts back us) (hcloses : Closes back) :
    Cuts (front * back) (ts ++ us) := by
  intro w hw rest hrest
  obtain ⟨v, hv, u, hu, rfl⟩ := Language.mem_mul.mp hw
  rw [List.append_assoc, h v hv _ (hcloses u hu rest hrest), hback u hu rest hrest, List.map_append,
    List.append_assoc]

theorem Cuts.cons (ht : t.isNumber = false) (h : Cuts back us) : Cuts (t.spellings * back) (t :: us) := by
  intro w hw rest hrest
  obtain ⟨v, hv, u, hu, rfl⟩ := Language.mem_mul.mp hw
  have hnumber : t.isNumber = true → EndsNumber (u ++ rest) := by
    rw [ht]
    rintro ⟨⟩
  rw [List.append_assoc, lex_token hv hnumber, h u hu rest hrest]
  rfl

theorem Cuts.lexeme (ht : t.isNumber = false) (h : Cuts back us) :
    Cuts (blanks * t.spellings * back) (t :: us) := by
  rw [mul_assoc]
  exact (h.cons ht).behind_blanks

theorem cuts_end (t : Token) : Cuts (blanks * t.spellings) [t] := (cuts_token t).behind_blanks

theorem closes_end (ht : t.isCloser = true) : Closes (blanks * t.spellings) := by
  have h := closes_closer ht 1
  rwa [mul_one] at h

namespace Source

theorem closes_moreItems (items : List Source) : Closes (moreItemSpellings items) := by
  cases items with
  | nil => exact closes_one
  | cons d rest => exact closes_closer (t := .comma) rfl _

theorem closes_moreMembers (members : List (String × Source)) : Closes (moreMemberSpellings members) := by
  cases members with
  | nil => exact closes_one
  | cons m rest => exact closes_closer (t := .comma) rfl _

mutual

theorem cuts : ∀ d : Source, Cuts d.spellings d.value.tokens
  | .null => cuts_token .null
  | .bool true => cuts_token (.bool true)
  | .bool false => cuts_token (.bool false)
  | .number l => by
    rintro w rfl rest h
    exact lex_literal l h
  | .string s => cuts_token (.string s)
  | .array items => by
    have h := (cuts_items items).mul (cuts_end .closeBracket) (closes_end rfl)
    exact h.cons (t := .openBracket) rfl
  | .object members => by
    have h := (cuts_members members).mul (cuts_end .closeBrace) (closes_end rfl)
    exact h.cons (t := .openBrace) rfl

theorem cuts_items : ∀ items : List Source, Cuts (itemSpellings items) (itemTokens (itemValues items))
  | [] => cuts_one
  | d :: rest => (cuts d).behind_blanks.mul (cuts_moreItems rest) (closes_moreItems rest)

theorem cuts_moreItems : ∀ items : List Source,
    Cuts (moreItemSpellings items) (moreItemTokens (itemValues items))
  | [] => cuts_one
  | d :: rest => by
    have h := (cuts d).behind_blanks.mul (cuts_moreItems rest) (closes_moreItems rest)
    exact h.lexeme (t := .comma) rfl

theorem cuts_members : ∀ members : List (String × Source),
    Cuts (memberSpellings members) (memberTokens (memberValues members))
  | [] => cuts_one
  | (k, d) :: rest => by
    have h := (cuts d).behind_blanks.mul (cuts_moreMembers rest) (closes_moreMembers rest)
    have hcolon := h.lexeme (t := .colon) rfl
    exact hcolon.lexeme (t := .string k) rfl

theorem cuts_moreMembers : ∀ members : List (String × Source),
    Cuts (moreMemberSpellings members) (moreMemberTokens (memberValues members))
  | [] => cuts_one
  | (k, d) :: rest => by
    have h := (cuts d).behind_blanks.mul (cuts_moreMembers rest) (closes_moreMembers rest)
    have hcolon := h.lexeme (t := .colon) rfl
    have hkey := hcolon.lexeme (t := .string k) rfl
    exact hkey.lexeme (t := .comma) rfl

end

/-- A text is cut into the tokens of its value. -/
theorem lex_text {d : Source} {input : List UInt8} (h : input ∈ d.text) :
    lex input = d.value.tokens.map Lexeme.token := by
  obtain ⟨v, hv, w, hw, rfl⟩ := Language.mem_mul.mp h
  have hends : EndsNumber w := by
    have hw' := closes_blanks w hw [] endsNumber_nil
    rwa [List.append_nil] at hw'
  have hnone : lex w = [] := by
    have hw' := lex_blanks hw []
    rw [List.append_nil] at hw'
    rw [hw', lex]
  rw [d.cuts.behind_blanks v hv w hends, hnone, List.append_nil]

end Source

/-! ## Tokens come from spellings -/

/-- The input starts with one of the spellings, and what follows is cut into `more`. -/
def Starts (spellings : Language UInt8) (input : List UInt8) (more : List Lexeme) : Prop :=
  ∃ w ∈ spellings, ∃ rest, input = w ++ rest ∧ lex rest = more

variable {input w rest : List UInt8} {more : List Lexeme}

theorem starts_lexeme (h : lex input = .token t :: more) : Starts (blanks * t.spellings) input more :=
  of_lex_cons h

theorem Starts.append (hw : w ∈ front) (h : Starts back rest more) :
    Starts (front * back) (w ++ rest) more := by
  obtain ⟨u, hu, rest', rfl, hrest'⟩ := h
  exact ⟨w ++ u, Language.append_mem_mul hw hu, rest', by simp, hrest'⟩

namespace Source

mutual

theorem of_tokens : ∀ (v : Json) {input : List UInt8} {more : List Lexeme},
    lex input = v.tokens.map Lexeme.token ++ more →
      ∃ d : Source, d.value = v ∧ Starts (blanks * d.spellings) input more
  | .null, _, _, h => ⟨.null, rfl, starts_lexeme (t := .null) h⟩
  | .bool true, _, _, h => ⟨.bool true, rfl, starts_lexeme (t := .bool true) h⟩
  | .bool false, _, _, h => ⟨.bool false, rfl, starts_lexeme (t := .bool false) h⟩
  | .number n, _, _, h => by
    obtain ⟨_, ⟨v, hv, w, ⟨l, rfl, rfl⟩, rfl⟩, rest, rfl, hrest⟩ := starts_lexeme (t := .number n) h
    exact ⟨.number l, rfl, _, Language.append_mem_mul hv rfl, rest, rfl, hrest⟩
  | .string s, _, _, h => ⟨.string s, rfl, starts_lexeme (t := .string s) h⟩
  | .array items, input, more, h => by
    have hopen : lex input = .token .openBracket ::
        ((itemTokens items).map Lexeme.token ++ .token .closeBracket :: more) := by
      simpa [tokens] using h
    obtain ⟨w, hw, rest, rfl, hrest⟩ := starts_lexeme hopen
    obtain ⟨ds, hds, u, hu, rest', rfl, hrest'⟩ := of_itemTokens items hrest
    have hall := Starts.append hw (Starts.append hu (starts_lexeme hrest'))
    rw [mul_assoc] at hall
    exact ⟨.array ds, congrArg Json.array hds, hall⟩
  | .object members, input, more, h => by
    have hopen : lex input = .token .openBrace ::
        ((memberTokens members).map Lexeme.token ++ .token .closeBrace :: more) := by
      simpa [tokens] using h
    obtain ⟨w, hw, rest, rfl, hrest⟩ := starts_lexeme hopen
    obtain ⟨ds, hds, u, hu, rest', rfl, hrest'⟩ := of_memberTokens members hrest
    have hall := Starts.append hw (Starts.append hu (starts_lexeme hrest'))
    rw [mul_assoc] at hall
    exact ⟨.object ds, congrArg Json.object hds, hall⟩

theorem of_itemTokens : ∀ (items : List Json) {input : List UInt8} {more : List Lexeme},
    lex input = (itemTokens items).map Lexeme.token ++ more →
      ∃ ds, itemValues ds = items ∧ Starts (itemSpellings ds) input more
  | [], input, _, h => ⟨[], rfl, [], rfl, input, rfl, h⟩
  | v :: rest, input, more, h => by
    rw [itemTokens, List.map_append, List.append_assoc] at h
    obtain ⟨d, rfl, w, hw, tail, rfl, htail⟩ := of_tokens v h
    obtain ⟨ds, rfl, hds⟩ := of_moreItemTokens rest htail
    exact ⟨d :: ds, rfl, hds.append hw⟩

theorem of_moreItemTokens : ∀ (items : List Json) {input : List UInt8} {more : List Lexeme},
    lex input = (moreItemTokens items).map Lexeme.token ++ more →
      ∃ ds, itemValues ds = items ∧ Starts (moreItemSpellings ds) input more
  | [], input, _, h => ⟨[], rfl, [], rfl, input, rfl, h⟩
  | v :: rest, input, more, h => by
    have hcomma : lex input = .token .comma ::
        (v.tokens.map Lexeme.token ++ ((moreItemTokens rest).map Lexeme.token ++ more)) := by
      simpa [moreItemTokens] using h
    obtain ⟨u, hu, back, rfl, hback⟩ := starts_lexeme hcomma
    obtain ⟨d, rfl, w, hw, tail, rfl, htail⟩ := of_tokens v hback
    obtain ⟨ds, rfl, hds⟩ := of_moreItemTokens rest htail
    exact ⟨d :: ds, rfl, (hds.append hw).append hu⟩

theorem of_memberTokens : ∀ (members : List (String × Json)) {input : List UInt8} {more : List Lexeme},
    lex input = (memberTokens members).map Lexeme.token ++ more →
      ∃ ds, memberValues ds = members ∧ Starts (memberSpellings ds) input more
  | [], input, _, h => ⟨[], rfl, [], rfl, input, rfl, h⟩
  | (k, v) :: rest, input, more, h => by
    have hkey : lex input = .token (.string k) :: .token .colon ::
        (v.tokens.map Lexeme.token ++ ((moreMemberTokens rest).map Lexeme.token ++ more)) := by
      simpa [memberTokens] using h
    obtain ⟨s, hs, after, rfl, hafter⟩ := starts_lexeme hkey
    obtain ⟨u, hu, back, rfl, hback⟩ := starts_lexeme hafter
    obtain ⟨d, rfl, w, hw, tail, rfl, htail⟩ := of_tokens v hback
    obtain ⟨ds, rfl, hds⟩ := of_moreMemberTokens rest htail
    exact ⟨(k, d) :: ds, rfl, ((hds.append hw).append hu).append hs⟩

theorem of_moreMemberTokens : ∀ (members : List (String × Json)) {input : List UInt8}
    {more : List Lexeme}, lex input = (moreMemberTokens members).map Lexeme.token ++ more →
      ∃ ds, memberValues ds = members ∧ Starts (moreMemberSpellings ds) input more
  | [], input, _, h => ⟨[], rfl, [], rfl, input, rfl, h⟩
  | (k, v) :: rest, input, more, h => by
    have hcomma : lex input = .token .comma :: .token (.string k) :: .token .colon ::
        (v.tokens.map Lexeme.token ++ ((moreMemberTokens rest).map Lexeme.token ++ more)) := by
      simpa [moreMemberTokens] using h
    obtain ⟨x, hx, front, rfl, hfront⟩ := starts_lexeme hcomma
    obtain ⟨s, hs, after, rfl, hafter⟩ := starts_lexeme hfront
    obtain ⟨u, hu, back, rfl, hback⟩ := starts_lexeme hafter
    obtain ⟨d, rfl, w, hw, tail, rfl, htail⟩ := of_tokens v hback
    obtain ⟨ds, rfl, hds⟩ := of_moreMemberTokens rest htail
    exact ⟨(k, d) :: ds, rfl, (((hds.append hw).append hu).append hs).append hx⟩

end

/-- Bytes are cut into the tokens of a value exactly if they write it. -/
theorem lex_eq_tokens_iff {input : List UInt8} {v : Json} :
    lex input = v.tokens.map Lexeme.token ↔ ∃ d : Source, d.value = v ∧ input ∈ d.text := by
  constructor
  · intro h
    rw [← List.append_nil (v.tokens.map Lexeme.token)] at h
    obtain ⟨d, hd, w, hw, rest, rfl, hrest⟩ := of_tokens v h
    exact ⟨d, hd, Language.append_mem_mul hw (of_lex_nil hrest)⟩
  · rintro ⟨d, rfl, h⟩
    exact lex_text h

end Source
end MessageBus.Json
