import MessageBus.Proofs.Json.Parsing
/-!
# Values are told by their bytes

`bytes_inj`: two values with the same bytes are equal, however deep they nest. Tokens tell where a value
ends, whatever stands behind it (`tokens_append_inj`): the first one says what kind of value it is, no
item starts with a closing bracket, and each container ends with its own closing token.
-/
namespace MessageBus.Json
set_option autoImplicit false

theorem items_not_closed (v : Json) (items : List Json) (rest ts : List Token) :
    itemTokens (v :: items) ++ rest ≠ .closeBracket :: ts := by
  obtain ⟨t, more, hv, hne⟩ := tokens_front v
  rw [itemTokens, hv, List.cons_append, List.cons_append]
  exact fun h => hne (List.cons.inj h).1

mutual

/-- A value is told from its tokens and what stands behind them. -/
theorem tokens_append_inj : ∀ (v w : Json) {rest rest' : List Token},
    v.tokens ++ rest = w.tokens ++ rest' → v = w ∧ rest = rest'
  | .null, w, _, _, h | .bool _, w, _, _, h | .number _, w, _, _, h | .string _, w, _, _, h => by
    cases w <;> simp_all [tokens]
  | .array items, w, rest, rest', h => by
    cases w with
    | array items' =>
      simp only [tokens, List.cons_append, List.append_assoc, List.cons.injEq, true_and,
        List.nil_append] at h
      obtain ⟨rfl, rfl⟩ := itemTokens_inj items items' h
      exact ⟨rfl, rfl⟩
    | null | bool _ | number _ | string _ | object _ => simp [tokens] at h
  | .object members, w, rest, rest', h => by
    cases w with
    | object members' =>
      simp only [tokens, List.cons_append, List.append_assoc, List.cons.injEq, true_and,
        List.nil_append] at h
      obtain ⟨rfl, rfl⟩ := memberTokens_inj members members' h
      exact ⟨rfl, rfl⟩
    | null | bool _ | number _ | string _ | array _ => simp [tokens] at h

theorem itemTokens_inj : ∀ (items items' : List Json) {rest rest' : List Token},
    itemTokens items ++ .closeBracket :: rest = itemTokens items' ++ .closeBracket :: rest' →
      items = items' ∧ rest = rest'
  | [], [], _, _, h => ⟨rfl, (List.cons.inj h).2⟩
  | [], w :: ws, _, _, h => absurd h.symm (items_not_closed w ws _ _)
  | v :: vs, [], _, _, h => absurd h (items_not_closed v vs _ _)
  | v :: vs, w :: ws, _, _, h => by
    rw [itemTokens, itemTokens, List.append_assoc, List.append_assoc] at h
    obtain ⟨rfl, hrest⟩ := tokens_append_inj v w h
    obtain ⟨rfl, rfl⟩ := moreItemTokens_inj vs ws hrest
    exact ⟨rfl, rfl⟩

theorem moreItemTokens_inj : ∀ (items items' : List Json) {rest rest' : List Token},
    moreItemTokens items ++ .closeBracket :: rest = moreItemTokens items' ++ .closeBracket :: rest' →
      items = items' ∧ rest = rest'
  | [], [], _, _, h => ⟨rfl, (List.cons.inj h).2⟩
  | [], w :: ws, _, _, h | w :: ws, [], _, _, h => by simp [moreItemTokens] at h
  | v :: vs, w :: ws, _, _, h => by
    rw [moreItemTokens, moreItemTokens, List.append_assoc, List.append_assoc] at h
    obtain ⟨rfl, hrest⟩ := tokens_append_inj v w (List.cons.inj h).2
    obtain ⟨rfl, rfl⟩ := moreItemTokens_inj vs ws hrest
    exact ⟨rfl, rfl⟩

theorem memberTokens_inj : ∀ (members members' : List (String × Json)) {rest rest' : List Token},
    memberTokens members ++ .closeBrace :: rest = memberTokens members' ++ .closeBrace :: rest' →
      members = members' ∧ rest = rest'
  | [], [], _, _, h => ⟨rfl, (List.cons.inj h).2⟩
  | [], (l, w) :: ws, _, _, h | (l, w) :: ws, [], _, _, h => by simp [memberTokens] at h
  | (k, v) :: vs, (l, w) :: ws, _, _, h => by
    simp only [memberTokens, List.cons_append, List.append_assoc, List.cons.injEq,
      Token.string.injEq, true_and] at h
    obtain ⟨rfl, hvalue⟩ := h
    obtain ⟨rfl, hrest⟩ := tokens_append_inj v w hvalue
    obtain ⟨rfl, rfl⟩ := moreMemberTokens_inj vs ws hrest
    exact ⟨rfl, rfl⟩

theorem moreMemberTokens_inj : ∀ (members members' : List (String × Json)) {rest rest' : List Token},
    moreMemberTokens members ++ .closeBrace :: rest = moreMemberTokens members' ++ .closeBrace :: rest' →
      members = members' ∧ rest = rest'
  | [], [], _, _, h => ⟨rfl, (List.cons.inj h).2⟩
  | [], (l, w) :: ws, _, _, h | (l, w) :: ws, [], _, _, h => by simp [moreMemberTokens] at h
  | (k, v) :: vs, (l, w) :: ws, _, _, h => by
    simp only [moreMemberTokens, List.cons_append, List.append_assoc, List.cons.injEq,
      Token.string.injEq, true_and] at h
    obtain ⟨rfl, hvalue⟩ := h
    obtain ⟨rfl, hrest⟩ := tokens_append_inj v w hvalue
    obtain ⟨rfl, rfl⟩ := moreMemberTokens_inj vs ws hrest
    exact ⟨rfl, rfl⟩

end

theorem tokens_inj {v w : Json} (h : v.tokens = w.tokens) : v = w :=
  (tokens_append_inj v w (congrArg (· ++ []) h)).1

/-- The bytes of a value are those of no other; the lexer recovers its tokens at any depth. -/
theorem bytes_inj {v w : Json} : v.bytes = w.bytes ↔ v = w := by
  constructor
  · intro h
    have htokens : v.tokens.map Lexeme.token = w.tokens.map Lexeme.token := by
      rw [← lex_bytes v, ← lex_bytes w, h]
    exact tokens_inj ((List.map_inj_right fun _ _ => Lexeme.token.inj).mp htokens)
  · exact congrArg bytes

end MessageBus.Json
