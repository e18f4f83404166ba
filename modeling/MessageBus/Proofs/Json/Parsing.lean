import MessageBus.Json.Parser
import MessageBus.Proofs.Json.Compact
import MessageBus.Proofs.Json.Reserved
/-!
# Written values read back

`parse_bytes`: the text of a plain value is read as that value if the value nests at most `maxDepth`
containers, and is refused for its depth otherwise. The reading machine is followed through the tokens
of a value, with any containers open around it and any tokens behind it, to what the value stands for.
-/
namespace MessageBus.Json
set_option autoImplicit false

/-! ## Several tokens -/

/-- Reads tokens one after another. -/
def Reading.tokens (r : Reading) (ts : List Token) : Except Fault Reading := ts.foldlM Reading.token r

theorem Reading.tokens_cons {r r' : Reading} {t : Token} (ts : List Token) (h : r.token t = .ok r') :
    r.tokens (t :: ts) = r'.tokens ts := by
  rw [Reading.tokens, List.foldlM_cons, h]
  rfl

theorem Reading.tokens_fault {r : Reading} {t : Token} {f : Fault} (ts : List Token)
    (h : r.token t = .error f) : r.tokens (t :: ts) = .error f := by
  rw [Reading.tokens, List.foldlM_cons, h]
  rfl

theorem Reading.token_value {t : Token} (h : t ≠ .closeBracket) (stack : List Frame) :
    Reading.token ⟨.value, stack⟩ t = Reading.beginValue stack t := by
  match stack, t with
  | [], _ | .object _ _ :: _, _ => rfl
  | .array _ :: _, .openBrace | .array _ :: _, .closeBrace | .array _ :: _, .openBracket
  | .array _ :: _, .colon | .array _ :: _, .comma | .array _ :: _, .null | .array _ :: _, .bool _
  | .array _ :: _, .number _ | .array _ :: _, .string _ => rfl
  | .array _ :: _, .closeBracket => exact absurd rfl h

/-- The first item of an array is read as any other. -/
theorem Reading.token_firstItem {t : Token} (h : t ≠ .closeBracket) (stack : List Frame) :
    Reading.token ⟨.firstItem, stack⟩ t = Reading.token ⟨.value, .array [] :: stack⟩ t := by
  rw [Reading.token_value h]
  cases t with
  | closeBracket => exact absurd rfl h
  | openBrace | closeBrace | openBracket | colon | comma | null | bool _ | number _ | string _ => rfl

theorem tokens_front (v : Json) : ∃ t ts, v.tokens = t :: ts ∧ t ≠ .closeBracket := by
  cases v with
  | null | bool _ | number _ | string _ | array _ | object _ => exact ⟨_, _, rfl, by simp⟩

theorem tokens_firstItem (v : Json) (stack : List Frame) (more : List Token) :
    Reading.tokens ⟨.firstItem, stack⟩ (v.tokens ++ more) =
      Reading.tokens ⟨.value, .array [] :: stack⟩ (v.tokens ++ more) := by
  obtain ⟨t, ts, h, hne⟩ := tokens_front v
  rw [h, List.cons_append, Reading.tokens, Reading.tokens, List.foldlM_cons, List.foldlM_cons,
    Reading.token_firstItem hne]

/-! ## Depth -/

/-- How reading goes on behind something that nests `depth` containers where `opened` are open: as
`next` says, or not at all. -/
def within (opened depth : Nat) (next : Except Fault Reading) : Except Fault Reading :=
  if opened + depth ≤ maxDepth then next else .error .tooDeep

theorem within_zero {opened : Nat} (h : opened ≤ maxDepth) (next : Except Fault Reading) :
    within opened 0 next = next := if_pos h

theorem within_succ (opened depth : Nat) (next : Except Fault Reading) :
    within opened (depth + 1) next = within (opened + 1) depth next := by
  have e : opened + (depth + 1) = opened + 1 + depth := by omega
  rw [within, within, e]

theorem within_max (opened a b : Nat) (next : Except Fault Reading) :
    within opened a (within opened b next) = within opened (max a b) next := by
  unfold within
  by_cases ha : opened + a ≤ maxDepth
  · have e : opened + max a b ≤ maxDepth ↔ opened + b ≤ maxDepth := by omega
    simp only [if_pos ha, e]
  · have hmax : ¬ opened + max a b ≤ maxDepth := by omega
    rw [if_neg ha, if_neg hmax]

/-- A bracket or brace opens a container if there is room for one more. -/
theorem tokens_open {r r' : Reading} {t : Token} {opened depth : Nat} {ts : List Token}
    {next : Except Fault Reading} (hle : opened ≤ maxDepth)
    (ht : r.token t = if opened < maxDepth then .ok r' else .error .tooDeep)
    (h : opened < maxDepth → r'.tokens ts = within (opened + 1) depth next) :
    r.tokens (t :: ts) = within opened (depth + 1) next := by
  by_cases hlt : opened < maxDepth
  · rw [if_pos hlt] at ht
    rw [Reading.tokens_cons ts ht, h hlt, within_succ]
  · rw [if_neg hlt] at ht
    have hdeep : ¬ opened + (depth + 1) ≤ maxDepth := by omega
    rw [Reading.tokens_fault ts ht, within, if_neg hdeep]

/-! ## The tokens of a value -/

/-- A number in disguise nests one container, its own. -/
theorem tokens_numeral (l : Literal) {stack : List Frame} (more : List Token)
    (h : stack.length ≤ maxDepth) :
    Reading.tokens ⟨.value, stack⟩
        ((Json.object [(numberKey, .string (String.ofList l.text))]).tokens ++ more) =
      within stack.length 1 (Reading.tokens ⟨.after (.number l.number), stack⟩ more) := by
  have hts : (Json.object [(numberKey, .string (String.ofList l.text))]).tokens ++ more =
      .openBrace :: .string numberKey :: .colon :: .string (String.ofList l.text) :: .closeBrace :: more :=
    rfl
  have hkey : Reading.token ⟨.firstKey, stack⟩ (.string numberKey) = .ok ⟨.numeralColon, stack⟩ := rfl
  have hcolon : Reading.token ⟨.numeralColon, stack⟩ .colon = .ok ⟨.numeral, stack⟩ := rfl
  have hnumeral : Reading.token ⟨.numeral, stack⟩ (.string (String.ofList l.text)) =
      .ok ⟨.numeralEnd l.number, stack⟩ := by
    simp only [Reading.token, Reading.numeralString, numeral?_text]
    rfl
  have hend : Reading.token ⟨.numeralEnd l.number, stack⟩ .closeBrace =
      .ok ⟨.after (.number l.number), stack⟩ := rfl
  rw [hts]
  refine tokens_open h (Reading.token_value (by simp) stack) fun hlt => ?_
  rw [within_zero hlt, Reading.tokens_cons _ hkey, Reading.tokens_cons _ hcolon,
    Reading.tokens_cons _ hnumeral, Reading.tokens_cons _ hend]

mutual

/-- A value is read to its end, as what it stands for, if the containers allow it. -/
theorem tokens_value : ∀ {w v : Json}, StandsFor w v → ∀ {stack : List Frame} (more : List Token),
    stack.length ≤ maxDepth →
    Reading.tokens ⟨.value, stack⟩ (w.tokens ++ more) =
      within stack.length w.depth (Reading.tokens ⟨.after v, stack⟩ more)
  | _, _, .null, stack, more, h | _, _, .bool _, stack, more, h | _, _, .number _, stack, more, h
  | _, _, .string _, stack, more, h => by
    rw [depth, within_zero h]
    exact Reading.tokens_cons more (Reading.token_value (by simp) stack)
  | .array items, _, .array hs, stack, more, h => by
    have hts : (Json.array items).tokens ++ more =
        .openBracket :: (itemTokens items ++ .closeBracket :: more) := by simp [tokens]
    rw [hts, depth]
    exact tokens_open h (Reading.token_value (by simp) stack) (tokens_items hs more)
  | .object members, _, .object hkey hs, stack, more, h => by
    have hts : (Json.object members).tokens ++ more =
        .openBrace :: (memberTokens members ++ .closeBrace :: more) := by simp [tokens]
    rw [hts, depth]
    exact tokens_open h (Reading.token_value (by simp) stack) (tokens_members hkey hs more)
  | _, _, .numeral l, _, more, h => tokens_numeral l more h

theorem tokens_items : ∀ {items items' : List Json}, ItemsStandFor items items' →
    ∀ {stack : List Frame} (more : List Token), stack.length < maxDepth →
    Reading.tokens ⟨.firstItem, stack⟩ (itemTokens items ++ .closeBracket :: more) =
      within (stack.length + 1) (depthItems items) (Reading.tokens ⟨.after (.array items'), stack⟩ more)
  | _, _, .nil, stack, more, h => by
    rw [depthItems, within_zero h]
    exact Reading.tokens_cons more rfl
  | w :: rest, v :: rest', .cons hv hs, stack, more, h => by
    have hw := @tokens_value _ _ hv (.array [] :: stack)
      (moreItemTokens rest ++ .closeBracket :: more) h
    rw [itemTokens, List.append_assoc, tokens_firstItem, hw, List.length_cons,
      tokens_moreItems hs v [] more h, within_max, depthItems]
    rfl

theorem tokens_moreItems : ∀ {items items' : List Json}, ItemsStandFor items items' →
    ∀ (v : Json) (before : List Json) {stack : List Frame} (more : List Token),
    stack.length < maxDepth →
    Reading.tokens ⟨.after v, .array before :: stack⟩ (moreItemTokens items ++ .closeBracket :: more) =
      within (stack.length + 1) (depthItems items)
        (Reading.tokens ⟨.after (.array ((v :: before).reverse ++ items')), stack⟩ more)
  | _, _, .nil, v, before, stack, more, h => by
    rw [depthItems, within_zero h, List.append_nil]
    exact Reading.tokens_cons more rfl
  | w :: rest, w' :: rest', .cons hv hs, v, before, stack, more, h => by
    have hw := @tokens_value _ _ hv (.array (v :: before) :: stack)
      (moreItemTokens rest ++ .closeBracket :: more) h
    have hcomma : Reading.token ⟨.after v, .array before :: stack⟩ .comma =
        .ok ⟨.value, .array (v :: before) :: stack⟩ := rfl
    rw [moreItemTokens, List.append_assoc, List.cons_append, Reading.tokens_cons _ hcomma, hw,
      List.length_cons, tokens_moreItems hs w' (v :: before) more h, within_max, depthItems]
    simp only [List.reverse_cons, List.append_assoc, List.cons_append, List.nil_append]

theorem tokens_members : ∀ {members members' : List (String × Json)},
    (members.map Prod.fst).head? ≠ some numberKey → MembersStandFor members members' →
    ∀ {stack : List Frame} (more : List Token), stack.length < maxDepth →
    Reading.tokens ⟨.firstKey, stack⟩ (memberTokens members ++ .closeBrace :: more) =
      within (stack.length + 1) (depthMembers members)
        (Reading.tokens ⟨.after (.object members'), stack⟩ more)
  | _, _, _, .nil, stack, more, h => by
    rw [depthMembers, within_zero h]
    exact Reading.tokens_cons more rfl
  | (k, w) :: rest, (_, v) :: rest', hkey, .cons _ hv hs, stack, more, h => by
    have hw := @tokens_value _ _ hv (.object [] k :: stack)
      (moreMemberTokens rest ++ .closeBrace :: more) h
    have hfirst : Reading.token ⟨.firstKey, stack⟩ (.string k) = .ok ⟨.colon [] k, stack⟩ := by
      have hne : k ≠ numberKey := fun e => hkey (congrArg some e)
      simp only [Reading.token, if_neg hne]
    have hcolon : Reading.token ⟨.colon [] k, stack⟩ .colon =
        .ok ⟨.value, .object [] k :: stack⟩ := rfl
    rw [memberTokens, List.append_assoc, List.cons_append, List.cons_append,
      Reading.tokens_cons _ hfirst, Reading.tokens_cons _ hcolon, hw, List.length_cons,
      tokens_moreMembers hs k v [] more h, within_max, depthMembers]
    rfl

theorem tokens_moreMembers : ∀ {members members' : List (String × Json)},
    MembersStandFor members members' → ∀ (k : String) (v : Json) (before : List (String × Json))
    {stack : List Frame} (more : List Token), stack.length < maxDepth →
    Reading.tokens ⟨.after v, .object before k :: stack⟩
        (moreMemberTokens members ++ .closeBrace :: more) =
      within (stack.length + 1) (depthMembers members)
        (Reading.tokens ⟨.after (.object (((k, v) :: before).reverse ++ members')), stack⟩ more)
  | _, _, .nil, k, v, before, stack, more, h => by
    rw [depthMembers, within_zero h, List.append_nil]
    exact Reading.tokens_cons more rfl
  | (l, w) :: rest, (_, w') :: rest', .cons _ hv hs, k, v, before, stack, more, h => by
    have hw := @tokens_value _ _ hv (.object ((k, v) :: before) l :: stack)
      (moreMemberTokens rest ++ .closeBrace :: more) h
    have hcomma : Reading.token ⟨.after v, .object before k :: stack⟩ .comma =
        .ok ⟨.key ((k, v) :: before), stack⟩ := rfl
    have hkey : Reading.token ⟨.key ((k, v) :: before), stack⟩ (.string l) =
        .ok ⟨.colon ((k, v) :: before) l, stack⟩ := rfl
    have hcolon : Reading.token ⟨.colon ((k, v) :: before) l, stack⟩ .colon =
        .ok ⟨.value, .object ((k, v) :: before) l :: stack⟩ := rfl
    rw [moreMemberTokens, List.append_assoc, List.cons_append, List.cons_append, List.cons_append,
      Reading.tokens_cons _ hcomma, Reading.tokens_cons _ hkey, Reading.tokens_cons _ hcolon, hw,
      List.length_cons, tokens_moreMembers hs l w' ((k, v) :: before) more h, within_max, depthMembers]
    simp only [List.reverse_cons, List.append_assoc, List.cons_append, List.nil_append]

end

/-! ## Whole texts -/

theorem ofLexemes_tokens (ts : List Token) :
    ofLexemes (ts.map Lexeme.token) = Reading.start.tokens ts >>= Reading.finish := by
  rw [ofLexemes, ofLexemesFrom, List.foldlM_map]
  rfl

/-- A text is read as what the value in it stands for. -/
theorem parse_of_standsFor {input : List UInt8} {w v : Json} (h : lex input = w.tokens.map Lexeme.token)
    (hs : StandsFor w v) : parse input = if w.depth ≤ maxDepth then .ok v else .error .tooDeep := by
  have hw := @tokens_value w v hs [] [] (Nat.zero_le _)
  rw [List.append_nil] at hw
  rw [parse, h, ofLexemes_tokens, Reading.start, hw, within, List.length_nil, Nat.zero_add]
  split
  · rfl
  · rfl

/-- Reading is the inverse of writing, up to the depth that reading allows. -/
theorem parse_bytes {v : Json} (h : v.Plain) :
    parse v.bytes = if v.depth ≤ maxDepth then .ok v else .error .tooDeep :=
  parse_of_standsFor (lex_bytes v) (standsFor_self h)

end MessageBus.Json
