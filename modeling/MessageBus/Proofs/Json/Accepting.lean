import MessageBus.Proofs.Json.Injective
/-!
# Exactly the written values are read

`parse_eq_ok_iff`: bytes are read as a value exactly if they write it (`Writes`). The tokens that a reading
has taken (`Reading.Took`) are those of the open containers, outermost first, and of the place in the
innermost; the values behind them stand for the values read. One more token is one more taken, and at the
end they are the tokens of a value that stands for the one read.
-/
namespace MessageBus.Json
set_option autoImplicit false

/-! ## The tokens taken -/

def itemTaken (v : Json) : List Token := v.tokens ++ [.comma]

def memberTaken (m : String × Json) : List Token := .string m.1 :: .colon :: m.2.tokens ++ [.comma]

/-- The tokens of an open container up to the value being read. -/
def Frame.Took : Frame → List Token → Prop
  | .array before, ts => ∃ items, ItemsStandFor items before.reverse ∧
      ts = .openBracket :: items.flatMap itemTaken
  | .object before key, ts => ∃ members, MembersStandFor members before.reverse ∧
      (members.map Prod.fst ++ [key]).head? ≠ some numberKey ∧
      ts = .openBrace :: members.flatMap memberTaken ++ [.string key, .colon]

/-- The tokens taken since the last container around the place. -/
def Place.Took : Place → List Token → Prop
  | .value, ts => ts = []
  | .firstItem, ts => ts = [.openBracket]
  | .firstKey, ts => ts = [.openBrace]
  | .key before, ts => ∃ k members, MembersStandFor members before.reverse ∧
      (members.map Prod.fst).head? = some k ∧ k ≠ numberKey ∧
      ts = .openBrace :: members.flatMap memberTaken
  | .colon before k, ts => ∃ members, MembersStandFor members before.reverse ∧
      (members.map Prod.fst ++ [k]).head? ≠ some numberKey ∧
      ts = .openBrace :: members.flatMap memberTaken ++ [.string k]
  | .numeralColon, ts => ts = [.openBrace, .string numberKey]
  | .numeral, ts => ts = [.openBrace, .string numberKey, .colon]
  | .numeralEnd n, ts => ∃ l : Literal, l.number = n ∧
      ts = [.openBrace, .string numberKey, .colon, .string (String.ofList l.text)]
  | .after v, ts => ∃ w, StandsFor w v ∧ ts = w.tokens

/-- The tokens of the open containers, the innermost first in the list of frames. -/
inductive StackTook : List Frame → List Token → Prop
  | nil : StackTook [] []
  | cons {frame : Frame} {stack : List Frame} {us ts : List Token} (hs : StackTook stack us)
    (hf : frame.Took ts) : StackTook (frame :: stack) (us ++ ts)

/-- All the tokens that a reading has taken. -/
def Reading.Took (r : Reading) (ts : List Token) : Prop :=
  ∃ us vs, StackTook r.stack us ∧ r.place.Took vs ∧ ts = us ++ vs

theorem itemTokens_concat (items : List Json) (v : Json) :
    itemTokens (items ++ [v]) = items.flatMap itemTaken ++ v.tokens := by
  induction items with
  | nil => simp [itemTokens, moreItemTokens]
  | cons w items ih =>
    have hmore : moreItemTokens (items ++ [v]) = .comma :: itemTokens (items ++ [v]) := by
      cases items <;> rfl
    rw [List.cons_append, itemTokens, hmore, ih, List.flatMap_cons, itemTaken]
    simp

theorem memberTokens_concat (members : List (String × Json)) (key : String) (v : Json) :
    memberTokens (members ++ [(key, v)]) =
      members.flatMap memberTaken ++ .string key :: .colon :: v.tokens := by
  induction members with
  | nil => simp [memberTokens, moreMemberTokens]
  | cons m members ih =>
    obtain ⟨k, w⟩ := m
    have hmore : moreMemberTokens (members ++ [(key, v)]) =
        .comma :: memberTokens (members ++ [(key, v)]) := by
      cases members <;> rfl
    rw [List.cons_append, memberTokens, hmore, ih, List.flatMap_cons, memberTaken]
    simp

theorem ItemsStandFor.concat {items items' : List Json} {w v : Json} (hv : StandsFor w v) :
    ItemsStandFor items items' → ItemsStandFor (items ++ [w]) (items' ++ [v])
  | .nil => .cons hv .nil
  | .cons h hs => .cons h (hs.concat hv)

theorem MembersStandFor.concat {members members' : List (String × Json)} (k : String) {w v : Json}
    (hv : StandsFor w v) :
    MembersStandFor members members' → MembersStandFor (members ++ [(k, w)]) (members' ++ [(k, v)])
  | .nil => .cons k hv .nil
  | .cons l h hs => .cons l h (hs.concat k hv)

/-! ## One token more -/

theorem StackTook.push {stack : List Frame} {us ts vs : List Token} (frame : Frame) (place : Place)
    (hs : StackTook stack us) (hf : frame.Took ts) (hp : place.Took vs) :
    Reading.Took ⟨place, frame :: stack⟩ (us ++ (ts ++ vs)) :=
  ⟨us ++ ts, vs, hs.cons hf, hp, (List.append_assoc us ts vs).symm⟩

theorem StackTook.at {stack : List Frame} {us vs : List Token} (place : Place)
    (hs : StackTook stack us) (hp : place.Took vs) : Reading.Took ⟨place, stack⟩ (us ++ vs) :=
  ⟨us, vs, hs, hp, rfl⟩

theorem Reading.beginValue_took {stack : List Frame} {us : List Token} {t : Token} {r : Reading}
    (hs : StackTook stack us) (h : Reading.beginValue stack t = .ok r) : r.Took (us ++ [t]) := by
  cases t with
  | null =>
    cases h
    exact hs.at _ ⟨.null, .null, rfl⟩
  | bool b =>
    cases h
    exact hs.at _ ⟨.bool b, .bool b, rfl⟩
  | number n =>
    cases h
    exact hs.at _ ⟨.number n, .number n, rfl⟩
  | string s =>
    cases h
    exact hs.at _ ⟨.string s, .string s, rfl⟩
  | openBracket | openBrace =>
    unfold Reading.beginValue at h
    split_ifs at h
    cases h
    exact hs.at _ (Eq.refl _)
  | closeBracket | closeBrace | colon | comma => cases h

theorem Reading.numeralString_eq_ok {stack : List Frame} {t : Token} {r : Reading}
    (h : Reading.numeralString stack t = .ok r) :
    ∃ l : Literal, t = .string (String.ofList l.text) ∧ r = ⟨.numeralEnd l.number, stack⟩ := by
  cases t with
  | string s =>
    cases hs : numeral? s with
    | error f =>
      simp only [Reading.numeralString, hs, bind, Except.bind] at h
      cases h
    | ok n =>
      simp only [Reading.numeralString, hs, bind, Except.bind] at h
      cases h
      obtain ⟨l, rfl, rfl⟩ := numeral?_eq_ok_iff.mp hs
      exact ⟨l, rfl, rfl⟩
  | openBrace | closeBrace | openBracket | closeBracket | colon | comma | null | bool _ | number _ => cases h

/-- A complete value goes into the container around it. -/
theorem Reading.afterValue_took {w v : Json} (hv : StandsFor w v) {stack : List Frame} {us : List Token}
    {t : Token} {r : Reading} (hs : StackTook stack us) (h : Reading.afterValue v stack t = .ok r) :
    r.Took (us ++ w.tokens ++ [t]) := by
  cases hs with
  | nil => cases h
  | @cons frame stack us ts hs hf =>
    cases frame with
    | array before =>
      obtain ⟨items, hitems, rfl⟩ := hf
      have hall : ItemsStandFor (items ++ [w]) (v :: before).reverse := by
        rw [List.reverse_cons]
        exact hitems.concat hv
      cases t with
      | comma =>
        cases h
        have htook := hs.push (.array (v :: before)) .value ⟨_, hall, rfl⟩ (Eq.refl [])
        simpa [itemTaken] using htook
      | closeBracket =>
        cases h
        have htook := hs.at (.after (.array (v :: before).reverse)) ⟨_, .array hall, rfl⟩
        simpa [Json.tokens, itemTokens_concat] using htook
      | openBrace | closeBrace | openBracket | colon | null | bool _ | number _ | string _ => cases h
    | object before key =>
      obtain ⟨members, hmembers, hkey, rfl⟩ := hf
      have hall : MembersStandFor (members ++ [(key, w)]) ((key, v) :: before).reverse := by
        rw [List.reverse_cons]
        exact hmembers.concat key hv
      have hkeys : ((members ++ [(key, w)]).map Prod.fst).head? ≠ some numberKey := by
        rw [List.map_append]
        exact hkey
      cases t with
      | comma =>
        cases h
        obtain ⟨k, hk⟩ : ∃ k, ((members ++ [(key, w)]).map Prod.fst).head? = some k :=
          Option.isSome_iff_exists.mp (by simp)
        have hne : k ≠ numberKey := fun e => hkeys (e ▸ hk)
        have htook := hs.at (.key ((key, v) :: before)) ⟨k, _, hall, hk, hne, rfl⟩
        simpa [memberTaken] using htook
      | closeBrace =>
        cases h
        have htook := hs.at (.after (.object ((key, v) :: before).reverse))
          ⟨_, .object hkeys hall, rfl⟩
        simpa [Json.tokens, memberTokens_concat] using htook
      | openBrace | closeBracket | openBracket | colon | null | bool _ | number _ | string _ => cases h

theorem Reading.token_took {r r' : Reading} {ts : List Token} {t : Token} (hr : r.Took ts)
    (h : r.token t = .ok r') : r'.Took (ts ++ [t]) := by
  obtain ⟨place, stack⟩ := r
  obtain ⟨us, vs, hs, hp, rfl⟩ := hr
  cases place with
  | value =>
    cases hp
    rw [List.append_nil]
    simp only [Reading.token] at h
    split at h
    · cases h
    · exact Reading.beginValue_took hs h
  | firstItem =>
    cases hp
    simp only [Reading.token] at h
    split at h
    · cases h
      rw [List.append_assoc]
      exact hs.at _ ⟨_, .array .nil, rfl⟩
    · have hframe : (Frame.array []).Took [.openBracket] := ⟨[], .nil, rfl⟩
      exact Reading.beginValue_took (hs.cons hframe) h
  | firstKey =>
    cases hp
    simp only [Reading.token] at h
    split at h
    · cases h
      rw [List.append_assoc]
      exact hs.at _ ⟨_, .object (by simp) .nil, rfl⟩
    · next key =>
      cases h
      by_cases hkey : key = numberKey
      · rw [if_pos hkey, hkey]
        simpa using hs.at .numeralColon (Eq.refl _)
      · rw [if_neg hkey]
        simpa using hs.at (.colon [] key) ⟨[], .nil, by simpa using hkey, rfl⟩
    · cases h
  | key before =>
    obtain ⟨k, members, hmembers, hk, hne, rfl⟩ := hp
    simp only [Reading.token] at h
    split at h
    · next key =>
      cases h
      have hkey : (members.map Prod.fst ++ [key]).head? ≠ some numberKey := by
        rw [List.head?_append, hk]
        exact fun e => hne (Option.some.inj e)
      simpa using hs.at (.colon before key) ⟨members, hmembers, hkey, rfl⟩
    · cases h
    · cases h
  | colon before key =>
    obtain ⟨members, hmembers, hkey, rfl⟩ := hp
    simp only [Reading.token] at h
    split at h
    · cases h
      simpa using hs.push (.object before key) .value ⟨members, hmembers, hkey, rfl⟩ (Eq.refl [])
    · cases h
  | numeralColon =>
    cases hp
    simp only [Reading.token] at h
    split at h
    · cases h
      simpa using hs.at .numeral (Eq.refl _)
    · cases h
  | numeral =>
    cases hp
    obtain ⟨l, rfl, rfl⟩ := Reading.numeralString_eq_ok h
    rw [List.append_assoc]
    exact hs.at _ ⟨l, rfl, rfl⟩
  | numeralEnd n =>
    obtain ⟨l, rfl, rfl⟩ := hp
    simp only [Reading.token] at h
    split at h
    · cases h
      rw [List.append_assoc]
      exact hs.at _ ⟨_, .numeral l, rfl⟩
    · cases h
    · cases h
  | after v =>
    obtain ⟨w, hw, rfl⟩ := hp
    exact Reading.afterValue_took hw hs h

/-! ## A whole text -/

theorem Reading.lexemes_took {lexemes : List Lexeme} {r r' : Reading} {ts : List Token} (hr : r.Took ts)
    (h : lexemes.foldlM Reading.lexeme r = .ok r') :
    ∃ more : List Token, lexemes = more.map Lexeme.token ∧ r'.Took (ts ++ more) := by
  induction lexemes generalizing r ts with
  | nil =>
    cases h
    exact ⟨[], rfl, by rwa [List.append_nil]⟩
  | cons x lexemes ih =>
    rw [List.foldlM_cons] at h
    cases x with
    | fault f quoted => cases h
    | token t =>
      cases ht : r.token t with
      | error f =>
        simp only [Reading.lexeme, ht, bind, Except.bind] at h
        cases h
      | ok next =>
        simp only [Reading.lexeme, ht, bind, Except.bind] at h
        obtain ⟨more, rfl, htook⟩ := ih (Reading.token_took hr ht) h
        exact ⟨t :: more, rfl, by simpa using htook⟩

theorem Reading.finish_took {r : Reading} {v : Json} {ts : List Token} (hr : r.Took ts)
    (h : r.finish = .ok v) : ∃ w, StandsFor w v ∧ ts = w.tokens := by
  obtain ⟨place, stack⟩ := r
  obtain ⟨us, vs, hs, hp, rfl⟩ := hr
  unfold Reading.finish at h
  split at h
  · next hplace hstack =>
    cases h
    cases hplace
    cases hstack
    cases hs
    exact hp
  all_goals cases h

theorem lex_of_parse {input : List UInt8} {v : Json} (h : parse input = .ok v) :
    ∃ w, StandsFor w v ∧ lex input = w.tokens.map Lexeme.token := by
  unfold parse ofLexemes ofLexemesFrom at h
  cases hr : (lex input).foldlM Reading.lexeme Reading.start with
  | error f =>
    simp only [hr, bind, Except.bind] at h
    cases h
  | ok r =>
    simp only [hr, bind, Except.bind] at h
    have hstart : Reading.start.Took [] := ⟨[], [], .nil, Eq.refl [], rfl⟩
    obtain ⟨ts, hts, htook⟩ := Reading.lexemes_took hstart hr
    obtain ⟨w, hw, rfl⟩ := Reading.finish_took htook h
    exact ⟨w, hw, hts⟩

/-- Bytes are read as the value that they write, and as nothing else. -/
theorem parse_eq_ok_iff {input : List UInt8} {v : Json} : parse input = .ok v ↔ Writes input v := by
  constructor
  · intro h
    obtain ⟨w, hw, hlex⟩ := lex_of_parse h
    have hdepth : w.depth ≤ maxDepth := by
      by_contra hdeep
      rw [parse_of_standsFor hlex hw, if_neg hdeep] at h
      cases h
    obtain ⟨d, rfl, hd⟩ := Source.lex_eq_tokens_iff.mp hlex
    exact ⟨d, hdepth, hw, hd⟩
  · rintro ⟨d, hdepth, hw, hd⟩
    rw [parse_of_standsFor (Source.lex_text hd) hw]
    exact if_pos hdepth

/-- Only one value stands in a text. -/
theorem Source.value_of_lex {d : Source} {input : List UInt8} {v : Json} (hd : input ∈ d.text)
    (h : lex input = v.tokens.map Lexeme.token) : d.value = v := by
  have htokens : d.value.tokens.map Lexeme.token = v.tokens.map Lexeme.token := (lex_text hd).symm.trans h
  exact tokens_inj (List.map_injective_iff.mpr (fun _ _ => Lexeme.token.inj) htokens)

/-- The text of a value writes what the value stands for. -/
theorem writes_bytes_iff {v u : Json} : Writes v.bytes u ↔ v.depth ≤ 127 ∧ StandsFor v u := by
  constructor
  · rintro ⟨d, hdepth, hstands, hd⟩
    rw [Source.value_of_lex hd (lex_bytes v)] at hdepth hstands
    exact ⟨hdepth, hstands⟩
  · rintro ⟨hdepth, hstands⟩
    obtain ⟨d, rfl, hd⟩ := Source.lex_eq_tokens_iff.mp (lex_bytes v)
    exact ⟨d, hdepth, hstands, hd⟩

theorem Writes.unique {input : List UInt8} {v w : Json} (hv : Writes input v) (hw : Writes input w) :
    v = w :=
  Except.ok.inj ((parse_eq_ok_iff.mpr hv).symm.trans (parse_eq_ok_iff.mpr hw))

end MessageBus.Json
