import Mathlib
import MessageBus.Envelope.Decode
import MessageBus.Proofs.Envelope.RoundTrip
import MessageBus.Proofs.Json.Accepting
import MessageBus.Proofs.Json.Paths
import MessageBus.Proofs.Params.Canonical
/-!
# Which bytes are envelopes

`decoders_accept`: a reply is read from exactly the texts of objects whose last values under its keys are
what they must be (`Demand`), and depends on these values alone; anything else is refused with the error of
the text or of the first bad field. Requests likewise, and broadcasts behind their topic. What the text of
an object is, the grammar says (`Json.Writes`).
-/
namespace MessageBus
set_option autoImplicit false

/-! ## Demands -/

/-- What the last value under a key must be. -/
inductive Demand
  | string
  | optionalString
  | object
deriving DecidableEq

def Demand.met : Demand → Option Json → Bool
  | .string, some (.string _) => true
  | .optionalString, some (.string _) => true
  | .optionalString, none => true
  | .object, some (.object _) => true
  | _, _ => false

theorem Demand.met_canonical (d : Demand) (v : Option Json) : d.met (v.map Json.canonical) = d.met v := by
  cases v with
  | none => rfl
  | some v => cases d <;> cases v <;> rfl

namespace Envelope

/-- The last value under a field's key. -/
def last? (members : List (String × Json)) (field : EnvelopeField) : Option Json :=
  Keyed.lookupLast field.key members

/-- The error for a field whose last value is not what it must be. -/
def badField (members : List (String × Json)) (field : EnvelopeField) : EnvelopeError :=
  if last? members field = none then .missingField field else .invalidField field

/-- The error for the first bad field. -/
def firstBad? (demands : List (EnvelopeField × Demand)) (members : List (String × Json)) :
    Option EnvelopeError :=
  (demands.find? fun d => !d.2.met (last? members d.1)).map fun d => badField members d.1

/-- Two objects whose values under the demanded keys are the same but for the order and repetition of keys
within them. -/
def Agree (demands : List (EnvelopeField × Demand)) (members members' : List (String × Json)) : Prop :=
  ∀ d ∈ demands, (last? members d.1).map Json.canonical = (last? members' d.1).map Json.canonical

end Envelope

def Request.demands : List (EnvelopeField × Demand) := [(.command, .string), (.params, .object)]

def Reply.demands : List (EnvelopeField × Demand) :=
  [(.status, .string), (.message, .optionalString), (.params, .object)]

/-- The request that an object says. -/
def Request.Carries (members : List (String × Json)) (r : Request) : Prop :=
  Envelope.last? members .command = some (.string r.command) ∧
    ∃ fields, Envelope.last? members .params = some (.object fields) ∧
      r.params.toJson = (Json.object fields).canonical

/-- The reply that an object says; success is `ok` in any ASCII case. -/
def Reply.Carries (members : List (String × Json)) (r : Reply) : Prop :=
  (∃ s, Envelope.last? members .status = some (.string s) ∧
    (r.status = .ok ↔ s ∈ ["ok", "oK", "Ok", "OK"])) ∧
  (Envelope.last? members .message = some (.string r.message) ∨
    Envelope.last? members .message = none ∧ r.message = "") ∧
  ∃ fields, Envelope.last? members .params = some (.object fields) ∧
    r.params.toJson = (Json.object fields).canonical

/-- An error about the text and not about a field. -/
def EnvelopeError.IsParse (e : EnvelopeError) : Prop := e = .notObject ∨ ∃ fault, e = .malformed fault

/-- What reading does with bytes, by the text that they are. -/
structure Accepts {α : Type} (decode : List UInt8 → Except EnvelopeError α)
    (demands : List (EnvelopeField × Demand)) (carries : List (String × Json) → α → Prop)
    (bytes : List UInt8) : Prop where
  accepted : (∃ v, decode bytes = .ok v) ↔
    ∃ members, Json.Writes bytes (.object members) ∧ ∀ d ∈ demands, d.2.met (Envelope.last? members d.1)
  carried : ∀ members, Json.Writes bytes (.object members) → ∀ v, decode bytes = .ok v → carries members v
  textRefused : (∀ members, ¬ Json.Writes bytes (.object members)) → ∃ e, decode bytes = .error e ∧ e.IsParse
  fieldRefused : ∀ members, Json.Writes bytes (.object members) →
    ∀ e, Envelope.firstBad? demands members = some e → decode bytes = .error e
  determined : ∀ members members' bytes', Json.Writes bytes (.object members) →
    Json.Writes bytes' (.object members') → Envelope.Agree demands members members' →
      decode bytes = decode bytes'

/-- What reading does with the bytes of a broadcast, by what stands before and behind the first brace. -/
structure Broadcast.Splits (bytes : List UInt8) : Prop where
  missing : 0x7B ∉ bytes → Broadcast.decode bytes = .error .missingPayload
  topicRefused : ∀ front rest, bytes = front ++ 0x7B :: rest → 0x7B ∉ front →
    (∀ topic, front ≠ Utf8.bytes topic) → ∃ fault, Broadcast.decode bytes = .error (.topicNotUtf8 fault)
  replied : ∀ topic rest, bytes = Utf8.bytes topic ++ 0x7B :: rest → 0x7B ∉ Utf8.bytes topic →
    (fun b : Broadcast => (b.topic, b.reply)) <$> Broadcast.decode bytes =
      (fun r => (topic, r)) <$> Reply.decode (0x7B :: rest)

/-! ## Objects -/

namespace Envelope

variable {bytes : List UInt8} {members : List (String × Json)}

theorem members_eq_ok_iff : Envelope.members bytes = .ok members ↔ Json.Writes bytes (.object members) := by
  rw [← Json.parse_eq_ok_iff, Envelope.members]
  cases Json.parse bytes with
  | error fault => simp
  | ok v => cases v <;> simp

theorem members_refused (h : ∀ members, ¬ Json.Writes bytes (.object members)) :
    ∃ e, Envelope.members bytes = .error e ∧ e.IsParse := by
  cases hm : Envelope.members bytes with
  | ok members => exact absurd (members_eq_ok_iff.mp hm) (h members)
  | error e =>
    refine ⟨e, rfl, ?_⟩
    unfold Envelope.members at hm
    split at hm
    · cases hm
    · cases hm
      exact .inl rfl
    · cases hm
      exact .inr ⟨_, rfl⟩

/-! ## Fields -/

theorem stringField_met (members : List (String × Json)) (field : EnvelopeField) :
    (Demand.string.met (last? members field) = true ∧
      ∃ s, last? members field = some (.string s) ∧ stringField members field = .ok s) ∨
    (Demand.string.met (last? members field) = false ∧
      stringField members field = .error (badField members field)) := by
  unfold stringField badField last?
  cases Keyed.lookupLast field.key members with
  | none => exact .inr ⟨rfl, rfl⟩
  | some v =>
    cases v with
    | string s => exact .inl ⟨rfl, s, rfl, rfl⟩
    | null | bool _ | number _ | array _ | object _ => exact .inr ⟨rfl, rfl⟩

theorem messageField_met (members : List (String × Json)) :
    (Demand.optionalString.met (last? members .message) = true ∧
      ∃ s, messageField members = .ok s ∧
        (last? members .message = some (.string s) ∨ last? members .message = none ∧ s = "")) ∨
    (Demand.optionalString.met (last? members .message) = false ∧
      messageField members = .error (badField members .message)) := by
  unfold messageField stringField badField last?
  cases Keyed.lookupLast EnvelopeField.message.key members with
  | none => exact .inl ⟨rfl, "", rfl, .inr ⟨rfl, rfl⟩⟩
  | some v =>
    cases v with
    | string s => exact .inl ⟨rfl, s, rfl, .inl rfl⟩
    | null | bool _ | number _ | array _ | object _ => exact .inr ⟨rfl, rfl⟩

theorem paramsField_met (members : List (String × Json)) :
    (Demand.object.met (last? members .params) = true ∧
      ∃ fields, last? members .params = some (.object fields) ∧
        paramsField members = .ok (Params.ofMembers fields)) ∨
    (Demand.object.met (last? members .params) = false ∧
      paramsField members = .error (badField members .params)) := by
  unfold paramsField badField last?
  cases Keyed.lookupLast EnvelopeField.params.key members with
  | none => exact .inr ⟨rfl, rfl⟩
  | some v =>
    cases v with
    | object fields => exact .inl ⟨rfl, fields, rfl, rfl⟩
    | null | bool _ | number _ | string _ | array _ => exact .inr ⟨rfl, rfl⟩

theorem firstBad?_met {d : EnvelopeField × Demand} {demands : List (EnvelopeField × Demand)}
    (h : d.2.met (last? members d.1) = true) : firstBad? (d :: demands) members = firstBad? demands members := by
  simp [firstBad?, h]

theorem firstBad?_unmet {d : EnvelopeField × Demand} {demands : List (EnvelopeField × Demand)}
    (h : d.2.met (last? members d.1) = false) :
    firstBad? (d :: demands) members = some (badField members d.1) := by
  simp [firstBad?, h]

theorem firstBad?_eq_none_iff {demands : List (EnvelopeField × Demand)} :
    firstBad? demands members = none ↔ ∀ d ∈ demands, d.2.met (last? members d.1) := by
  simp [firstBad?]

theorem firstBad?_agree {demands : List (EnvelopeField × Demand)} {members' : List (String × Json)}
    (h : Agree demands members members') : firstBad? demands members = firstBad? demands members' := by
  induction demands with
  | nil => rfl
  | cons d demands ih =>
    have hd := h d List.mem_cons_self
    have hrest := ih fun d' hd' => h d' (List.mem_cons_of_mem d hd')
    have hmet : d.2.met (last? members d.1) = d.2.met (last? members' d.1) := by
      rw [← d.2.met_canonical, hd, d.2.met_canonical]
    have hnone : last? members d.1 = none ↔ last? members' d.1 = none := by
      rw [← Option.map_eq_none_iff (f := Json.canonical), hd, Option.map_eq_none_iff]
    cases hm : d.2.met (last? members' d.1) with
    | true => rw [firstBad?_met (hmet.trans hm), firstBad?_met hm, hrest]
    | false =>
      rw [firstBad?_unmet (hmet.trans hm), firstBad?_unmet hm]
      simp only [badField, hnone]

/-! ## Reading an object -/

/-- Members are read field by field, in the order of the demands. -/
def Follows {α : Type} (ofMembers : List (String × Json) → Except EnvelopeError α)
    (demands : List (EnvelopeField × Demand)) (carries : List (String × Json) → α → Prop) : Prop :=
  ∀ members, (firstBad? demands members = none ∧ ∃ v, ofMembers members = .ok v ∧ carries members v) ∨
    ∃ e, firstBad? demands members = some e ∧ ofMembers members = .error e

section
variable {α : Type} {decode : List UInt8 → Except EnvelopeError α}
  {ofMembers : List (String × Json) → Except EnvelopeError α}
  {demands : List (EnvelopeField × Demand)} {carries : List (String × Json) → α → Prop}

theorem Follows.good (h : Follows ofMembers demands carries) (hgood : firstBad? demands members = none) :
    ∃ v, ofMembers members = .ok v ∧ carries members v := by
  obtain ⟨-, hv⟩ | ⟨e, he, -⟩ := h members
  · exact hv
  · rw [hgood] at he
    cases he

theorem Follows.bad (h : Follows ofMembers demands carries) {e : EnvelopeError}
    (hbad : firstBad? demands members = some e) : ofMembers members = .error e := by
  obtain ⟨hgood, -⟩ | ⟨e', he', herror⟩ := h members
  · rw [hbad] at hgood
    cases hgood
  · rw [hbad] at he'
    cases he'
    exact herror

theorem Follows.met (h : Follows ofMembers demands carries) {v : α} (hv : ofMembers members = .ok v) :
    firstBad? demands members = none ∧ carries members v := by
  obtain ⟨hgood, v', hv', hcarries⟩ | ⟨e, -, herror⟩ := h members
  · rw [hv] at hv'
    cases hv'
    exact ⟨hgood, hcarries⟩
  · rw [hv] at herror
    cases herror

/-- What members agree on decides what they are read as. -/
theorem Follows.agree (h : Follows ofMembers demands carries) {members' : List (String × Json)}
    (hunique : ∀ {v v'}, carries members v → carries members' v' → v = v')
    (hagree : Agree demands members members') : ofMembers members = ofMembers members' := by
  have hsame := firstBad?_agree hagree
  cases hb : firstBad? demands members with
  | none =>
    obtain ⟨v, hv, hcarries⟩ := h.good hb
    obtain ⟨v', hv', hcarries'⟩ := h.good (hsame.symm.trans hb)
    rw [hv, hv', hunique hcarries hcarries']
  | some e => rw [h.bad hb, h.bad (hsame.symm.trans hb)]

theorem Follows.accepts (h : Follows ofMembers demands carries)
    (hdecode : ∀ b, decode b = Envelope.members b >>= ofMembers)
    (hunique : ∀ {members members' v v'}, Agree demands members members' → carries members v →
      carries members' v' → v = v') (bytes : List UInt8) : Accepts decode demands carries bytes := by
  have hread : ∀ {b members}, Json.Writes b (.object members) → decode b = ofMembers members := by
    intro b members hw
    rw [hdecode, members_eq_ok_iff.mpr hw]
    rfl
  have hrefused : (∀ members, ¬ Json.Writes bytes (.object members)) →
      ∃ e, decode bytes = .error e ∧ e.IsParse := by
    intro hnone
    obtain ⟨e, he, hparse⟩ := members_refused hnone
    refine ⟨e, ?_, hparse⟩
    rw [hdecode, he]
    rfl
  refine ⟨⟨?_, ?_⟩, ?_, hrefused, ?_, ?_⟩
  · rintro ⟨v, hv⟩
    by_cases hw : ∃ members, Json.Writes bytes (.object members)
    · obtain ⟨members, hw⟩ := hw
      have hmet := h.met ((hread hw).symm.trans hv)
      exact ⟨members, hw, firstBad?_eq_none_iff.mp hmet.1⟩
    · obtain ⟨e, he, -⟩ := hrefused fun members hm => hw ⟨members, hm⟩
      rw [he] at hv
      cases hv
  · rintro ⟨members, hw, hmet⟩
    obtain ⟨v, hv, -⟩ := h.good (firstBad?_eq_none_iff.mpr hmet)
    exact ⟨v, (hread hw).trans hv⟩
  · intro members hw v hv
    exact (h.met ((hread hw).symm.trans hv)).2
  · intro members hw e he
    exact (hread hw).trans (h.bad he)
  · intro members members' bytes' hw hw' hagree
    rw [hread hw, hread hw', h.agree (hunique hagree) hagree]

end

end Envelope

/-! ## Requests and replies -/

theorem toLower_val_iff {c : Char} {n : UInt32} (hn : 97 ≤ n.toNat ∧ n.toNat ≤ 122) :
    c.toLower.val = n ↔ c.val = n ∨ c.val = n - 32 := by
  have hshift : 'a'.val - 'A'.val = 32 := rfl
  have hfirst : 'A'.val.toNat = 65 := rfl
  have hlast : 'Z'.val.toNat = 90 := rfl
  unfold Char.toLower
  simp only [hshift, ge_iff_le, UInt32.le_iff_toNat_le, hfirst, hlast, ← UInt32.toNat_inj,
    UInt32.toNat_sub, UInt32.reduceToNat]
  split
  · simp only [UInt32.toNat_add, UInt32.reduceToNat]
    omega
  · omega

theorem Status.ofText_eq_ok_iff {s : String} : Status.ofText s = .ok ↔ s ∈ ["ok", "oK", "Ok", "OK"] := by
  have ho : ∀ c : Char, c.toLower = 'o' ↔ c = 'o' ∨ c = 'O' := by
    intro c
    simp only [Char.ext_iff]
    exact toLower_val_iff (by decide)
  have hk : ∀ c : Char, c.toLower = 'k' ↔ c = 'k' ∨ c = 'K' := by
    intro c
    simp only [Char.ext_iff]
    exact toLower_val_iff (by decide)
  have hok : Status.ofText s = .ok ↔ s.toList.map Char.toLower = ['o', 'k'] := by
    unfold Status.ofText
    split <;> simp [*]
  rw [hok]
  constructor
  · intro h
    obtain ⟨a, rest, hs, ha, h⟩ := List.map_eq_cons_iff.mp h
    obtain ⟨b, rest, rfl, hb, h⟩ := List.map_eq_cons_iff.mp h
    obtain rfl := List.map_eq_nil_iff.mp h
    rw [← String.ofList_toList (s := s), hs]
    rcases (ho a).mp ha with rfl | rfl <;> rcases (hk b).mp hb with rfl | rfl <;> decide
  · intro h
    simp only [List.mem_cons, List.not_mem_nil, or_false] at h
    rcases h with rfl | rfl | rfl | rfl <;> decide

theorem Params.toJson_ofMembers (fields : List (String × Json)) :
    (Params.ofMembers fields).toJson = (Json.object fields).canonical := rfl

namespace Request

theorem follows : Envelope.Follows ofMembers demands Carries := by
  intro members
  unfold ofMembers demands
  obtain ⟨hmet, command, hcommand, hc⟩ | ⟨hunmet, hc⟩ := Envelope.stringField_met members .command
  · rw [Envelope.firstBad?_met hmet, hc]
    obtain ⟨hmet', fields, hfields, hp⟩ | ⟨hunmet', hp⟩ := Envelope.paramsField_met members
    · rw [Envelope.firstBad?_met hmet', hp]
      exact .inl ⟨rfl, _, rfl, hcommand, fields, hfields, Params.toJson_ofMembers fields⟩
    · rw [Envelope.firstBad?_unmet hunmet', hp]
      exact .inr ⟨_, rfl, rfl⟩
  · rw [Envelope.firstBad?_unmet hunmet, hc]
    exact .inr ⟨_, rfl, rfl⟩

theorem eq_of_agree {members members' : List (String × Json)} {r r' : Request}
    (h : Envelope.Agree demands members members') (hr : Carries members r) (hr' : Carries members' r') :
    r = r' := by
  obtain ⟨hcommand, fields, hfields, hp⟩ := hr
  obtain ⟨hcommand', fields', hfields', hp'⟩ := hr'
  have hc := h (.command, .string) (by simp [demands])
  have hf := h (.params, .object) (by simp [demands])
  rw [hcommand, hcommand'] at hc
  rw [hfields, hfields'] at hf
  have hparams : r.params = r'.params := by
    apply Params.toJson_inj.mp
    rw [hp, hp']
    exact Option.some.inj hf
  have htext : r.command = r'.command := Json.string.inj (Option.some.inj hc)
  cases r
  cases r'
  cases htext
  cases hparams
  rfl

theorem accepts (bytes : List UInt8) : Accepts decode demands Carries bytes :=
  follows.accepts (fun _ => rfl) eq_of_agree bytes

end Request

namespace Reply

theorem follows : Envelope.Follows ofMembers demands Carries := by
  intro members
  unfold ofMembers demands
  obtain ⟨hmet, s, hs, hstatus⟩ | ⟨hunmet, hstatus⟩ := Envelope.stringField_met members .status
  · rw [Envelope.firstBad?_met hmet, hstatus]
    obtain ⟨hmet', message, hmessage, hm⟩ | ⟨hunmet', hmessage⟩ := Envelope.messageField_met members
    · rw [Envelope.firstBad?_met hmet', hmessage]
      obtain ⟨hmet'', fields, hfields, hp⟩ | ⟨hunmet'', hp⟩ := Envelope.paramsField_met members
      · rw [Envelope.firstBad?_met hmet'', hp]
        exact .inl ⟨rfl, _, rfl, ⟨s, hs, Status.ofText_eq_ok_iff⟩, hm, fields, hfields,
          Params.toJson_ofMembers fields⟩
      · rw [Envelope.firstBad?_unmet hunmet'', hp]
        exact .inr ⟨_, rfl, rfl⟩
    · rw [Envelope.firstBad?_unmet hunmet', hmessage]
      exact .inr ⟨_, rfl, rfl⟩
  · rw [Envelope.firstBad?_unmet hunmet, hstatus]
    exact .inr ⟨_, rfl, rfl⟩

theorem message_eq {v v' : Option Json} {message message' : String}
    (h : v.map Json.canonical = v'.map Json.canonical)
    (hm : v = some (.string message) ∨ v = none ∧ message = "")
    (hm' : v' = some (.string message') ∨ v' = none ∧ message' = "") : message = message' := by
  rcases hm with rfl | ⟨rfl, rfl⟩
  · rcases hm' with rfl | ⟨rfl, rfl⟩
    · exact Json.string.inj (Option.some.inj h)
    · cases h
  · rcases hm' with rfl | ⟨rfl, rfl⟩
    · cases h
    · rfl

theorem eq_of_agree {members members' : List (String × Json)} {r r' : Reply}
    (h : Envelope.Agree demands members members') (hr : Carries members r) (hr' : Carries members' r') :
    r = r' := by
  obtain ⟨⟨s, hs, hok⟩, hm, fields, hfields, hp⟩ := hr
  obtain ⟨⟨s', hs', hok'⟩, hm', fields', hfields', hp'⟩ := hr'
  have hstatus := h (.status, .string) (by simp [demands])
  have hmessage := h (.message, .optionalString) (by simp [demands])
  have hf := h (.params, .object) (by simp [demands])
  rw [hs, hs'] at hstatus
  rw [hfields, hfields'] at hf
  have hparams : r.params = r'.params := by
    apply Params.toJson_inj.mp
    rw [hp, hp']
    exact Option.some.inj hf
  have hsame : s = s' := Json.string.inj (Option.some.inj hstatus)
  have htext : r.message = r'.message := message_eq hmessage hm hm'
  have hboth : r.status = r'.status := by
    rw [hsame, ← hok'] at hok
    cases hr : r.status <;> cases hr' : r'.status <;> simp_all
  cases r
  cases r'
  cases hparams
  cases htext
  cases hboth
  rfl

theorem accepts (bytes : List UInt8) : Accepts decode demands Carries bytes :=
  follows.accepts (fun _ => rfl) eq_of_agree bytes

end Reply

/-! ## Broadcasts -/

namespace Broadcast

theorem splits (bytes : List UInt8) : Splits bytes := by
  refine ⟨?_, ?_, ?_⟩
  · intro h
    have hnone : replyBytes bytes = [] := by
      rw [replyBytes, List.dropWhile_eq_nil_iff]
      intro b hb
      have hb' : b ≠ 0x7B := fun e => h (e ▸ hb)
      exact decide_eq_true hb'
    rw [decode, hnone]
    rfl
  · rintro front rest rfl hfront htopic
    obtain ⟨hfront', hrest⟩ := split_at_brace rest hfront
    rw [decode, hrest, if_neg (by simp)]
    split
    · next fault _ => exact ⟨fault, rfl⟩
    · next topic htext =>
      rw [hfront', Utf8.text_eq_ok_iff] at htext
      exact absurd htext (htopic topic)
  · rintro topic rest rfl hfront
    obtain ⟨hfront', hrest⟩ := split_at_brace rest hfront
    have hne : replyBytes (Utf8.bytes topic ++ 0x7B :: rest) ≠ [] := by
      rw [hrest]
      exact List.cons_ne_nil _ _
    have htext : Utf8.text (topicBytes (Utf8.bytes topic ++ 0x7B :: rest)) = .ok topic := by
      rw [hfront', Utf8.text_bytes]
    rw [decode_of_split hne htext (brace_free_of_text htext), hrest]
    cases Reply.decode (0x7B :: rest) with
    | error e => rfl
    | ok r => rfl

end Broadcast

/-- The decoders accept exactly the wire language, and refuse everything else for its first fault. -/
theorem decoders_accept (bytes : List UInt8) :
    Accepts Reply.decode Reply.demands Reply.Carries bytes ∧
      Accepts Request.decode Request.demands Request.Carries bytes ∧ Broadcast.Splits bytes :=
  ⟨Reply.accepts bytes, Request.accepts bytes, Broadcast.splits bytes⟩

/-- Of three bad fields the status is reported, and by its last value. -/
theorem decoders_accept_first_bad :
    Reply.decode (Utf8.bytes "\x7b\"params\":[], \"status\":\"ok\",\"message\":1,\"status\":null\x7d") =
      .error (.invalidField .status) := by
  have hwrites : Json.Writes
      (Utf8.bytes "\x7b\"params\":[], \"status\":\"ok\",\"message\":1,\"status\":null\x7d")
      (.object [("params", .array []), ("status", .string "ok"),
        ("message", .number ⟨false, [1], [], none, rfl⟩), ("status", .null)]) := by
    rw [← Json.parse_eq_ok_iff]
    decide +kernel
  exact (decoders_accept _).1.fieldRefused _ hwrites _ (by decide)

end MessageBus
