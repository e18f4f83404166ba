import MessageBus.Envelope.Decode
import MessageBus.Proofs.Json.Accepting
import MessageBus.Proofs.Lookup
import MessageBus.Proofs.Params.Canonical
/-!
# What is sent is received

`messages_read_back`: a request, a reply or a broadcast with plain parameters is read back from its bytes
exactly if these nest at most 126 containers, one less than a JSON text may; beyond that reading fails for
the depth. The same holds where the kind is not known, but that a broadcast without a topic is taken
for its reply. The outer object is read field by field; a topic has no brace, so the first brace of a
broadcast is that of its reply.
-/
namespace MessageBus
set_option autoImplicit false

/-! ## The outer object -/

/-- How many containers stand around the innermost value, the parameters themselves counting one. -/
def Params.depth (p : Params) : Nat := p.toJson.depth

/-- No object in the parameters starts with the reserved key, nor do they themselves. -/
def Params.Plain (p : Params) : Prop := p.toJson.Plain

instance (p : Params) : Decidable p.Plain := inferInstanceAs (Decidable p.toJson.Plain)

/-- A message carries the parameters: they are plain, and nest at most 126 containers. -/
structure Params.Carried (p : Params) : Prop where
  plain : p.Plain
  shallow : p.depth ≤ 126

theorem Params.carried_empty : Params.empty.Carried := ⟨by decide, by decide⟩

theorem Params.plain_insert {p : Params} (hp : p.Plain) {key : String} (hkey : key ≠ Json.numberKey)
    {v : Json} (hv : v.canonical.Plain) : (p.insert key v).Plain := by
  obtain ⟨hfirst, hvalues⟩ := Json.plain_object.mp hp
  refine Json.plain_object.mpr ⟨?_, fun m hm => ?_⟩
  · -- Either the new key is first, or the first key is the one that was.
    unfold insert
    dsimp only
    cases hfields : p.fields with
    | nil => simpa [Keyed.insert] using hkey
    | cons m rest =>
      rw [hfields] at hfirst
      unfold Keyed.insert
      split_ifs
      · simpa using hkey
      · simpa using hkey
      · exact hfirst
  · rcases Keyed.mem_insert hm with rfl | hm
    · exact hv
    · exact hvalues m hm

theorem Params.depth_insert {p : Params} {v : Json} {n : Nat} (hp : p.depth ≤ n + 1)
    (hv : v.canonical.depth ≤ n) (key : String) : (p.insert key v).depth ≤ n + 1 := by
  refine Nat.succ_le_succ (Json.depthMembers_le_iff.mpr fun m hm => ?_)
  rcases Keyed.mem_insert hm with rfl | hm
  · exact hv
  · exact Json.depthMembers_le_iff.mp (Nat.le_of_succ_le_succ hp) m hm

theorem Params.depth_of_get? {p : Params} {key : String} {v : Json} (h : p.get? key = some v) :
    v.depth < p.depth :=
  Nat.lt_succ_of_le (Json.depthMembers_le_iff.mp (Nat.le_refl _) (key, v) (mem_of_lookup h))

/-- Empty arrays, one inside the other. -/
def Json.nested : Nat → Json
  | 0 => .array []
  | n + 1 => .array [nested n]

theorem Json.depth_nested (n : Nat) : (nested n).depth = n + 1 := by
  induction n with
  | zero => rfl
  | succ n ih => rw [nested, depth, depthItems, depthItems, ih, Nat.max_zero]

theorem Json.canonical_nested (n : Nat) : (nested n).canonical = nested n := by
  induction n with
  | zero => rfl
  | succ n ih => rw [nested, canonical, canonicalItems, canonicalItems, ih]

namespace Envelope

theorem object_front (fields : List (String × Json)) :
    ∃ rest, (Json.object fields).bytes = 0x7B :: rest := ⟨_, rfl⟩

theorem members_bytes {fields : List (String × Json)} (h : (Json.object fields).Plain) :
    members (Json.object fields).bytes =
      if Json.depthMembers fields ≤ 126 then .ok fields else .error (.malformed .tooDeep) := by
  have hdepth : (Json.object fields).depth ≤ Json.maxDepth ↔ Json.depthMembers fields ≤ 126 :=
    Nat.succ_le_succ_iff
  rw [members, Json.parse_bytes h]
  by_cases hle : Json.depthMembers fields ≤ 126
  · rw [if_pos hle, if_pos (hdepth.2 hle)]
  · rw [if_neg hle, if_neg fun hd => hle (hdepth.1 hd)]

/-- What nests too deep is no text of an object, whatever keys it has. -/
theorem members_deep {fields : List (String × Json)} (h : 126 < Json.depthMembers fields) :
    ∃ fault, members (Json.object fields).bytes = .error (.malformed fault) := by
  rw [members]
  cases hparse : Json.parse (Json.object fields).bytes with
  | error fault => exact ⟨fault, rfl⟩
  | ok v =>
    have hdepth := (Json.writes_bytes_iff.mp (Json.parse_eq_ok_iff.mp hparse)).1
    exact absurd (Nat.le_of_succ_le_succ hdepth) (Nat.not_le.mpr h)

theorem paramsField_toJson {fields : List (String × Json)} {p : Params}
    (h : Keyed.lookupLast EnvelopeField.params.key fields = some p.toJson) :
    paramsField fields = .ok p := by
  rw [paramsField, h]
  exact congrArg Except.ok p.ofMembers_fields

end Envelope

/-! ## Requests and replies -/

namespace Request

def fields (r : Request) : List (String × Json) :=
  [("command", .string r.command), ("params", r.params.toJson)]

theorem depth_fields (r : Request) : Json.depthMembers r.fields = r.params.depth := by
  simp [fields, Json.depthMembers, Json.depth, Params.depth]

theorem plain_fields {r : Request} (h : r.params.Plain) : (Json.object r.fields).Plain := by
  refine Json.plain_object.mpr ⟨by simp [fields, Json.numberKey], ?_⟩
  simp only [fields, List.forall_mem_cons]
  exact ⟨Json.plain_string _, h, List.forall_mem_nil _⟩

theorem ofMembers_fields (r : Request) : ofMembers r.fields = .ok r := by
  have hp : Envelope.paramsField r.fields = .ok r.params := Envelope.paramsField_toJson rfl
  have hc : Envelope.stringField r.fields .command = .ok r.command := rfl
  rw [ofMembers, hc, hp]
  rfl

theorem decode_encode {r : Request} (h : r.params.Plain) :
    decode r.encode = if r.params.depth ≤ 126 then .ok r else .error (.malformed .tooDeep) := by
  have hmembers := Envelope.members_bytes (plain_fields h)
  rw [r.depth_fields] at hmembers
  have he : r.encode = (Json.object r.fields).bytes := rfl
  rw [decode, he, hmembers]
  split
  · exact r.ofMembers_fields
  · rfl

theorem decode_deep {r : Request} (h : 126 < r.params.depth) :
    ∃ fault, decode r.encode = .error (.malformed fault) := by
  rw [← r.depth_fields] at h
  obtain ⟨fault, hmembers⟩ := Envelope.members_deep h
  have he : r.encode = (Json.object r.fields).bytes := rfl
  refine ⟨fault, ?_⟩
  rw [decode, he, hmembers]
  rfl

theorem decode_carried {r : Request} (h : r.params.Carried) : decode r.encode = .ok r := by
  rw [decode_encode h.plain, if_pos h.shallow]

end Request

namespace Reply

theorem ofText_text (s : Status) : Status.ofText s.text = s := by
  cases s <;> decide

def fields (r : Reply) : List (String × Json) :=
  [("status", .string r.status.text), ("message", .string r.message), ("params", r.params.toJson)]

theorem depth_fields (r : Reply) : Json.depthMembers r.fields = r.params.depth := by
  simp [fields, Json.depthMembers, Json.depth, Params.depth]

theorem plain_fields {r : Reply} (h : r.params.Plain) : (Json.object r.fields).Plain := by
  refine Json.plain_object.mpr ⟨by simp [fields, Json.numberKey], ?_⟩
  simp only [fields, List.forall_mem_cons]
  exact ⟨Json.plain_string _, Json.plain_string _, h, List.forall_mem_nil _⟩

theorem ofMembers_fields (r : Reply) : ofMembers r.fields = .ok r := by
  have hp : Envelope.paramsField r.fields = .ok r.params := Envelope.paramsField_toJson rfl
  have hs : Envelope.stringField r.fields .status = .ok r.status.text := rfl
  have hm : Envelope.messageField r.fields = .ok r.message := rfl
  rw [ofMembers, hs, hm, hp]
  simp only [bind, Except.bind, pure, Except.pure, ofText_text]

theorem decode_encode {r : Reply} (h : r.params.Plain) :
    decode r.encode = if r.params.depth ≤ 126 then .ok r else .error (.malformed .tooDeep) := by
  have hmembers := Envelope.members_bytes (plain_fields h)
  rw [r.depth_fields] at hmembers
  have he : r.encode = (Json.object r.fields).bytes := rfl
  rw [decode, he, hmembers]
  split
  · exact r.ofMembers_fields
  · rfl

theorem decode_carried {r : Reply} (h : r.params.Carried) : decode r.encode = .ok r := by
  rw [decode_encode h.plain, if_pos h.shallow]

end Reply

/-! ## Broadcasts -/

namespace Broadcast

theorem split_at_brace {front : List UInt8} (rest : List UInt8) (h : 0x7B ∉ front) :
    topicBytes (front ++ 0x7B :: rest) = front ∧ replyBytes (front ++ 0x7B :: rest) = 0x7B :: rest := by
  have hne : ∀ b ∈ front, (b ≠ 0x7B : Bool) = true := by
    intro b hb
    have hb' : b ≠ 0x7B := fun e => h (e ▸ hb)
    exact decide_eq_true hb'
  rw [topicBytes, replyBytes, List.takeWhile_append_of_pos hne, List.dropWhile_append_of_pos hne]
  simp

theorem brace_not_mem (b : Broadcast) : 0x7B ∉ Utf8.bytes b.topic :=
  Utf8.not_mem_encode (by decide) b.brace_free

/-- The first brace of a broadcast is that of its reply. -/
theorem split_encode (b : Broadcast) :
    topicBytes b.encode = Utf8.bytes b.topic ∧ replyBytes b.encode = b.reply.encode := by
  obtain ⟨rest, hrest⟩ := Envelope.object_front b.reply.fields
  have he : b.encode = Utf8.bytes b.topic ++ 0x7B :: rest := congrArg (Utf8.bytes b.topic ++ ·) hrest
  have hreply : b.reply.encode = 0x7B :: rest := hrest
  rw [he, hreply]
  exact split_at_brace rest b.brace_not_mem

theorem decode_of_split {bytes : List UInt8} {topic : String} (hne : replyBytes bytes ≠ [])
    (htopic : Utf8.text (topicBytes bytes) = .ok topic) (hfree : '\x7b' ∉ topic.toList) :
    decode bytes = (fun reply => ⟨topic, reply, hfree⟩) <$> Reply.decode (replyBytes bytes) := by
  rw [decode, if_neg (by simpa using hne)]
  split
  next fault h =>
    rw [htopic] at h
    cases h
  next topic' h =>
    rw [htopic] at h
    cases h
    rfl

theorem decode_encode {b : Broadcast} (h : b.reply.params.Plain) :
    decode b.encode = if b.reply.params.depth ≤ 126 then .ok b else .error (.malformed .tooDeep) := by
  obtain ⟨htopic, hreply⟩ := b.split_encode
  obtain ⟨rest, hrest⟩ := Envelope.object_front b.reply.fields
  have hne : replyBytes b.encode ≠ [] := by
    rw [hreply]
    exact fun h => List.cons_ne_nil _ _ (hrest.symm.trans h)
  have htext : Utf8.text (topicBytes b.encode) = .ok b.topic := by rw [htopic, Utf8.text_bytes]
  rw [decode_of_split hne htext b.brace_free, hreply, Reply.decode_encode h]
  split
  · rfl
  · rfl

theorem decode_carried {b : Broadcast} (h : b.reply.params.Carried) : decode b.encode = .ok b := by
  rw [decode_encode h.plain, if_pos h.shallow]

end Broadcast

/-! ## Envelopes of unknown kind -/

namespace Envelope

def params : Envelope → Params
  | .request r => r.params
  | .reply r => r.params
  | .broadcast b => b.reply.params

/-- What an envelope is taken for: a broadcast without a topic for its reply. -/
def received : Envelope → Envelope
  | .request r => .request r
  | .reply r => .reply r
  | .broadcast b => if b.topic = "" then .reply b.reply else .broadcast b

theorem decode_request {r : Request} (h : r.params.Plain) :
    decode r.encode =
      if r.params.depth ≤ 126 then .ok (.request r) else .error (.malformed .tooDeep) := by
  have hmembers := members_bytes (Request.plain_fields h)
  have hcommand : (Keyed.lookupLast EnvelopeField.command.key r.fields).isSome = true := rfl
  rw [r.depth_fields] at hmembers
  have hfront : ¬ r.encode.head? ≠ some 0x7B := fun h => h rfl
  have he : r.encode = (Json.object r.fields).bytes := rfl
  rw [decode, if_neg hfront, Request.decode_encode h, he, hmembers]
  by_cases hd : r.params.depth ≤ 126
  · simp only [if_pos hd, bind, Except.bind, hcommand, if_true]
    rfl
  · simp only [if_neg hd, bind, Except.bind]

theorem decode_reply {r : Reply} (h : r.params.Plain) :
    decode r.encode =
      if r.params.depth ≤ 126 then .ok (.reply r) else .error (.malformed .tooDeep) := by
  have hmembers := members_bytes (Reply.plain_fields h)
  have hcommand : (Keyed.lookupLast EnvelopeField.command.key r.fields).isSome = false := rfl
  rw [r.depth_fields] at hmembers
  have hfront : ¬ r.encode.head? ≠ some 0x7B := fun h => h rfl
  have he : r.encode = (Json.object r.fields).bytes := rfl
  rw [decode, if_neg hfront, Reply.decode_encode h, he, hmembers]
  by_cases hd : r.params.depth ≤ 126
  · simp only [if_pos hd, bind, Except.bind, hcommand, Bool.false_eq_true, if_false]
    rfl
  · simp only [if_neg hd, bind, Except.bind]

theorem decode_broadcast {b : Broadcast} (hplain : b.reply.params.Plain) (h : b.topic ≠ "") :
    decode b.encode =
      if b.reply.params.depth ≤ 126 then .ok (.broadcast b) else .error (.malformed .tooDeep) := by
  have hne : Utf8.bytes b.topic ≠ [] := by
    intro hnil
    have htext := Utf8.text_bytes b.topic
    rw [hnil] at htext
    exact h (Except.ok.inj htext).symm
  obtain ⟨x, rest, hx⟩ := List.exists_cons_of_ne_nil hne
  have hbrace : x ≠ 0x7B := by
    rintro rfl
    exact b.brace_not_mem (by rw [hx]; exact List.mem_cons_self)
  have hfront : b.encode.head? ≠ some 0x7B := by
    rw [Broadcast.encode, hx]
    exact fun e => hbrace (Option.some.inj e)
  rw [decode, if_pos hfront, Broadcast.decode_encode hplain]
  split
  · rfl
  · rfl

theorem decode_encode {e : Envelope} (hplain : e.params.Plain) :
    decode e.encode = if e.params.depth ≤ 126 then .ok e.received else .error (.malformed .tooDeep) := by
  cases e with
  | request r => exact decode_request hplain
  | reply r => exact decode_reply hplain
  | broadcast b =>
    by_cases h : b.topic = ""
    · have he : b.encode = b.reply.encode := by
        rw [Broadcast.encode, h]
        rfl
      have hr : (Envelope.broadcast b).received = .reply b.reply := if_pos h
      rw [hr]
      exact (congrArg decode he).trans (decode_reply hplain)
    · have hr : (Envelope.broadcast b).received = .broadcast b := if_neg h
      rw [hr]
      exact decode_broadcast hplain h

end Envelope

/-! ## All messages -/

theorem read_iff_of_depth {α : Type} {read : Except EnvelopeError α} {v : α} {depth : Nat}
    (h : read = if depth ≤ 126 then .ok v else .error (.malformed .tooDeep)) :
    (read = .ok v ↔ depth ≤ 126) ∧ (read = .error (.malformed .tooDeep) ↔ 126 < depth) := by
  by_cases hd : depth ≤ 126
  · rw [if_pos hd] at h
    simp [h, hd]
  · rw [if_neg hd] at h
    simp [h, hd, Nat.lt_of_not_le hd]

/-- A message with plain parameters reads back as itself exactly if these nest at most 126 containers, and
is refused for its depth exactly if they nest more; read as an envelope of unknown kind, a broadcast
without a topic becomes its reply. -/
theorem messages_read_back :
    (∀ r : Request, r.params.Plain → (Request.decode r.encode = .ok r ↔ r.params.depth ≤ 126) ∧
      (Request.decode r.encode = .error (.malformed .tooDeep) ↔ 126 < r.params.depth)) ∧
    (∀ r : Reply, r.params.Plain → (Reply.decode r.encode = .ok r ↔ r.params.depth ≤ 126) ∧
      (Reply.decode r.encode = .error (.malformed .tooDeep) ↔ 126 < r.params.depth)) ∧
    (∀ b : Broadcast, b.reply.params.Plain →
      (Broadcast.decode b.encode = .ok b ↔ b.reply.params.depth ≤ 126) ∧
      (Broadcast.decode b.encode = .error (.malformed .tooDeep) ↔ 126 < b.reply.params.depth)) ∧
    ∀ e : Envelope, e.params.Plain → (Envelope.decode e.encode = .ok e.received ↔ e.params.depth ≤ 126) ∧
      (Envelope.decode e.encode = .error (.malformed .tooDeep) ↔ 126 < e.params.depth) := by
  refine ⟨fun r h => ?_, fun r h => ?_, fun b h => ?_, fun e h => ?_⟩
  · exact read_iff_of_depth (Request.decode_encode h)
  · exact read_iff_of_depth (Reply.decode_encode h)
  · exact read_iff_of_depth (Broadcast.decode_encode h)
  · exact read_iff_of_depth (Envelope.decode_encode h)

/-- The reserved key does no harm behind another one. -/
theorem messages_read_back_reserved :
    Request.decode (Request.encode
        ⟨"go", Params.ofMembers [(Json.numberKey, .string "5"), ("!", .array [.object []])]⟩) =
      .ok ⟨"go", Params.ofMembers [(Json.numberKey, .string "5"), ("!", .array [.object []])]⟩ :=
  (messages_read_back.1 _ (by decide)).1.mpr (by decide)

end MessageBus
