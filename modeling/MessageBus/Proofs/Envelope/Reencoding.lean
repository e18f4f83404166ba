import MessageBus.Proofs.Envelope.Language
import MessageBus.Proofs.Envelope.RoundTrip
/-!
# What is read and written again

`reencoding_stable`: whatever bytes a message was read from, it is read back from its own bytes, and every
number in its parameters is the one that stood at the same place. Keys that are dropped on the way leave
room for no deeper nesting, so the limit cannot be passed the second time. The reserved key must stand
nowhere in the bytes: sorting might bring it to the front of its object.
-/
namespace MessageBus
set_option autoImplicit false

/-- The value is read back from its own bytes, so that these are what is written once more. -/
def Stable {α : Type} (decode : List UInt8 → Except EnvelopeError α) (encode : α → Frame) (v : α) : Prop :=
  decode (encode v) = .ok v ∧ encode <$> decode (encode v) = .ok (encode v)

/-- The parameters have the numbers that the bytes write under `params`, at the same paths and no others. -/
structure Params.KeepsNumbers (p : Params) (bytes : List UInt8) : Prop where
  written : ∃ d : Json.Source, bytes ∈ d.text
  kept : ∀ d : Json.Source, bytes ∈ d.text → ∀ path n, p.toJson.at? path = some (.number n) →
    ∃ l, d.at? (.key "params" :: path) = some (.number l) ∧ n.Keeps l
  complete : ∀ d : Json.Source, bytes ∈ d.text → ∀ path l,
    d.at? (.key "params" :: path) = some (.number l) →
      ∃ n, p.toJson.at? path = some (.number n) ∧ n.Keeps l

theorem stable_of_decode {α : Type} {decode : List UInt8 → Except EnvelopeError α} {encode : α → Frame}
    {v : α} (h : decode (encode v) = .ok v) : Stable decode encode v := by
  refine ⟨h, ?_⟩
  rw [h]
  rfl

namespace Json

/-- No object that stands in the bytes has the reserved key. -/
def FreeText (bytes : List UInt8) : Prop := ∀ d : Source, bytes ∈ d.text → d.value.Free

theorem freeText_of_lex {bytes : List UInt8} {v : Json} (h : lex bytes = v.tokens.map Lexeme.token)
    (hv : v.Free) : FreeText bytes := by
  intro d hd
  rwa [Source.value_of_lex hd h]

theorem Source.value_eq_of_writes {bytes : List UInt8} {v : Json} {d : Source} (hfree : FreeText bytes)
    (hw : Writes bytes v) (hd : bytes ∈ d.text) : d.value = v := by
  obtain ⟨e, -, hstands, he⟩ := hw
  rw [Source.value_of_lex hd (lex_text he)]
  exact (hstands.eq_of_plain (hfree e he).plain).symm

theorem Writes.free {bytes : List UInt8} {v : Json} (hw : Writes bytes v) (hfree : FreeText bytes) :
    v.Free := by
  obtain ⟨d, -, -, hd⟩ := id hw
  rw [← Source.value_eq_of_writes hfree hw hd]
  exact hfree d hd

theorem number_of_canonical {v : Json} {n : Number} (h : v.canonical = .number n) : v = .number n := by
  cases v with
  | number m => exact h
  | null | bool _ | string _ | array _ | object _ => cases h

theorem Source.literal_of_value {d : Source} {n : Number} (h : d.value = .number n) :
    ∃ l : Literal, d = .number l ∧ l.number = n := by
  cases d with
  | number l => exact ⟨l, rfl, Json.number.inj h⟩
  | null | bool _ | string _ | array _ | object _ => cases h

end Json

section
variable {bytes : List UInt8} {members fields : List (String × Json)} {p : Params}

/-- Parameters that came in a message are carried by one. -/
theorem Params.carried_of_writes (hfree : Json.FreeText bytes) (hw : Json.Writes bytes (.object members))
    (hfields : Envelope.last? members .params = some (.object fields))
    (hp : p.toJson = (Json.object fields).canonical) : p.Carried := by
  have hmember : ("params", Json.object fields) ∈ members := List.mem_reverse.mp (mem_of_lookup hfields)
  constructor
  · have hcanonical := (Json.free_of_mem (hw.free hfree) hmember).canonical.plain
    rwa [← hp] at hcanonical
  · have hmembers : Json.depthMembers members ≤ 126 := Nat.le_of_succ_le_succ hw.depth_le
    have hdepth : (Json.object fields).depth ≤ 126 := Json.depthMembers_le_iff.mp hmembers _ hmember
    have hcanonical := Json.depth_canonical (.object fields)
    rw [← hp] at hcanonical
    exact Nat.le_trans hcanonical hdepth

/-- At every path the parameters have what the bytes write there, in canonical form. -/
theorem Params.at?_of_writes (hfree : Json.FreeText bytes) (hw : Json.Writes bytes (.object members))
    (hfields : Envelope.last? members .params = some (.object fields))
    (hp : p.toJson = (Json.object fields).canonical) {d : Json.Source} (hd : bytes ∈ d.text)
    (path : List Json.Step) :
    p.toJson.at? path =
      ((d.at? (.key "params" :: path)).map Json.Source.value).map Json.canonical := by
  have hvalue := Json.Source.value_eq_of_writes hfree hw hd
  have hchild : d.value.child? (.key "params") = some (.object fields) := by
    rw [hvalue]
    exact hfields
  rw [hp, Json.at?_canonical, ← Json.Source.at?_value, Json.at?, hchild, Option.bind_some]

theorem Params.keepsNumbers (hfree : Json.FreeText bytes) (hw : Json.Writes bytes (.object members))
    (hfields : Envelope.last? members .params = some (.object fields))
    (hp : p.toJson = (Json.object fields).canonical) : p.KeepsNumbers bytes := by
  obtain ⟨d, -, -, hd⟩ := id hw
  refine ⟨⟨d, hd⟩, ?_, ?_⟩
  · intro d hd path n hn
    rw [Params.at?_of_writes hfree hw hfields hp hd, Option.map_map, Option.map_eq_some_iff] at hn
    obtain ⟨e, he, hvalue⟩ := hn
    obtain ⟨l, rfl, rfl⟩ := Json.Source.literal_of_value (Json.number_of_canonical hvalue)
    exact ⟨l, he, l.keeps⟩
  · intro d hd path l hl
    refine ⟨l.number, ?_, l.keeps⟩
    rw [Params.at?_of_writes hfree hw hfields hp hd, hl]
    rfl

end

/-! ## Each decoder -/

section
variable {bytes : List UInt8}

namespace Request

theorem of_decode {r : Request} (hfree : Json.FreeText bytes) (h : decode bytes = .ok r) :
    r.params.Carried ∧ r.params.KeepsNumbers bytes := by
  obtain ⟨members, hw, -⟩ := (accepts bytes).accepted.mp ⟨r, h⟩
  obtain ⟨-, fields, hfields, hp⟩ := (accepts bytes).carried members hw r h
  exact ⟨Params.carried_of_writes hfree hw hfields hp, Params.keepsNumbers hfree hw hfields hp⟩

theorem stable {r : Request} (hfree : Json.FreeText bytes) (h : decode bytes = .ok r) :
    Stable decode encode r :=
  stable_of_decode (decode_carried (of_decode hfree h).1)

end Request

namespace Reply

theorem of_decode {r : Reply} (hfree : Json.FreeText bytes) (h : decode bytes = .ok r) :
    r.params.Carried ∧ r.params.KeepsNumbers bytes := by
  obtain ⟨members, hw, -⟩ := (accepts bytes).accepted.mp ⟨r, h⟩
  obtain ⟨-, -, fields, hfields, hp⟩ := (accepts bytes).carried members hw r h
  exact ⟨Params.carried_of_writes hfree hw hfields hp, Params.keepsNumbers hfree hw hfields hp⟩

theorem stable {r : Reply} (hfree : Json.FreeText bytes) (h : decode bytes = .ok r) :
    Stable decode encode r :=
  stable_of_decode (decode_carried (of_decode hfree h).1)

end Reply

namespace Broadcast

/-- A broadcast is its topic and, from the first brace on, its reply. -/
theorem splits_of_decode {b : Broadcast} (h : decode bytes = .ok b) :
    ∃ rest, bytes = Utf8.bytes b.topic ++ 0x7B :: rest ∧ replyBytes bytes = 0x7B :: rest ∧
      Reply.decode (0x7B :: rest) = .ok b.reply := by
  have hs := splits bytes
  have hbrace : 0x7B ∈ bytes := by
    by_contra hnone
    rw [hs.missing hnone] at h
    cases h
  obtain ⟨front, rest, hbytes, hfront⟩ := List.eq_append_cons_of_mem hbrace
  by_cases htopic : ∃ topic, front = Utf8.bytes topic
  · obtain ⟨topic, rfl⟩ := htopic
    have hreplied := hs.replied topic rest hbytes hfront
    rw [h] at hreplied
    cases hr : Reply.decode (0x7B :: rest) with
    | error e =>
      rw [hr] at hreplied
      cases hreplied
    | ok r =>
      rw [hr] at hreplied
      obtain ⟨rfl, rfl⟩ := Prod.mk.inj (Except.ok.inj hreplied)
      refine ⟨rest, hbytes, ?_, hr⟩
      rw [hbytes, (split_at_brace rest hfront).2]
  · obtain ⟨fault, hfault⟩ := hs.topicRefused front rest hbytes hfront fun topic e => htopic ⟨topic, e⟩
    rw [hfault] at h
    cases h

theorem of_decode {b : Broadcast} (hfree : Json.FreeText (replyBytes bytes)) (h : decode bytes = .ok b) :
    b.reply.params.Carried ∧ b.reply.params.KeepsNumbers (replyBytes bytes) := by
  obtain ⟨rest, -, hbytes, hreply⟩ := splits_of_decode h
  rw [hbytes] at hfree ⊢
  exact Reply.of_decode hfree hreply

theorem stable {b : Broadcast} (hfree : Json.FreeText (replyBytes bytes)) (h : decode bytes = .ok b) :
    Stable decode encode b :=
  stable_of_decode (decode_carried (of_decode hfree h).1)

end Broadcast

namespace Envelope

/-- What an envelope was read as, and why. -/
theorem splits_of_decode {e : Envelope} (h : decode bytes = .ok e) :
    (∃ b, e = .broadcast b ∧ b.topic ≠ "" ∧ Broadcast.decode bytes = .ok b) ∨
      Broadcast.replyBytes bytes = bytes ∧
        ((∃ r, e = .request r ∧ Request.decode bytes = .ok r) ∨
          ∃ r, e = .reply r ∧ Reply.decode bytes = .ok r) := by
  unfold decode at h
  split at h
  · next hfront =>
    obtain ⟨b, hb, rfl⟩ := Json.map_eq_ok h
    refine .inl ⟨b, rfl, ?_, hb⟩
    intro htopic
    obtain ⟨rest, hbytes, -⟩ := Broadcast.splits_of_decode hb
    rw [htopic] at hbytes
    rw [hbytes] at hfront
    exact hfront rfl
  · next hfront =>
    have hbytes : Broadcast.replyBytes bytes = bytes := by
      cases bytes with
      | nil => rfl
      | cons x rest =>
        have hx : x = 0x7B := by simpa using hfront
        rw [hx]
        rfl
    refine .inr ⟨hbytes, ?_⟩
    cases hm : members bytes with
    | error e => simp [hm, bind, Except.bind] at h
    | ok ms =>
      simp only [hm, bind, Except.bind] at h
      split at h
      · obtain ⟨r, hr, rfl⟩ := Json.map_eq_ok h
        exact .inl ⟨r, rfl, hr⟩
      · obtain ⟨r, hr, rfl⟩ := Json.map_eq_ok h
        exact .inr ⟨r, rfl, hr⟩

theorem of_decode {e : Envelope} (hfree : Json.FreeText (Broadcast.replyBytes bytes))
    (h : decode bytes = .ok e) :
    e.params.Carried ∧ e.params.KeepsNumbers (Broadcast.replyBytes bytes) := by
  obtain ⟨b, rfl, -, hb⟩ | ⟨hbytes, hwhole⟩ := splits_of_decode h
  · exact Broadcast.of_decode hfree hb
  · rw [hbytes] at hfree ⊢
    obtain ⟨r, rfl, hr⟩ | ⟨r, rfl, hr⟩ := hwhole
    · exact Request.of_decode hfree hr
    · exact Reply.of_decode hfree hr

theorem stable {e : Envelope} (hfree : Json.FreeText (Broadcast.replyBytes bytes))
    (h : decode bytes = .ok e) : Stable decode encode e := by
  obtain ⟨hplain, hdepth⟩ := (of_decode hfree h).1
  have hback := decode_encode hplain
  rw [if_pos hdepth] at hback
  obtain ⟨b, rfl, htopic, -⟩ | ⟨-, ⟨r, rfl, -⟩ | ⟨r, rfl, -⟩⟩ := splits_of_decode h
  · exact stable_of_decode (hback.trans (congrArg Except.ok (if_neg htopic)))
  · exact stable_of_decode hback
  · exact stable_of_decode hback

end Envelope
end

/-- Reading what was written for what was read gives the same again, with every number as it was; the kind
of an envelope of unknown kind stays as well. -/
theorem reencoding_stable (bytes : List UInt8) :
    (Json.FreeText bytes → ∀ r, Request.decode bytes = .ok r →
      Stable Request.decode Request.encode r ∧ r.params.KeepsNumbers bytes) ∧
    (Json.FreeText bytes → ∀ r, Reply.decode bytes = .ok r →
      Stable Reply.decode Reply.encode r ∧ r.params.KeepsNumbers bytes) ∧
    (Json.FreeText (Broadcast.replyBytes bytes) → ∀ b, Broadcast.decode bytes = .ok b →
      Stable Broadcast.decode Broadcast.encode b ∧
        b.reply.params.KeepsNumbers (Broadcast.replyBytes bytes)) ∧
    (Json.FreeText (Broadcast.replyBytes bytes) → ∀ e, Envelope.decode bytes = .ok e →
      Stable Envelope.decode Envelope.encode e ∧
        e.params.KeepsNumbers (Broadcast.replyBytes bytes)) := by
  refine ⟨?_, ?_, ?_, ?_⟩
  · intro hfree r h
    exact ⟨Request.stable hfree h, (Request.of_decode hfree h).2⟩
  · intro hfree r h
    exact ⟨Reply.stable hfree h, (Reply.of_decode hfree h).2⟩
  · intro hfree b h
    exact ⟨Broadcast.stable hfree h, (Broadcast.of_decode hfree h).2⟩
  · intro hfree e h
    exact ⟨Envelope.stable hfree h, (Envelope.of_decode hfree h).2⟩

/-- A request with blanks, a repeated key, an unknown one, a zero with a minus and two exponents, whose
numbers keep their digits and the minus. -/
theorem reencoding_stable_respelled :
    ∃ r, Request.decode (Utf8.bytes
        "\t\x7b\"params\":0, \"id\":7,\n \"params\":\x7b\"n\":-0.50E+007,\"m\":[1e2,-0]\x7d,\"command\":\"go\"\x7d") = .ok r ∧
      Utf8.bytes "\x7b\"command\":\"go\",\"params\":\x7b\"m\":[1e+2,-0],\"n\":-0.50e+007\x7d\x7d" = r.encode ∧
      Stable Request.decode Request.encode r := by
  let fields : List (String × Json) :=
    [("n", .number ⟨true, [0], [5, 0], some ⟨false, [0, 0, 7], by decide⟩, rfl⟩),
      ("m", .array [.number ⟨false, [1], [], some ⟨false, [2], by decide⟩, rfl⟩,
        .number ⟨true, [0], [], none, rfl⟩])]
  let input := Utf8.bytes
    "\t\x7b\"params\":0, \"id\":7,\n \"params\":\x7b\"n\":-0.50E+007,\"m\":[1e2,-0]\x7d,\"command\":\"go\"\x7d"
  have hread : Request.decode input = .ok ⟨"go", Params.ofMembers fields⟩ := by decide +kernel
  have hlex : Json.lex input = (Json.object [("params", .number (.ofNat 0)), ("id", .number (.ofNat 7)),
      ("params", .object fields), ("command", .string "go")]).tokens.map .token := by decide +kernel
  refine ⟨_, hread, ?_, ((reencoding_stable _).1 (Json.freeText_of_lex hlex (by decide)) _ hread).1⟩
  decide +kernel

end MessageBus
