import MessageBus.Envelope.Basic
import MessageBus.Envelope.Error
/-!
# Reading envelopes

Fields are looked up by key, the last of equal keys counting, and unknown keys are passed over. The
first bad field in the order in which fields are written is reported.
-/
namespace MessageBus
set_option autoImplicit false

namespace Envelope

/-- The members of the JSON object that the bytes write. -/
def members (bytes : List UInt8) : Except EnvelopeError (List (String × Json)) :=
  match Json.parse bytes with
  | .ok (.object members) => .ok members
  | .ok _ => .error .notObject
  | .error fault => .error (.malformed fault)

def stringField (members : List (String × Json)) (field : EnvelopeField) :
    Except EnvelopeError String :=
  match Keyed.lookupLast field.key members with
  | some (.string s) => .ok s
  | some _ => .error (.invalidField field)
  | none => .error (.missingField field)

def paramsField (members : List (String × Json)) : Except EnvelopeError Params :=
  match Keyed.lookupLast EnvelopeField.params.key members with
  | some (.object fields) => .ok (Params.ofMembers fields)
  | some _ => .error (.invalidField .params)
  | none => .error (.missingField .params)

/-- The message of a reply; an absent one is empty. -/
def messageField (members : List (String × Json)) : Except EnvelopeError String :=
  match stringField members .message with
  | .error (.missingField _) => .ok ""
  | r => r

end Envelope

namespace Request

def ofMembers (members : List (String × Json)) : Except EnvelopeError Request := do
  let command ← Envelope.stringField members .command
  let params ← Envelope.paramsField members
  return ⟨command, params⟩

def decode (bytes : List UInt8) : Except EnvelopeError Request := do
  ofMembers (← Envelope.members bytes)

end Request

namespace Reply

def ofMembers (members : List (String × Json)) : Except EnvelopeError Reply := do
  let status ← Envelope.stringField members .status
  let message ← Envelope.messageField members
  let params ← Envelope.paramsField members
  return ⟨.ofText status, message, params⟩

def decode (bytes : List UInt8) : Except EnvelopeError Reply := do
  ofMembers (← Envelope.members bytes)

end Reply

namespace Broadcast

/-- A reply under a topic, unless the topic holds a brace. -/
def make (topic : String) (reply : Reply) : Except EnvelopeError Broadcast :=
  if h : '\x7b' ∈ topic.toList then .error (.topicWithBrace topic) else .ok ⟨topic, reply, h⟩

/-- Everything before the first brace. -/
def topicBytes (bytes : List UInt8) : List UInt8 := bytes.takeWhile (· ≠ 0x7B)

/-- Everything from the first brace on. -/
def replyBytes (bytes : List UInt8) : List UInt8 := bytes.dropWhile (· ≠ 0x7B)

theorem brace_free_of_text {bytes : List UInt8} {topic : String}
    (h : Utf8.text (topicBytes bytes) = .ok topic) : '\x7b' ∉ topic.toList := by
  intro hmem
  obtain ⟨chars, hchars, rfl⟩ := Json.map_eq_ok h
  rw [String.toList_ofList] at hmem
  have hb := Utf8.mem_of_decodeFrom hchars hmem (by decide) (by decide)
  have hne : ∀ b ∈ topicBytes bytes, (b ≠ 0x7B : Bool) = true :=
    fun b hb => List.all_eq_true.1 List.all_takeWhile b hb
  exact absurd (hne _ hb) (by decide)

/-- Splits at the first brace into topic and reply. -/
def decode (bytes : List UInt8) : Except EnvelopeError Broadcast :=
  if (replyBytes bytes).isEmpty then .error .missingPayload
  else match h : Utf8.text (topicBytes bytes) with
    | .error fault => .error (.topicNotUtf8 fault)
    | .ok topic => do
      let reply ← Reply.decode (replyBytes bytes)
      return ⟨topic, reply, brace_free_of_text h⟩

end Broadcast

namespace Envelope

/-- Reads an envelope of unknown kind: bytes that start with a brace are a request if they carry a
command and else a reply; all others are a broadcast. -/
def decode (bytes : List UInt8) : Except EnvelopeError Envelope :=
  if bytes.head? ≠ some 0x7B then .broadcast <$> Broadcast.decode bytes
  else do
    let members ← members bytes
    if (Keyed.lookupLast EnvelopeField.command.key members).isSome then
      .request <$> Request.decode bytes
    else .reply <$> Reply.decode bytes

end Envelope
end MessageBus
