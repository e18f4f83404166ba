import MessageBus.Envelope.Basic
import MessageBus.Proofs.Json.Injective
import MessageBus.Proofs.Params.Insertion
/-!
# Encodings are canonical

`encoding_canonical`: requests, and replies, have the same bytes only if they are equal, also where they
nest too deep to be decoded; and parameters show only what the insertions that made them left under each
key.
-/
namespace MessageBus
set_option autoImplicit false

theorem Request.encode_inj {r s : Request} : r.encode = s.encode ↔ r = s := by
  obtain ⟨command, params⟩ := r
  obtain ⟨command', params'⟩ := s
  rw [encode, encode, Json.bytes_inj]
  simp [toJson, Params.toJson_inj]

theorem Status.text_inj {s t : Status} : s.text = t.text ↔ s = t := by
  cases s <;> cases t <;> decide

theorem Reply.encode_inj {r s : Reply} : r.encode = s.encode ↔ r = s := by
  obtain ⟨status, message, params⟩ := r
  obtain ⟨status', message', params'⟩ := s
  rw [encode, encode, Json.bytes_inj]
  simp [toJson, Params.toJson_inj, Status.text_inj]

/-- The bytes of a request, and of a reply, are those of no other. The members of parameters made by
insertions are what these left, in the order of the keys' bytes; and two histories of insertions make the
same parameters, and the same bytes in any request or reply, exactly if they leave the same under each key. -/
theorem encoding_canonical :
    (∀ r s : Request, r.encode = s.encode ↔ r = s) ∧
    (∀ r s : Reply, r.encode = s.encode ↔ r = s) ∧
    ∀ (p : Params) (entries : List (String × Json)),
      ((p.insertAll entries).fields.map fun m => Utf8.bytes m.1).Pairwise (· < ·) ∧
      (∀ key v, (key, v) ∈ (p.insertAll entries).fields ↔ p.left entries key = some v) ∧
      ∀ (q : Params) (entries' : List (String × Json)),
        (p.insertAll entries = q.insertAll entries' ↔
          ∀ key, p.left entries key = q.left entries' key) ∧
        (∀ command, Request.encode ⟨command, p.insertAll entries⟩ =
            Request.encode ⟨command, q.insertAll entries'⟩ ↔
          ∀ key, p.left entries key = q.left entries' key) ∧
        ∀ status message, Reply.encode ⟨status, message, p.insertAll entries⟩ =
            Reply.encode ⟨status, message, q.insertAll entries'⟩ ↔
          ∀ key, p.left entries key = q.left entries' key := by
  refine ⟨fun r s => Request.encode_inj, fun r s => Reply.encode_inj, fun p entries =>
    ⟨Params.keys_ascending _, fun key v => ?_, fun q entries' => ⟨Params.insertAll_eq_iff, ?_, ?_⟩⟩⟩
  · rw [Params.mem_fields_iff, Params.get?_insertAll]
  · intro command
    rw [Request.encode_inj, Request.mk.injEq, eq_self, true_and, Params.insertAll_eq_iff]
  · intro status message
    rw [Reply.encode_inj, Reply.mk.injEq, eq_self, eq_self, true_and, true_and, Params.insertAll_eq_iff]

/-- What is overwritten and which key comes first leave no trace. -/
example : Params.empty.insertAll [("b", .null), ("a", .bool true), ("b", .array [])] =
    Params.empty.insertAll [("a", .bool true), ("b", .array [])] := by decide

end MessageBus
