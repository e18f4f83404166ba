import MessageBus.Command.Job
import MessageBus.Proofs.Envelope.RoundTrip
import MessageBus.Proofs.Json.Accepting
import MessageBus.Proofs.Json.Paths
/-!
# Parameters on the command line

`accepted_params_sent`: parameters are accepted from a text up to the depth that a text may have, which is
one more than they may have inside a request. So whatever plain parameters are accepted can be sent, but for
those of just that depth: their request is refused by whoever decodes it.
-/
namespace MessageBus.Command
set_option autoImplicit false

theorem readParams_eq_ok_iff {text : String} {p : Params} :
    readParams text = .ok p ↔
      ∃ members, Json.Writes (Utf8.bytes text) (.object members) ∧ p = .ofMembers members := by
  constructor
  · intro h
    unfold readParams at h
    split at h
    · next members hparse =>
      cases h
      exact ⟨members, Json.parse_eq_ok_iff.mp hparse, rfl⟩
    · cases h
    · cases h
  · rintro ⟨members, hwrites, rfl⟩
    have hparse : Json.parseText text = .ok (.object members) := Json.parse_eq_ok_iff.mpr hwrites
    rw [readParams, hparse]

theorem depth_of_readParams {text : String} {p : Params} (h : readParams text = .ok p) : p.depth ≤ 127 := by
  obtain ⟨members, hwrites, rfl⟩ := readParams_eq_ok_iff.mp h
  exact Nat.le_trans (Json.depth_canonical (.object members)) hwrites.depth_le

/-- Plain parameters are accepted from their own text. -/
theorem readParams_text {p : Params} (hp : p.Plain) (h : p.depth ≤ 127) :
    readParams (String.ofList p.toJson.text) = .ok p := by
  have hbytes : Utf8.bytes (String.ofList p.toJson.text) = p.toJson.bytes := by
    rw [Utf8.bytes, String.toList_ofList, Json.bytes]
  have hparse : Json.parseText (String.ofList p.toJson.text) = .ok (.object p.fields) := by
    rw [Json.parseText, hbytes, Json.parse_bytes hp]
    exact if_pos h
  rw [readParams, hparse]
  exact congrArg Except.ok p.ofMembers_fields

/-- The request of a call is that of the arguments. -/
theorem request_of_job {address service command text : String} {config : BusConfig} {client : Client}
    {request : Request}
    (h : (Action.request service command text).job address config = .ok (.call client request)) :
    request.command = command ∧ readParams text = .ok request.params := by
  unfold Action.job at h
  cases hparams : readParams text with
  | error e => simp [hparams, bind, Except.bind] at h
  | ok params =>
    simp only [hparams, bind, Except.bind] at h
    split at h
    · cases h
    · split at h
      · cases h
      · cases h
        exact ⟨rfl, rfl⟩

/-- Only parameters of depth 127 and less are accepted from some text, and of the plain ones all of these. The
request of accepted plain parameters is decoded as it was if they nest at most 126 containers, and is refused
for its depth if they nest one more; and what a call on the command line sends is the request of the
parameters accepted. -/
theorem accepted_params_sent :
    (∀ text p, readParams text = .ok p → p.depth ≤ 127) ∧
    (∀ p : Params, p.Plain → ((∃ text, readParams text = .ok p) ↔ p.depth ≤ 127)) ∧
    (∀ command text p, readParams text = .ok p → p.Plain →
      (Request.decode (Request.encode ⟨command, p⟩) = .ok ⟨command, p⟩ ↔ p.depth ≤ 126) ∧
      (Request.decode (Request.encode ⟨command, p⟩) = .error (.malformed .tooDeep) ↔ p.depth = 127)) ∧
    ∀ address config service command text client request,
      (Action.request service command text).job address config = .ok (.call client request) →
        request.command = command ∧ readParams text = .ok request.params := by
  refine ⟨fun _ _ => depth_of_readParams, fun p hp => ⟨?_, fun h => ⟨_, readParams_text hp h⟩⟩,
    fun command text p h hp => ?_, fun _ _ _ _ _ _ _ h => request_of_job h⟩
  · rintro ⟨text, h⟩
    exact depth_of_readParams h
  · have hdepth := depth_of_readParams h
    have hdecode := read_iff_of_depth (Request.decode_encode (r := ⟨command, p⟩) hp)
    refine ⟨hdecode.1, hdecode.2.trans ?_⟩
    change 126 < p.depth ↔ p.depth = 127
    omega

/-! ## The deepest parameters -/

/-- Parameters that nest `n + 2` containers. -/
def deepParams (n : Nat) : Params := Params.empty.insert "a" (Json.nested n)

theorem fields_deepParams (n : Nat) : (deepParams n).fields = [("a", Json.nested n)] :=
  congrArg (fun v => [("a", v)]) (Json.canonical_nested n)

theorem depth_deepParams (n : Nat) : (deepParams n).depth = n + 2 := by
  rw [Params.depth, Params.toJson, fields_deepParams, Json.depth, Json.depthMembers, Json.depthMembers,
    Json.depth_nested, Nat.max_zero]

theorem text_nested (n : Nat) :
    (Json.nested n).text = List.replicate (n + 1) '[' ++ List.replicate (n + 1) ']' := by
  induction n with
  | zero => rfl
  | succ n ih =>
    have hshell : (Json.nested (n + 1)).text = '[' :: ((Json.nested n).text ++ [']']) := by
      simp [Json.nested, Json.text, Json.tokens, Json.itemTokens, Json.moreItemTokens, Json.Token.text]
    rw [hshell, ih, List.append_assoc, ← List.replicate_succ']
    rfl

theorem text_deepParams (n : Nat) : (deepParams n).toJson.text =
    '\x7b' :: '"' :: 'a' :: '"' :: ':' ::
      (List.replicate (n + 1) '[' ++ List.replicate (n + 1) ']' ++ ['\x7d']) := by
  have hshell : (deepParams n).toJson.text =
      '\x7b' :: '"' :: 'a' :: '"' :: ':' :: ((Json.nested n).text ++ ['\x7d']) := by
    have hkey : Json.stringText "a" = ['"', 'a', '"'] := rfl
    rw [Params.toJson, fields_deepParams]
    simp [Json.text, Json.tokens, Json.memberTokens, Json.moreMemberTokens, Json.Token.text, hkey]
  rw [hshell, text_nested]

theorem plain_deepParams (n : Nat) : (deepParams n).Plain := by
  have hnested : (Json.nested n).Plain := by
    induction n with
    | zero => exact List.forall_mem_nil _
    | succ n ih => exact Json.plain_array.mpr (List.forall_mem_singleton.mpr ih)
  refine Params.plain_insert Params.carried_empty.plain (by decide) ?_
  rwa [Json.canonical_nested]

/-- Parameters with the depth that a text may have, and with one container less. -/
theorem accepted_params_sent_deepest :
    (∃ text, readParams text = .ok (deepParams 124) ∧
      Request.decode (Request.encode ⟨"height", deepParams 124⟩) = .ok ⟨"height", deepParams 124⟩) ∧
    ∃ text, readParams text = .ok (deepParams 125) ∧
      Request.decode (Request.encode ⟨"height", deepParams 125⟩) = .error (.malformed .tooDeep) := by
  obtain ⟨-, haccepted, hsent, -⟩ := accepted_params_sent
  obtain ⟨text, hread⟩ := (haccepted _ (plain_deepParams 124)).mpr (by simp [depth_deepParams])
  obtain ⟨text', hread'⟩ := (haccepted _ (plain_deepParams 125)).mpr (by simp [depth_deepParams])
  have hback := hsent "height" text _ hread (plain_deepParams 124)
  have hback' := hsent "height" text' _ hread' (plain_deepParams 125)
  exact ⟨⟨text, hread, hback.1.mpr (by simp [depth_deepParams])⟩,
    text', hread', hback'.2.mpr (depth_deepParams 125)⟩

/-- The text of an object that nests 127 containers is accepted, and the request of its parameters is not
decoded. -/
theorem deepest_params_refused :
    readParams (String.ofList ('\x7b' :: '"' :: 'a' :: '"' :: ':' ::
        (List.replicate 126 '[' ++ List.replicate 126 ']' ++ ['\x7d']))) = .ok (deepParams 125) ∧
      Request.decode (Request.encode ⟨"height", deepParams 125⟩) ≠ .ok ⟨"height", deepParams 125⟩ := by
  constructor
  · rw [← text_deepParams 125]
    exact readParams_text (plain_deepParams 125) (Nat.le_of_eq (depth_deepParams 125))
  · rw [Request.decode_encode (plain_deepParams 125), if_neg (by simp [depth_deepParams])]
    exact nofun

end MessageBus.Command
