import MessageBus.Proofs.Envelope.Encoding
import MessageBus.Proofs.Envelope.RoundTrip
import MessageBus.Proofs.Text.Parting
/-!
# Rendered broadcasts

`rendered_line_read_back`: the line of a broadcast is parted at its last tab into the topic and the reply's
encoding, so no two broadcasts have the same line. That rests on `Json.control_free`: the text of a value has no
control character, since each token escapes its own. A topic stands in the line as it is, with whatever tabs and
line breaks it has.
-/
namespace MessageBus
set_option autoImplicit false

/-! ## Texts without control characters -/

namespace Json

theorem hexChar_control_free : ∀ n < 16, 0x20 ≤ (hexChar n).toNat := by decide

theorem shortEscape?_control_free {c letter : Char} (h : shortEscape? c = some letter) :
    0x20 ≤ letter.toNat := by
  unfold shortEscape? at h
  split at h <;> cases h <;> decide

theorem escapedChar_control_free {c d : Char} (h : d ∈ escapedChar c) : 0x20 ≤ d.toNat := by
  unfold escapedChar at h
  split at h
  · next letter hletter =>
    rcases List.mem_pair.mp h with rfl | rfl
    · decide
    · exact shortEscape?_control_free hletter
  · split at h
    · next hlow =>
      have hhigh := hexChar_control_free (c.toNat / 16) (by omega)
      have hlast := hexChar_control_free (c.toNat % 16) (by omega)
      simp only [List.mem_cons, List.not_mem_nil, or_false] at h
      rcases h with rfl | rfl | rfl | rfl | rfl | rfl
      · decide
      · decide
      · decide
      · decide
      · exact hhigh
      · exact hlast
    · next hlow =>
      rw [List.mem_singleton.mp h]
      exact Nat.le_of_not_lt hlow

theorem stringText_control_free {s : String} {c : Char} (h : c ∈ stringText s) : 0x20 ≤ c.toNat := by
  rw [stringText, List.cons_append, List.mem_cons, List.mem_append, List.mem_singleton] at h
  rcases h with rfl | h | rfl
  · decide
  · obtain ⟨d, -, hc⟩ := List.mem_flatMap.mp h
    exact escapedChar_control_free hc
  · decide

theorem Number.control_free {n : Number} {c : Char} (h : c ∈ n.text) : 0x20 ≤ c.toNat := by
  have hdigits : ∀ digits : List Digit, c ∈ digits.map Digit.char → 0x20 ≤ c.toNat := by
    intro digits hc
    obtain ⟨d, -, rfl⟩ := List.mem_map.mp hc
    have hall : ∀ d : Digit, 0x20 ≤ d.char.toNat := by decide
    exact hall d
  simp only [Number.text, List.mem_append] at h
  rcases h with ((hsign | hwhole) | hfraction) | hexponent
  · split at hsign
    · rw [List.mem_singleton.mp hsign]
      decide
    · cases hsign
  · exact hdigits _ hwhole
  · unfold fractionText at hfraction
    split at hfraction
    · cases hfraction
    · rcases List.mem_cons.mp hfraction with rfl | hc
      · decide
      · exact hdigits _ hc
  · unfold exponentText at hexponent
    split at hexponent
    · cases hexponent
    · next e =>
      rcases List.mem_cons.mp hexponent with rfl | hc
      · decide
      · rcases List.mem_cons.mp hc with rfl | hc
        · split <;> decide
        · exact hdigits _ hc

theorem control_free_of_all {cs : List Char} (hall : cs.all (0x20 ≤ ·.toNat) = true) {c : Char} (h : c ∈ cs) :
    0x20 ≤ c.toNat := by
  simpa using List.all_eq_true.mp hall c h

theorem Token.control_free {t : Token} {c : Char} (h : c ∈ t.text) : 0x20 ≤ c.toNat := by
  cases t with
  | number n => exact Number.control_free h
  | string s => exact stringText_control_free h
  | bool b => cases b <;> exact control_free_of_all (by decide) h
  | _ => exact control_free_of_all (by decide) h

/-- The compact text of a value has no control character, whatever its keys and strings have. -/
theorem control_free {v : Json} {c : Char} (h : c ∈ v.text) : 0x20 ≤ c.toNat := by
  obtain ⟨t, -, hc⟩ := List.mem_flatMap.mp h
  exact t.control_free hc

end Json

/-! ## Lines -/

/-- What a text has before and behind its last tab. -/
structure LastTab (text front back : String) : Prop where
  parts : text.toList = front.toList ++ '\t' :: back.toList
  tabFree : '\t' ∉ back.toList

namespace Broadcast

/-- The reply as a line has it. -/
def replyText (b : Broadcast) : String := String.ofList b.reply.toJson.text

theorem bytes_replyText (b : Broadcast) : Utf8.bytes b.replyText = b.reply.encode := by
  rw [Utf8.bytes, replyText, String.toList_ofList, Reply.encode, Json.bytes]

theorem toList_render (b : Broadcast) : b.render.toList = b.topic.toList ++ '\t' :: b.replyText.toList := by
  rw [render, replyText, String.toList_ofList, String.toList_ofList]

theorem replyText_control_free {b : Broadcast} {c : Char} (h : c ∈ b.replyText.toList) : 0x20 ≤ c.toNat := by
  rw [replyText, String.toList_ofList] at h
  exact Json.control_free h

theorem lastTab_render (b : Broadcast) : LastTab b.render b.topic b.replyText :=
  ⟨b.toList_render, fun htab => absurd (replyText_control_free htab) (by decide)⟩

theorem parted_at_lastTab {b : Broadcast} {front back : String} (h : LastTab b.render front back) :
    front = b.topic ∧ back = b.replyText := by
  have hboth := append_mark_inj h.tabFree b.lastTab_render.tabFree (h.parts.symm.trans b.toList_render)
  exact ⟨String.toList_inj.mp hboth.1, String.toList_inj.mp hboth.2⟩

theorem render_inj {b c : Broadcast} (h : b.render = c.render) : b = c := by
  obtain ⟨htopic, htext⟩ := parted_at_lastTab (h ▸ b.lastTab_render)
  have hreply : b.reply = c.reply := by
    rw [← Reply.encode_inj, ← bytes_replyText, ← bytes_replyText, htext]
  cases b
  cases c
  cases htopic
  cases hreply
  rfl

/-- A control character of a line is one of the topic's, or the tab behind the topic. -/
theorem control_in_topic {b : Broadcast} {i : Nat} {c : Char} (hc : b.render.toList[i]? = some c)
    (hlow : c.toNat < 0x20) :
    i < b.topic.toList.length ∧ b.topic.toList[i]? = some c ∨ i = b.topic.toList.length ∧ c = '\t' := by
  rw [toList_render] at hc
  rcases Nat.lt_trichotomy i b.topic.toList.length with hlt | rfl | hgt
  · rw [List.getElem?_append_left hlt] at hc
    exact .inl ⟨hlt, hc⟩
  · rw [List.getElem?_append_right (Nat.le_refl _), Nat.sub_self, List.getElem?_cons_zero] at hc
    exact .inr ⟨rfl, (Option.some.inj hc).symm⟩
  · rw [List.getElem?_append_right (Nat.le_of_lt hgt), ← Nat.succ_pred_eq_of_pos (Nat.sub_pos_of_lt hgt),
      List.getElem?_cons_succ] at hc
    exact absurd (replyText_control_free (List.mem_of_getElem? hc)) (Nat.not_le.mpr hlow)

theorem control_mem_render_iff {b : Broadcast} {c : Char} (hlow : c.toNat < 0x20) (htab : c ≠ '\t') :
    c ∈ b.render.toList ↔ c ∈ b.topic.toList := by
  constructor
  · intro h
    obtain ⟨i, hi⟩ := List.mem_iff_getElem?.mp h
    rcases control_in_topic hi hlow with ⟨-, hc⟩ | ⟨-, hc⟩
    · exact List.mem_of_getElem? hc
    · exact absurd hc htab
  · intro h
    rw [toList_render]
    exact List.mem_append_left _ h

/-- A line is parted at its last tab, in one way: before it stands the topic, behind it the reply's encoding,
which with plain parameters is decoded to the reply just if these nest at most 126 containers. Different
broadcasts have different lines, and all control characters of a line but that tab are the topic's; so a line
has a line feed or a carriage return just if its topic has one. -/
theorem rendered_line_read_back (b : Broadcast) :
    (∃ back, LastTab b.render b.topic back) ∧
    (∀ front back, LastTab b.render front back →
      front = b.topic ∧ Utf8.bytes back = b.reply.encode ∧ Utf8.text b.reply.encode = .ok back ∧
      (b.reply.params.Plain →
        (Reply.decode (Utf8.bytes back) = .ok b.reply ↔ b.reply.params.depth ≤ 126))) ∧
    (∀ c : Broadcast, b.render = c.render ↔ b = c) ∧
    (∀ i c, b.render.toList[i]? = some c → c.toNat < 0x20 →
      i < b.topic.toList.length ∧ b.topic.toList[i]? = some c ∨ i = b.topic.toList.length ∧ c = '\t') ∧
    ('\n' ∉ b.render.toList ∧ '\r' ∉ b.render.toList ↔ '\n' ∉ b.topic.toList ∧ '\r' ∉ b.topic.toList) := by
  refine ⟨⟨_, b.lastTab_render⟩, fun front back h => ?_, fun c => ⟨render_inj, congrArg render⟩,
    fun i c => control_in_topic, ?_⟩
  · obtain ⟨rfl, rfl⟩ := parted_at_lastTab h
    have hbytes := b.bytes_replyText
    refine ⟨rfl, hbytes, hbytes ▸ Utf8.text_bytes _, fun hplain => ?_⟩
    rw [hbytes]
    exact (read_iff_of_depth (Reply.decode_encode hplain)).1
  · have hfeed := control_mem_render_iff (b := b) (c := '\n') (by decide) (by decide)
    have hreturn := control_mem_render_iff (b := b) (c := '\r') (by decide) (by decide)
    rw [hfeed, hreturn]

/-- A broadcast with tabs and line feeds in its topic and in its reply. -/
def tabbed : Broadcast := ⟨"a.b\tc\n", .fail "no\tsuch\nkey", by decide⟩

theorem rendered_line_read_back_tabbed :
    LastTab tabbed.render "a.b\tc\n"
      "\x7b\"status\":\"fail\",\"message\":\"no\\tsuch\\nkey\",\"params\":\x7b\x7d\x7d" ∧
    Reply.decode (Utf8.bytes
      "\x7b\"status\":\"fail\",\"message\":\"no\\tsuch\\nkey\",\"params\":\x7b\x7d\x7d") =
        .ok (.fail "no\tsuch\nkey") ∧
    tabbed.render.toList[5]? = some '\n' ∧ tabbed.topic.toList[5]? = some '\n' := by
  obtain ⟨-, hparted, -, hcontrol, -⟩ := rendered_line_read_back tabbed
  have hlast : LastTab tabbed.render "a.b\tc\n"
      "\x7b\"status\":\"fail\",\"message\":\"no\\tsuch\\nkey\",\"params\":\x7b\x7d\x7d" :=
    ⟨by decide, by decide⟩
  have hfeed : tabbed.render.toList[5]? = some '\n' := by decide
  refine ⟨hlast, ((hparted _ _ hlast).2.2.2 (by decide)).mpr (by decide), hfeed, ?_⟩
  rcases hcontrol 5 '\n' hfeed (by decide) with ⟨-, hc⟩ | ⟨-, hc⟩
  · exact hc
  · exact absurd hc (by decide)

/-- A reply that came with the reserved key behind another one. -/
def reordered : Broadcast :=
  ⟨"a.b", .ok (.ofMembers [("a", .number (.ofNat 1)), (Json.numberKey, .string "5")]), by decide⟩

/-- A broadcast is decoded whose line is not: its parameters were sorted, and now start with the reserved
key. -/
theorem reordered_line_refused :
    Broadcast.decode (Utf8.bytes
      "a.b\x7b\"status\":\"ok\",\"params\":\x7b\"a\":1,\"$serde_json::private::Number\":\"5\"\x7d\x7d") =
        .ok reordered ∧
    LastTab reordered.render "a.b"
      "\x7b\"status\":\"ok\",\"message\":\"\",\"params\":\x7b\"$serde_json::private::Number\":\"5\",\"a\":1\x7d\x7d" ∧
    reordered.reply.params.depth ≤ 126 ∧
    Reply.decode (Utf8.bytes
      "\x7b\"status\":\"ok\",\"message\":\"\",\"params\":\x7b\"$serde_json::private::Number\":\"5\",\"a\":1\x7d\x7d") =
        .error (.malformed .trailingComma) :=
  ⟨by decide +kernel, ⟨by decide +kernel, by decide +kernel⟩, by decide, by decide +kernel⟩

end Broadcast
end MessageBus
