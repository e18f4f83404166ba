import MessageBus.Proofs.Text.Parting
import MessageBus.Topic.Basic
/-!
# Dotted text

`text_round_trip`: which topics are read back from their text, which texts from their topic. A text has one list
of parts (`Parts`), and `parse_eq_ok_iff` says what is read from it: the parts in order, with the levels after
them empty. All else follows from that, since a topic is written as the parts that its first fields are.
-/
namespace MessageBus.Topic
set_option autoImplicit false

/-! ## Parts of a text -/

/-- What a text has before, between and after its dots. -/
structure Parts (text : String) (parts : List String) : Prop where
  dotFree : ∀ p ∈ parts, '.' ∉ p.toList
  nonempty : parts ≠ []
  joins : joined parts = text

theorem segments_eq_splitOn (text : List Char) : segments text = text.splitOn '.' := by
  induction text with
  | nil => rfl
  | cons c rest ih =>
    obtain ⟨first, more, hparts⟩ := List.exists_cons_of_ne_nil (List.splitOn_ne_nil '.' rest)
    rw [segments, splitOn_cons, ih, hparts]
    rfl

section Parts
variable {text : String} {parts parts' : List String}

theorem toList_joined (parts : List String) :
    (joined parts).toList = ['.'].intercalate (parts.map String.toList) := String.toList_ofList

theorem Parts.segments (h : Parts text parts) : Topic.segments text.toList = parts.map String.toList := by
  have hfree : ∀ p ∈ parts.map String.toList, '.' ∉ p := by
    intro p hp
    obtain ⟨part, hpart, rfl⟩ := List.mem_map.mp hp
    exact h.dotFree part hpart
  have hne : parts.map String.toList ≠ [] := by simpa using h.nonempty
  rw [segments_eq_splitOn, ← h.joins, toList_joined, List.splitOn_intercalate '.' hfree hne]

theorem Parts.unique (h : Parts text parts) (h' : Parts text parts') : parts = parts' := by
  have hboth : parts.map String.toList = parts'.map String.toList := by rw [← h.segments, ← h'.segments]
  exact (List.map_inj_right fun _ _ => String.toList_inj.mp).mp hboth

theorem exists_parts (text : String) : ∃ parts, Parts text parts := by
  refine ⟨(text.toList.splitOn '.').map String.ofList, ?_, by simp, ?_⟩
  · intro p hp
    obtain ⟨part, hpart, rfl⟩ := List.mem_map.mp hp
    rw [String.toList_ofList]
    exact not_mem_of_mem_splitOn hpart
  · rw [← String.toList_inj, toList_joined, List.map_map]
    simp [Function.comp_def, List.intercalate_splitOn]

theorem Parts.length (h : Parts text parts) : parts.length = text.toList.count '.' + 1 := by
  rw [← length_splitOn, ← segments_eq_splitOn, h.segments, List.length_map]

end Parts

/-! ## Six fields -/

theorem length_fields (t : Topic) : t.fields.length = 6 := rfl

theorem eq_of_fields {t u : Topic} (h : t.fields = u.fields) : t = u := by
  cases t
  cases u
  simpa [fields] using h

theorem fields_ofSegments {parts : List String} (h : parts.length ≤ 6) :
    (ofSegments (parts.map String.toList)).fields = parts ++ List.replicate (6 - parts.length) "" := by
  have hfields : (ofSegments (parts.map String.toList)).fields =
      (List.range 6).map fun i => String.ofList ((parts.map String.toList).getD i []) := rfl
  rw [hfields]
  refine List.ext_getElem (by simp; omega) fun i _ _ => ?_
  rw [List.getElem_map, List.getElem_range, List.getD_eq_getElem?_getD, List.getElem?_map]
  by_cases hlt : i < parts.length
  · simp [List.getElem_append_left, hlt]
  · rw [List.getElem_append_right (by omega), List.getElem_replicate]
    simp [hlt]

/-- Empty fields behind others do not count. -/
theorem level_eq_countP {t : Topic} {front : List String} {n : Nat}
    (h : t.fields = front ++ List.replicate n "") : t.level = front.countP fun f => f ≠ "" := by
  rw [level, h, List.countP_append, List.countP_replicate]
  simp

theorem level_eq_length {t : Topic} {front : List String} {n : Nat} (hfilled : "" ∉ front)
    (h : t.fields = front ++ List.replicate n "") : t.level = front.length := by
  rw [level_eq_countP h, List.countP_eq_length]
  intro f hf
  have hne : f ≠ "" := fun heq => hfilled (heq ▸ hf)
  simpa using hne

theorem level_le (t : Topic) : t.level ≤ 6 := List.countP_le_length

/-! ## Reading and writing -/

section Reading
variable {text : String} {parts : List String} {t : Topic}

theorem parse_of_parts (h : Parts text parts) : parse text =
    if parts.length < 2 then .error (.tooShort parts.length)
    else if 6 < parts.length then .error (.tooLong parts.length)
    else .ok (ofSegments (parts.map String.toList)) := by
  simp only [parse, h.segments, List.length_map, minSegments, maxLevel]

theorem parse_eq_ok_iff (h : Parts text parts) : parse text = .ok t ↔
    2 ≤ parts.length ∧ parts.length ≤ 6 ∧ t.fields = parts ++ List.replicate (6 - parts.length) "" := by
  rw [parse_of_parts h]
  by_cases hshort : parts.length < 2
  · simp [hshort, Nat.not_le.mpr hshort]
  by_cases hlong : 6 < parts.length
  · simp [hshort, hlong, Nat.not_le.mpr hlong]
  rw [if_neg hshort, if_neg hlong, Except.ok.injEq]
  have hfields := fields_ofSegments (Nat.not_lt.mp hlong)
  constructor
  · rintro rfl
    exact ⟨Nat.not_lt.mp hshort, Nat.not_lt.mp hlong, hfields⟩
  · rintro ⟨-, -, ht⟩
    exact eq_of_fields (hfields.trans ht.symm)

theorem parts_renderLevel {k : Nat} (hk : 1 ≤ k) (hk' : k ≤ 6)
    (hfree : ∀ f ∈ t.fields.take k, '.' ∉ f.toList) : Parts (t.renderLevel k) (t.fields.take k) := by
  refine ⟨hfree, fun hnil => ?_, ?_⟩
  · have hlength := congrArg List.length hnil
    rw [List.length_take, length_fields, List.length_nil] at hlength
    omega
  · have hwritten : ¬(k = 0 ∨ maxLevel < k) := by
      rw [maxLevel]
      omega
    rw [renderLevel, if_neg hwritten]

/-- A topic is written in as many parts as it has populated levels, and in one part if it has none. -/
theorem exists_parts_render (hfree : ∀ f ∈ t.fields, '.' ∉ f.toList) :
    ∃ parts, Parts t.render parts ∧ parts.length = max 1 t.level := by
  rcases Nat.eq_zero_or_pos t.level with hzero | hpos
  · have hempty : t.render = joined [""] := by
      rw [render, hzero]
      rfl
    refine ⟨[""], ⟨by simp, by simp, hempty.symm⟩, by simp [hzero]⟩
  · have hsix := t.level_le
    refine ⟨_, parts_renderLevel hpos hsix fun f hf => hfree f (List.mem_of_mem_take hf), ?_⟩
    rw [List.length_take, length_fields]
    omega

theorem dotFree_of_parse (h : Parts text parts) (ht : parse text = .ok t) :
    ∀ f ∈ t.fields, '.' ∉ f.toList := by
  obtain ⟨-, -, hfields⟩ := (parse_eq_ok_iff h).mp ht
  intro f hf
  rw [hfields] at hf
  rcases List.mem_append.mp hf with hf | hf
  · exact h.dotFree f hf
  · rw [List.eq_of_mem_replicate hf]
    simp

/-- A text that was read has its parts as the first fields of the topic. -/
theorem renderLevel_of_parse (h : Parts text parts) (ht : parse text = .ok t) :
    t.renderLevel parts.length = text := by
  obtain ⟨htwo, hsix, hfields⟩ := (parse_eq_ok_iff h).mp ht
  have hfree := dotFree_of_parse h ht
  have hparts := parts_renderLevel (Nat.le_of_succ_le htwo) hsix fun f hf => hfree f (List.mem_of_mem_take hf)
  rw [← hparts.joins, hfields, List.take_left, h.joins]

theorem render_eq_iff (h : Parts text parts) (ht : parse text = .ok t) : t.render = text ↔ "" ∉ parts := by
  obtain ⟨htwo, hsix, hfields⟩ := (parse_eq_ok_iff h).mp ht
  constructor
  · intro hrender hmem
    -- With an empty part the topic is written in fewer parts than it was read from.
    have hfewer : t.level < parts.length := by
      rw [level_eq_countP hfields]
      refine Nat.lt_of_le_of_ne List.countP_le_length fun heq => ?_
      simpa using List.countP_eq_length.mp heq "" hmem
    obtain ⟨parts', h', hlength⟩ := exists_parts_render (dotFree_of_parse h ht)
    rw [hrender] at h'
    rw [h'.unique h] at hlength
    omega
  · intro hfilled
    rw [render, level_eq_length hfilled hfields, renderLevel_of_parse h ht]

end Reading

/-! ## Round trips -/

/-- The populated levels come first. -/
def Contiguous (t : Topic) : Prop :=
  ∃ n, (∀ f ∈ t.fields.take n, f ≠ "") ∧ ∀ f ∈ t.fields.drop n, f = ""

theorem Contiguous.front {t : Topic} (h : t.Contiguous) :
    ∃ front, "" ∉ front ∧ t.fields = front ++ List.replicate (6 - front.length) "" := by
  obtain ⟨n, hfilled, hempty⟩ := h
  refine ⟨t.fields.take n, fun hmem => hfilled "" hmem rfl, ?_⟩
  have hrest : t.fields.drop n = List.replicate (6 - n) "" :=
    List.eq_replicate_iff.mpr ⟨by rw [List.length_drop, length_fields], hempty⟩
  have hlength : 6 - (t.fields.take n).length = 6 - n := by
    rw [List.length_take, length_fields]
    omega
  rw [hlength, ← hrest, List.take_append_drop]

/-- A topic is read back from its own text just if its text can tell it. -/
theorem parse_render_iff (t : Topic) : parse t.render = .ok t ↔
    (∀ f ∈ t.fields, '.' ∉ f.toList) ∧ t.Contiguous ∧ 2 ≤ t.fields.countP (fun f => f ≠ "") := by
  constructor
  · intro ht
    obtain ⟨parts, h⟩ := exists_parts t.render
    obtain ⟨hshort, -, hfields⟩ := (parse_eq_ok_iff h).mp ht
    have hfilled := (render_eq_iff h ht).mp rfl
    have hlevel : t.fields.countP (fun f => f ≠ "") = parts.length := level_eq_length hfilled hfields
    refine ⟨dotFree_of_parse h ht, ⟨parts.length, fun f hf => ?_, fun f hf => ?_⟩, by omega⟩
    · rw [hfields, List.take_left] at hf
      exact fun heq => hfilled (heq ▸ hf)
    · rw [hfields, List.drop_left] at hf
      exact List.eq_of_mem_replicate hf
  · rintro ⟨hfree, hcontiguous, htwo⟩
    obtain ⟨front, hfilled, hfields⟩ := hcontiguous.front
    have hlevel : t.level = front.length := level_eq_length hfilled hfields
    have hsix : front.length ≤ 6 := hlevel ▸ t.level_le
    have htake : t.fields.take t.level = front := by rw [hlevel, hfields, List.take_left]
    have hparts := parts_renderLevel (t := t) (k := t.level) (Nat.le_of_succ_le htwo) t.level_le
      fun f hf => hfree f (List.mem_of_mem_take hf)
    rw [htake] at hparts
    exact (parse_eq_ok_iff hparts).mpr ⟨hlevel ▸ htwo, hsix, hfields⟩

/-- What comes of a text: two to six parts are read, and what was read is written back part by part. -/
theorem parse_outcome {text : String} {parts : List String} (h : Parts text parts) :
    parts.length = text.toList.count '.' + 1 ∧
    ((∃ t, parse text = .ok t) ↔ 1 ≤ text.toList.count '.' ∧ text.toList.count '.' ≤ 5) ∧
    (text.toList.count '.' < 1 → parse text = .error (.tooShort parts.length)) ∧
    (5 < text.toList.count '.' → parse text = .error (.tooLong parts.length)) ∧
    ∀ t, parse text = .ok t → t.renderLevel parts.length = text ∧ (t.render = text ↔ "" ∉ parts) := by
  have hlength := h.length
  refine ⟨hlength, ?_, fun hshort => ?_, fun hlong => ?_,
    fun t ht => ⟨renderLevel_of_parse h ht, render_eq_iff h ht⟩⟩
  · constructor
    · rintro ⟨t, ht⟩
      obtain ⟨htwo, hsix, -⟩ := (parse_eq_ok_iff h).mp ht
      omega
    · rintro ⟨hone, hfive⟩
      refine ⟨_, (parse_eq_ok_iff h).mpr ⟨by omega, by omega, fields_ofSegments (by omega)⟩⟩
  · rw [parse_of_parts h, if_pos (by omega)]
  · rw [parse_of_parts h, if_neg (by omega), if_pos (by omega)]

theorem parse_renderLevel {t : Topic} {k : Nat} (hk : 2 ≤ k) (hk' : k ≤ 6)
    (hfree : ∀ f ∈ t.fields, '.' ∉ f.toList) :
    ∃ u, parse (t.renderLevel k) = .ok u ∧ u.fields = t.fields.take k ++ List.replicate (6 - k) "" := by
  have hparts := parts_renderLevel (Nat.le_of_succ_le hk) hk' fun f hf => hfree f (List.mem_of_mem_take hf)
  have hlength : (t.fields.take k).length = k := by
    rw [List.length_take, length_fields]
    omega
  have hsix : (t.fields.take k).length ≤ 6 := by omega
  have hfields := fields_ofSegments hsix
  have hread := (parse_eq_ok_iff hparts).mpr ⟨by omega, hsix, hfields⟩
  rw [hlength] at hfields
  exact ⟨_, hread, hfields⟩

/-- Topics and their texts. A topic is read back from its text just if no field has a dot, the populated
levels come first, and there are two at least. A text with one to five dots is read, any other refused with
the number of its parts; what was read is written back at as many levels, and by itself just if no part is
empty. A topic without dots, written at two to six levels, is read back with the levels after them empty. -/
theorem text_round_trip :
    (∀ t : Topic, parse t.render = .ok t ↔
      (∀ f ∈ t.fields, '.' ∉ f.toList) ∧ t.Contiguous ∧ 2 ≤ t.fields.countP (fun f => f ≠ "")) ∧
    (∀ text : String, (∃ parts, Parts text parts) ∧ ∀ parts, Parts text parts →
      parts.length = text.toList.count '.' + 1 ∧
      ((∃ t, parse text = .ok t) ↔ 1 ≤ text.toList.count '.' ∧ text.toList.count '.' ≤ 5) ∧
      (text.toList.count '.' < 1 → parse text = .error (.tooShort parts.length)) ∧
      (5 < text.toList.count '.' → parse text = .error (.tooLong parts.length)) ∧
      ∀ t, parse text = .ok t → t.renderLevel parts.length = text ∧ (t.render = text ↔ "" ∉ parts)) ∧
    ∀ t : Topic, (∀ f ∈ t.fields, '.' ∉ f.toList) → ∀ k, 2 ≤ k → k ≤ 6 →
      ∃ u, parse (t.renderLevel k) = .ok u ∧ u.fields = t.fields.take k ++ List.replicate (6 - k) "" := by
  refine ⟨parse_render_iff, fun text => ⟨exists_parts text, fun parts h => parse_outcome h⟩, ?_⟩
  intro t hfree k hk hk'
  exact parse_renderLevel hk hk' hfree

/-- A topic with gaps. -/
def gapped : Topic := ⟨"a", "", "c", "", "", "f"⟩

theorem text_round_trip_gapped :
    (∀ f ∈ gapped.fields, '.' ∉ f.toList) ∧ parse gapped.render ≠ .ok gapped ∧
      parse (gapped.renderLevel 4) = .ok ⟨"a", "", "c", "", "", ""⟩ ∧
      Parts "a..c." ["a", "", "c", ""] ∧ ∃ t, parse "a..c." = .ok t ∧ t.renderLevel 4 = "a..c." ∧
        t.render ≠ "a..c." := by
  have hfree : ∀ f ∈ gapped.fields, '.' ∉ f.toList := by decide
  have hparts : Parts "a..c." ["a", "", "c", ""] := ⟨by decide, by decide, by decide⟩
  obtain ⟨hbackward, htexts, hlevels⟩ := text_round_trip
  obtain ⟨u, hu, hfields⟩ := hlevels gapped hfree 4 (by decide) (by decide)
  have hcleared : u = ⟨"a", "", "c", "", "", ""⟩ := eq_of_fields hfields
  obtain ⟨-, hreads, -, -, hwritten⟩ := (htexts "a..c.").2 _ hparts
  obtain ⟨t, ht⟩ := hreads.mpr (by decide)
  refine ⟨hfree, fun hread => ?_, hcleared ▸ hu, hparts, t, ht, (hwritten t ht).1, fun hrender => ?_⟩
  · obtain ⟨-, hcontiguous, -⟩ := (hbackward gapped).mp hread
    obtain ⟨front, hfilled, hfields⟩ := hcontiguous.front
    have hlength : front.length = 3 := (level_eq_length hfilled hfields).symm
    have hfront : gapped.fields.take 3 = front := by rw [hfields, ← hlength, List.take_left]
    exact hfilled (hfront ▸ by decide)
  · exact (hwritten t ht).2.mp hrender (by decide)

end MessageBus.Topic
