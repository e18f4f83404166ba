import MessageBus.Proofs.Publisher.Order
import MessageBus.Proofs.Topic.Text
/-!
# The scope of a topic

`scope_is_first_levels`: the label under which a broadcast is counted is its topic written at two levels. The
scope is found by counting dots and the levels by cutting at them; `beforeDot_outcome` says all that the counting
does, and `topicScope_joined` what it does to parts with dots between them.
-/
namespace MessageBus.Telemetry
set_option autoImplicit false

/-! ## Up to a dot -/

theorem beforeDot_dot (n : Nat) (text : List Char) :
    beforeDot (n + 1) ('.' :: text) = '.' :: beforeDot n text := rfl

theorem beforeDot_cons {c : Char} (h : c ≠ '.') (n : Nat) (text : List Char) :
    beforeDot n (c :: text) = c :: beforeDot n text := by
  cases n <;> exact if_neg h

/-- A text with few dots is kept, any other ends in front of the dot that is one too many. -/
theorem beforeDot_outcome (n : Nat) (text : List Char) :
    text.count '.' ≤ n ∧ beforeDot n text = text ∨
      ∃ front rest, text = front ++ '.' :: rest ∧ front.count '.' = n ∧ beforeDot n text = front := by
  induction text generalizing n with
  | nil => exact .inl ⟨Nat.zero_le n, rfl⟩
  | cons c text ih =>
    by_cases hdot : c = '.'
    · subst hdot
      cases n with
      | zero => exact .inr ⟨[], text, rfl, rfl, rfl⟩
      | succ n =>
        rcases ih n with ⟨hfew, hkept⟩ | ⟨front, rest, rfl, hcount, hfront⟩
        · exact .inl ⟨by simpa using hfew, by rw [beforeDot_dot, hkept]⟩
        · exact .inr ⟨'.' :: front, rest, rfl, by simp [hcount], by rw [beforeDot_dot, hfront]⟩
    · rcases ih n with ⟨hfew, hkept⟩ | ⟨front, rest, rfl, hcount, hfront⟩
      · exact .inl ⟨by rwa [List.count_cons_of_ne hdot], by rw [beforeDot_cons hdot, hkept]⟩
      · exact .inr ⟨c :: front, rest, rfl, by rwa [List.count_cons_of_ne hdot],
          by rw [beforeDot_cons hdot, hfront]⟩

theorem beforeDot_of_count {n : Nat} {text : List Char} (h : text.count '.' ≤ n) : beforeDot n text = text := by
  rcases beforeDot_outcome n text with ⟨-, hkept⟩ | ⟨front, rest, rfl, hcount, -⟩
  · exact hkept
  · rw [List.count_append, List.count_cons_self] at h
    omega

theorem beforeDot_append {n : Nat} {front : List Char} (h : front.count '.' = n) (rest : List Char) :
    beforeDot n (front ++ '.' :: rest) = front := by
  induction front generalizing n with
  | nil =>
    subst h
    rfl
  | cons c front ih =>
    by_cases hdot : c = '.'
    · subst hdot
      rw [List.count_cons_self] at h
      subst h
      exact congrArg ('.' :: ·) (ih rfl)
    · rw [List.count_cons_of_ne hdot] at h
      rw [List.cons_append, beforeDot_cons hdot, ih h]

/-! ## Scopes of texts -/

theorem toList_topicScope (text : String) : (topicScope text).toList = beforeDot 1 text.toList :=
  String.toList_ofList

theorem front_topicScope (text : String) : (topicScope text).toList <+: text.toList := by
  rw [toList_topicScope]
  rcases beforeDot_outcome 1 text.toList with ⟨-, hkept⟩ | ⟨front, rest, htext, -, hfront⟩
  · rw [hkept]
  · rw [hfront, htext]
    exact List.prefix_append _ _

theorem count_topicScope_le (text : String) : (topicScope text).toList.count '.' ≤ 1 := by
  rw [toList_topicScope]
  rcases beforeDot_outcome 1 text.toList with ⟨hfew, hkept⟩ | ⟨front, rest, -, hcount, hfront⟩
  · rwa [hkept]
  · rw [hfront, hcount]

theorem topicScope_eq_self_iff {text : String} : topicScope text = text ↔ text.toList.count '.' ≤ 1 := by
  constructor
  · intro h
    rw [← h]
    exact count_topicScope_le text
  · intro h
    rw [← String.toList_inj, toList_topicScope, beforeDot_of_count h]

/-- A scope ends only where its text does, or in front of the second dot. -/
theorem topicScope_longest {text : String} {rest : List Char}
    (h : text.toList = (topicScope text).toList ++ rest) :
    rest = [] ∨ (topicScope text).toList.count '.' = 1 ∧ rest.head? = some '.' := by
  rw [toList_topicScope] at h ⊢
  rcases beforeDot_outcome 1 text.toList with ⟨-, hkept⟩ | ⟨front, more, htext, hcount, hfront⟩
  · rw [hkept] at h
    exact .inl (List.self_eq_append_right.mp h)
  · rw [hfront] at h ⊢
    rw [htext] at h
    rw [← List.append_cancel_left h]
    exact .inr ⟨hcount, rfl⟩

/-! ## Scopes of topics -/

/-- The scope of parts with dots between them is the first two of them. -/
theorem topicScope_joined {first second : String} (hfirst : '.' ∉ first.toList) (hsecond : '.' ∉ second.toList)
    (more : List String) : topicScope (Topic.joined (first :: second :: more)) = Topic.joined [first, second] := by
  have hone : (first.toList ++ '.' :: second.toList).count '.' = 1 := by
    rw [List.count_append, List.count_cons_self, List.count_eq_zero.mpr hfirst, List.count_eq_zero.mpr hsecond]
  rw [← String.toList_inj, toList_topicScope, Topic.toList_joined, Topic.toList_joined]
  cases more with
  | nil =>
    refine beforeDot_of_count ?_
    simp [List.intercalate_cons_cons, hone]
  | cons third more =>
    have hcut := beforeDot_append hone (['.'].intercalate ((third :: more).map String.toList))
    simpa [List.intercalate_cons_cons] using hcut

theorem topicScope_of_parse {text : String} {t : Topic} (h : Topic.parse text = .ok t) :
    topicScope text = t.renderLevel 2 := by
  obtain ⟨parts, hparts⟩ := Topic.exists_parts text
  obtain ⟨htwo, -, hfields⟩ := (Topic.parse_eq_ok_iff hparts).mp h
  obtain ⟨first, second, more, rfl⟩ : ∃ first second more, parts = first :: second :: more := by
    match parts, htwo with
    | first :: second :: more, _ => exact ⟨first, second, more, rfl⟩
  have htake : t.fields.take 2 = [first, second] := by rw [hfields]; rfl
  have hwritten : t.renderLevel 2 = Topic.joined (t.fields.take 2) := if_neg (by decide)
  rw [hwritten, htake, ← hparts.joins]
  exact topicScope_joined (hparts.dotFree first (by simp)) (hparts.dotFree second (by simp)) more

section Rooted
variable {t : Topic} (horganization : t.organization ≠ "") (hproject : t.project ≠ "")
include horganization hproject

theorem two_le_level : 2 ≤ t.level := by
  have hfront : t.level = [t.organization, t.project].countP (fun f => f ≠ "") +
      (t.fields.drop 2).countP (fun f => f ≠ "") := by rw [← List.countP_append]; rfl
  have hboth : [t.organization, t.project].countP (fun f => f ≠ "") = 2 := by simp [horganization, hproject]
  omega

/-- A topic with organization and project, and whatever gaps behind them. -/
theorem topicScope_render (hfree : '.' ∉ t.organization.toList) (hfree' : '.' ∉ t.project.toList) :
    topicScope t.render = t.organization ++ "." ++ t.project := by
  have htwo := two_le_level horganization hproject
  have hsix := t.level_le
  have hwritten : t.render = Topic.joined (t.fields.take t.level) := by
    refine if_neg ?_
    rw [Topic.maxLevel]
    omega
  have hfront : t.fields.take t.level =
      t.organization :: t.project :: (t.fields.drop 2).take (t.level - 2) := by
    conv_lhs => rw [← Nat.add_sub_cancel' htwo, List.take_add]
    rfl
  rw [hwritten, hfront, topicScope_joined hfree hfree', ← String.toList_inj, Topic.toList_joined]
  simp [List.intercalate_cons_cons]

end Rooted

/-- A scope is the topic that was read from a text, written at two levels, whatever of it is empty. The scope
of any text is its longest front with at most one dot, so it is all of the text just if that has no more, and has
itself as its scope. What is queued for a topic with organization and project, neither of which has a dot, is
counted under these two when it is written. -/
theorem scope_is_first_levels :
    (∀ text t, Topic.parse text = .ok t → topicScope text = t.renderLevel 2) ∧
    (∀ text : String, (topicScope text).toList <+: text.toList ∧ (topicScope text).toList.count '.' ≤ 1 ∧
      (∀ rest, text.toList = (topicScope text).toList ++ rest →
        rest = [] ∨ (topicScope text).toList.count '.' = 1 ∧ rest.head? = some '.') ∧
      (topicScope text = text ↔ text.toList.count '.' ≤ 1) ∧ topicScope (topicScope text) = topicScope text) ∧
    ∀ t : Topic, t.organization ≠ "" → t.project ≠ "" →
      '.' ∉ t.organization.toList → '.' ∉ t.project.toList →
      ∀ (p p' : Publisher) book reply n, p.publishMatching book t reply = some (.ok (p', n)) →
        n = 0 ∧ p' = p ∨ ∃ b : Broadcast, p'.queue = p.queue ++ [b] ∧ b.topic = t.render ∧ b.reply = reply ∧
          ∀ (q q' : Publisher) fired metrics, q.phase = .writing b →
            q.step fired .written = some (q', metrics) →
              metrics.filterMap Metric.sample? = [publishedSample (t.organization ++ "." ++ t.project)] := by
  refine ⟨fun text t => topicScope_of_parse, fun text => ⟨front_topicScope text, count_topicScope_le text,
    fun rest => topicScope_longest, topicScope_eq_self_iff,
    topicScope_eq_self_iff.mpr (count_topicScope_le text)⟩, ?_⟩
  intro t horganization hproject hfree hfree' p p' book reply n h
  obtain ⟨-, hnobody | ⟨-, b, hmade, -, rfl⟩⟩ := Publisher.publishMatching_ok h
  · exact .inl hnobody
  · obtain ⟨htopic, hreply⟩ := Outlet.Broadcast.make_ok hmade
    refine .inr ⟨b, rfl, htopic, hreply, fun q q' fired metrics hwriting hstep => ?_⟩
    cases Publisher.step_move hstep with
    | @written c hwriting' =>
      cases hwriting.symm.trans hwriting'
      have hscope := topicScope_render horganization hproject hfree hfree'
      simp [Metric.sample?, publishedSample, htopic, hscope]

/-- A topic with a gap, and a dot behind it. -/
def gapped : Topic := ⟨"acme", "dome", "", "erc.20", "", ""⟩

theorem scope_is_first_levels_gapped :
    Topic.parse "a..c." = .ok ⟨"a", "", "c", "", "", ""⟩ ∧ topicScope "a..c." = "a." ∧
    ∃ p' : Publisher,
      (Publisher.new 1).publishMatching Outlet.readers gapped (.ok .empty) = some (.ok (p', 1)) ∧
      ∃ b : Broadcast, p'.queue = [b] ∧ b.topic = "acme.dome." ∧
        ∀ (q q' : Publisher) fired metrics, q.phase = .writing b → q.step fired .written = some (q', metrics) →
          metrics.filterMap Metric.sample? = [publishedSample "acme.dome"] := by
  obtain ⟨hparsed, -, hcounted⟩ := scope_is_first_levels
  have hread : Topic.parse "a..c." = .ok ⟨"a", "", "c", "", "", ""⟩ := rfl
  have hqueued : (Publisher.new 1).publishMatching Outlet.readers gapped (.ok .empty) =
      some (.ok ({ Publisher.new 1 with queue := [⟨"acme.dome.", .ok .empty, by decide⟩] }, 1)) := rfl
  refine ⟨hread, hparsed _ _ hread, _, hqueued, ?_⟩
  rcases hcounted gapped (by decide) (by decide) (by decide) (by decide) _ _ _ _ _ hqueued with
    ⟨hnobody, -⟩ | ⟨b, hqueue, htopic, -, hlabel⟩
  · cases hnobody
  · exact ⟨b, hqueue, htopic, hlabel⟩

end MessageBus.Telemetry
