import Mathlib.Data.List.Infix
import MessageBus.Proofs.Book.Service
import MessageBus.Proofs.Bus.Run
import MessageBus.Proofs.Session.Forwarding
import MessageBus.Proofs.Session.Sending
/-!
# From the publisher to a subscriber

`nothing_missed`: once the server has recorded the subscription of a session, the session's consumer gets all
that the publisher sends, in order, as long as its source does not fall too far behind. The session opens its
source before it subscribes, so that what is sent in between waits in the channel. `Delivered` ties what the
receiver got to what was published since then.
-/
namespace MessageBus
set_option autoImplicit false
open Telemetry (Metric)

/-! ## A session and its source -/

namespace Session

section Source
variable {plan : Plan} {trace : List Transition} {s s' : Session} {e : Event} {ms : List Metric}

/-- Whether the driver has no source yet. -/
def Driver.early : Driver → Bool
  | .starting | .connecting _ => true
  | _ => false

/-- Before it is connected a session has not been given anything. -/
theorem Run.early (h : Run plan trace s) (hd : s.driver.early = true) :
    given trace = [] ∧ ∀ t ∈ trace, t.event ≠ .driver .connected := by
  induction h with
  | none => exact ⟨rfl, fun _ ht => absurd ht List.not_mem_nil⟩
  | @step trace s s' e ms h hs ih =>
    have hm := step_move hs
    have hbefore : s.driver.early = true ∧ e ≠ .driver .connected ∧
        Transition.given? ⟨s, e, s', ms⟩ = none := by
      cases hm with
      | driver hm =>
        cases hm with
        | opens hstart => exact ⟨by rw [hstart]; rfl, nofun, rfl⟩
        | _ => cases hd
      | heartbeat hm => cases hm <;> exact ⟨hd, nofun, rfl⟩
      | receiver hm =>
        -- No receiver runs before the hand-over.
        have hfollowing : s.driver = .following := (Run.staged h).following hm.running
        have hkept : s'.driver = s.driver := by cases hm <;> rfl
        rw [hkept, hfollowing] at hd
        cases hd
      | consumer hm => cases hm <;> exact ⟨hd, nofun, rfl⟩
    obtain ⟨hearly, hevent, hg⟩ := hbefore
    obtain ⟨hgiven, hnone⟩ := ih hearly
    refine ⟨(given_none hg).trans hgiven, fun t ht => ?_⟩
    rcases List.mem_append.mp ht with ht | ht
    · exact hnone t ht
    · rw [List.mem_singleton.mp ht]
      exact hevent

theorem Run.target (h : Run plan trace s) {target : Endpoint} (hd : s.driver = .connecting target) :
    plan.endpoint.broadcast = .ok target := by
  induction h with
  | none => cases hd
  | @step trace s s' e ms h hs ih =>
    have hm := step_move hs
    have hplan : s.plan = plan := Run.plan_eq h
    cases hm with
    | driver hm =>
      cases hm with
      | opens _ ht =>
        cases hd
        rw [← hplan, ht]
      | _ => cases hd
    | heartbeat hm => cases hm <;> exact ih hd
    | receiver hm => cases hm <;> exact ih hd
    | consumer hm => cases hm <;> exact ih hd

/-- A session that holds a source has just been connected, or held it before. -/
theorem holdsSource_move (hm : Move s e s' ms) (he : e ≠ .driver .connected)
    (h : s'.holdsSource = true) : s.holdsSource = true := by
  cases hm with
  | driver hm =>
    cases hm with
    | connected => exact absurd rfl he
    | settled hd | calls hd | subscribed hd | abandoned hd | unsubscribed hd => simp only [holdsSource, hd]
    | opens hd | portless hd | unconnected hd | overdue hd | tells hd | keepsBack hd | closed hd
    | followed hd | joined hd => simpa only [holdsSource, hd] using h
    | stopped hd =>
      obtain hd | ⟨target, hd⟩ := hd
      · simp only [holdsSource, hd]
      · simpa only [holdsSource, hd] using h
  | heartbeat hm => cases hm <;> exact h
  | receiver hm =>
    have hrunning := hm.running
    simp only [holdsSource, hrunning]
    split <;> rfl
  | consumer hm => cases hm <;> exact h

theorem connected_of_subscribe {ce : Call.Event} (hm : Move s (.driver (.subscribe ce)) s' ms) :
    s.driver.connected = true := by
  cases hm with
  | driver hm =>
    cases hm with
    | calls hd | subscribed hd | abandoned hd | unsubscribed hd =>
      rw [hd]
      rfl

end Source
end Session

namespace Bus
open Network (SourceId Airs)

/-! ## The channel -/

section Channel
variable {b₀ b b' : Bus} {history : List Happening} {e : Event} {frames : List Frame}

theorem broadcastUrl_move (hm : Move b e b') : b'.broadcastUrl = b.broadcastUrl := by
  cases hm with
  | aside _ _ _ hv | writes _ _ _ hv => simp only [broadcastUrl, hv]
  | enters | does => rfl

/-- What the publisher sends enters the channel if a source is attached, and nothing else does. -/
theorem airs_move (h : Airs b.network b.broadcastUrl frames) (hm : Move b e b') :
    Airs b'.network b.broadcastUrl (frames ++ ((written? ⟨b, e, b', ()⟩).map Broadcast.encode).toList) ∨
      b.network.attached b.broadcastUrl = 0 ∧ Airs b'.network b.broadcastUrl frames := by
  have hquiet (hw : written? ⟨b, e, b', ()⟩ = none) (ha : Airs b'.network b.broadcastUrl frames) :
      Airs b'.network b.broadcastUrl (frames ++ ((written? ⟨b, e, b', ()⟩).map Broadcast.encode).toList) := by
    rw [hw, Option.map_none, Option.toList_none, List.append_nil]
    exact ha
  cases hm with
  | aside he ho => exact .inl (hquiet (written?_aside he b') (h.offAir ho))
  | enters => exact .inl (hquiet rfl h)
  | @does id m act e n source clocked ms _ hd _ =>
    have hspared := hd.spared m.clocked.session clocked.session
    exact .inl (hquiet rfl (h.kept hspared.capacity hspared.channels))
  | @writes x b' hp hn =>
    rw [written?_writing hp, hn]
    rcases Nat.eq_zero_or_pos (b.network.attached b.broadcastUrl) with hz | ha
    · exact .inr ⟨hz, (Network.publish_unheard hz _).symm ▸ h⟩
    · exact .inl (h.publish ha _).1

variable {service : Endpoint} {router : Router ClockedBook} {transport : TransportConfig} {held queue : Nat}

theorem start_airs (hb : start service router transport held queue = some b₀) :
    b₀.members = .empty ∧ b₀.service = service ∧ Airs b₀.network b₀.broadcastUrl [] := by
  obtain ⟨target, ht, hb⟩ := Option.bind_eq_some_iff.mp hb
  obtain ⟨⟨listener, n⟩, hn, hb⟩ := Option.bind_eq_some_iff.mp hb
  obtain ⟨n', hopen, hb⟩ := Option.bind_eq_some_iff.mp hb
  cases hb
  refine ⟨rfl, rfl, ?_⟩
  have htarget : service.broadcast = .ok target := by
    cases hs : service.broadcast with
    | ok e =>
      rw [hs] at ht
      exact congrArg Except.ok (Option.some.inj ht)
    | error why =>
      rw [hs] at ht
      cases ht
  have hempty : n.channels = .empty := by
    simp only [Network.bindReply, Network.new] at hn
    cases hn
    rfl
  have hget : n'.channels.get? target.url = some ⟨0, []⟩ := by
    unfold Network.openChannel at hopen
    split at hopen
    · next hin =>
      rw [hempty] at hin
      cases hin
    · split at hopen
      · cases hopen
      · cases hopen
        rw [Table.get?_insert, if_pos rfl]
  refine ⟨⟨0, []⟩, ?_, rfl, List.drop_nil.symm⟩
  simp only [broadcastUrl, htarget]
  exact hget

theorem airs_run (hb : start service router transport held queue = some b₀)
    (h : Occurs happen b₀ history b) : b.broadcastUrl = b₀.broadcastUrl ∧
      ∃ frames, Airs b.network b.broadcastUrl frames := by
  induction h with
  | nothing => exact ⟨rfl, [], (start_airs hb).2.2⟩
  | @next history s s' e out _ hs ih =>
    obtain ⟨hurl, frames, ha⟩ := ih
    have hm := happen_move hs
    refine ⟨(broadcastUrl_move hm).trans hurl, ?_⟩
    rw [broadcastUrl_move hm]
    obtain ha | ⟨-, ha⟩ := airs_move ha hm
    · exact ⟨_, ha⟩
    · exact ⟨_, ha⟩

end Channel

/-! ## What a member got -/

/-- A member got the first `k` of the broadcasts that were published since it was connected, and while it
holds its source the others wait in the channel. -/
structure Delivered (b : Bus) (id : Nat) (xs : List Broadcast) (did : List Session.Transition) (k : Nat) :
    Prop where
  le : k ≤ xs.length
  given : Session.given did = ((xs.map Broadcast.encode).take k).map .ok
  held : ∀ m, b.members.get? id = some m → m.clocked.session.holdsSource = true →
    ∃ source old, m.source = some source ∧
      b.network.sources.get? source = some ⟨b.broadcastUrl, List.length old + k⟩ ∧
      Airs b.network b.broadcastUrl (old ++ xs.map Broadcast.encode)

/-- How far the source of a member has fallen behind. -/
def lag (b : Bus) (id : Nat) : Nat := (b.tap id).elim 0 b.network.lag

section Delivered
variable {b b' : Bus} {id k : Nat} {xs : List Broadcast} {did : List Session.Transition} {e : Event}

theorem attached_pos {source : SourceId} {url : String} {position : Nat}
    (h : b.network.sources.get? source = some ⟨url, position⟩) : 0 < b.network.attached url :=
  Pool.count_pos h (decide_eq_true rfl)

/-- Nothing is published or done, and what others do leaves the source of the member alone. -/
theorem Delivered.quiet (h : Delivered b id xs did k) (hurl : b'.broadcastUrl = b.broadcastUrl)
    (hget : b'.members.get? id = b.members.get? id)
    (hairs : ∀ {frames}, Airs b.network b.broadcastUrl frames → Airs b'.network b.broadcastUrl frames)
    (hsource : ∀ {source}, b.tap id = some source →
      b'.network.sources.get? source = b.network.sources.get? source) : Delivered b' id xs did k where
  le := h.le
  given := h.given
  held := by
    intro m hm hholds
    rw [hget] at hm
    obtain ⟨source, old, hs, hposition, ha⟩ := h.held m hm hholds
    have htap : b.tap id = some source := by rw [tap, hm, Option.bind_some, hs]
    exact ⟨source, old, hs, by rw [hsource htap, hposition, hurl], hurl ▸ hairs ha⟩

theorem Delivered.publish {x : Broadcast} (h : Delivered b id xs did k)
    (hn : b'.network = b.network.publish b.broadcastUrl x.encode) (hurl : b'.broadcastUrl = b.broadcastUrl)
    (hmembers : b'.members = b.members) : Delivered b' id (xs ++ [x]) did k where
  le := by
    rw [List.length_append]
    exact Nat.le_add_right_of_le h.le
  given := by
    have hle : k ≤ (xs.map Broadcast.encode).length := by
      rw [List.length_map]
      exact h.le
    rw [h.given, List.map_append, List.take_append_of_le_length hle]
  held := by
    intro m hm hholds
    rw [hmembers] at hm
    obtain ⟨source, old, hs, hposition, ha⟩ := h.held m hm hholds
    have hpush := (ha.publish (attached_pos hposition) x.encode).1
    refine ⟨source, old, hs, ?_, ?_⟩
    · rw [hn, hurl, Network.publish_sources, hposition]
    · rw [hn, hurl, List.map_append, ← List.append_assoc]
      exact hpush

/-- The member does something, after which it got the first `k'` broadcasts. -/
theorem Delivered.own {m : Member} {clocked : Session.Clocked} {ms : List Metric} {ev : Session.Event}
    {n : Network} {k' : Nat} {t : Session.Transition} (h : Delivered b id xs did k)
    (hm : b.members.get? id = some m) (hc : m.clocked.step b.now ev = some (clocked, ms))
    (he : ev ≠ .driver .connected) (hle : k' ≤ xs.length)
    (hgiven : Session.given (did ++ [t]) = ((xs.map Broadcast.encode).take k').map .ok)
    (hn : ∀ {source old}, m.source = some source →
      b.network.sources.get? source = some ⟨b.broadcastUrl, List.length old + k⟩ →
      Airs b.network b.broadcastUrl (old ++ xs.map Broadcast.encode) →
      n.sources.get? source = some ⟨b.broadcastUrl, List.length old + k'⟩ ∧
        Airs n b.broadcastUrl (old ++ xs.map Broadcast.encode)) :
    Delivered (b.moved id m clocked n m.source ms) id xs (did ++ [t]) k' where
  le := hle
  given := hgiven
  held := by
    intro m' hm' hholds
    rw [get?_moved hm] at hm'
    cases hm'
    have hbefore : m.clocked.session.holdsSource = true :=
      Session.holdsSource_move (Session.step_move (clocked_step hc)) he hholds
    obtain ⟨source, old, hs, hposition, ha⟩ := h.held m hm hbefore
    obtain ⟨hposition, ha⟩ := hn hs hposition ha
    have hgo := letGo_held n m.clocked.session m.source hholds
    refine ⟨source, old, ?_, ?_, ha.offAir hgo⟩
    · simp only [hholds, if_true, hs]
    · exact (congrArg (Pool.get? · source) hgo.sources).trans hposition

theorem holdsSource_of_running {s : Session} (h : s.receiver.running = true) : s.holdsSource = true := by
  simp only [Session.holdsSource, h]
  split <;> rfl

theorem Delivered.does {m : Member} {act : SessionAct} {ev : Session.Event} {n : Network}
    {source : Option SourceId} {clocked : Session.Clocked} {ms : List Metric} (h : Delivered b id xs did k)
    (hlag : b.lag id ≤ b.network.held) (hm : b.members.get? id = some m)
    (hconnected : m.clocked.session.driver.early = false) (hd : Doing b m act ev n source)
    (hc : m.clocked.step b.now ev = some (clocked, ms)) :
    ∃ k', Delivered (b.moved id m clocked n source ms) id xs
      (did ++ [⟨m.clocked.session, ev, clocked.session, ms⟩]) k' := by
  cases hd with
  | connects hdriver =>
    rw [hdriver] at hconnected
    cases hconnected
  | subscribes _ ho | beats _ ho =>
    have hoff := Network.operate_offAir ho
    refine ⟨k, h.own hm hc nofun h.le ((Session.given_none rfl).trans h.given) fun _ hposition ha => ?_⟩
    exact ⟨by rw [hoff.sources, hposition], ha.offAir hoff⟩
  | owns ho =>
    have hg : Session.Transition.given? ⟨m.clocked.session, ev, clocked.session, ms⟩ = none := by
      cases ev with
      | receiver e =>
        cases e with
        | heard => cases ho
        | _ => rfl
      | _ => rfl
    have he : ev ≠ .driver .connected := by
      rintro rfl
      cases ho
    exact ⟨k, h.own hm hc he h.le ((Session.given_none hg).trans h.given) fun _ hposition ha => ⟨hposition, ha⟩⟩
  | @listens source frame n hr hs hh =>
    have hholds : m.clocked.session.holdsSource = true := holdsSource_of_running (by rw [hr]; rfl)
    obtain ⟨_, old, hs', hposition, ha⟩ := h.held m hm hholds
    cases hs.symm.trans hs'
    have htap : b.tap id = some source := by rw [tap, hm, Option.bind_some, hs]
    rw [lag, htap, Option.elim_some] at hlag
    -- The frame is the one that the member has not got yet.
    obtain ⟨hframe, -⟩ := ha.receive hposition hlag hh
    rw [List.getElem?_append_right (Nat.le_add_right ..), Nat.add_sub_cancel_left] at hframe
    have hlt : k < (xs.map Broadcast.encode).length := (List.getElem?_eq_some_iff.mp hframe).1
    rw [List.length_map] at hlt
    have hgiven : Session.given (did ++ [⟨m.clocked.session, .receiver (.heard (.ok frame)), clocked.session, ms⟩]) =
        ((xs.map Broadcast.encode).take (k + 1)).map .ok := by
      rw [Session.given_some rfl, h.given, List.take_add_one, hframe, List.map_append]
      rfl
    have hne : Session.Event.receiver (.heard (.ok frame)) ≠ .driver .connected := by
      rintro ⟨⟩
    refine ⟨k + 1, h.own hm hc hne hlt hgiven fun {source' old'} hs' hposition' ha' => ?_⟩
    cases hs.symm.trans hs'
    obtain ⟨-, hnext⟩ := ha'.receive hposition' hlag hh
    obtain ⟨change, rfl⟩ := Network.receiveBroadcast_some hh
    exact ⟨hnext, ha'.kept rfl fun hkept => hkept⟩

theorem Delivered.next {m : Member} (h : Delivered b id xs did k) (ht : Tapped b)
    (hlag : b.lag id ≤ b.network.held) (hget : b.members.get? id = some m)
    (hconnected : m.clocked.session.driver.early = false) (hm : Move b e b') :
    ∃ k', Delivered b' id (xs ++ (written? ⟨b, e, b', ()⟩).toList)
      (did ++ (transition? id ⟨b, e, b', ()⟩).toList) k' := by
  have hurl : b'.broadcastUrl = b.broadcastUrl := broadcastUrl_move hm
  have hquiet (hw : written? ⟨b, e, b', ()⟩ = none) (hs : transition? id ⟨b, e, b', ()⟩ = none)
      (hsame : b'.members.get? id = b.members.get? id)
      (hairs : ∀ {frames}, Airs b.network b.broadcastUrl frames → Airs b'.network b.broadcastUrl frames)
      (hsource : ∀ {source}, b.tap id = some source →
        b'.network.sources.get? source = b.network.sources.get? source) :
      ∃ k', Delivered b' id (xs ++ (written? ⟨b, e, b', ()⟩).toList)
        (did ++ (transition? id ⟨b, e, b', ()⟩).toList) k' := by
    rw [hw, hs, Option.toList_none, Option.toList_none, List.append_nil, List.append_nil]
    exact ⟨k, h.quiet hurl hsame hairs hsource⟩
  cases hm with
  | aside he ho hmembers =>
    exact hquiet (written?_aside he b') (transition?_aside he b') (by rw [hmembers]) (fun ha => ha.offAir ho)
      fun _ => by rw [ho.sources]
  | enters plan =>
    have hsame : (b.subscribe plan).members.get? id = b.members.get? id := by
      rw [get?_subscribe_member plan hget, hget]
    exact hquiet rfl rfl hsame (fun ha => ha) fun _ => rfl
  | @writes x b' hp hn hmembers =>
    have hs : transition? id ⟨b, .act .publisherWrites, b', ()⟩ = none := rfl
    rw [written?_writing hp, hs, Option.toList_none, List.append_nil]
    exact ⟨k, h.publish hn hurl hmembers⟩
  | @does id' m' act ev n source clocked ms hm' hd hc =>
    by_cases hid : id' = id
    · subst hid
      cases hget.symm.trans hm'
      have hw : written? ⟨b, .act (.session id' act), b.moved id' m clocked n source ms, ()⟩ = none := rfl
      rw [hw, transition?_of hget hd hc, Option.toList_none, List.append_nil]
      exact h.does hlag hget hconnected hd hc
    · have hspared := hd.spared m'.clocked.session clocked.session
      refine hquiet rfl (transition?_other hid _) (get?_moved_other (Ne.symm hid))
        (fun ha => ha.kept hspared.capacity hspared.channels) fun {source'} htap => ?_
      -- The source of this member is not the other's.
      refine hspared.sources (ht.fresh htap) fun hs' => hid (ht.own ?_ htap)
      rw [tap, hm', Option.bind_some, hs']

theorem member_stays {m : Member} (hget : b.members.get? id = some m) (hm : Move b e b') :
    ∃ m', b'.members.get? id = some m' := by
  cases hm with
  | aside _ _ hmembers | writes _ _ hmembers => exact ⟨m, hmembers ▸ hget⟩
  | enters plan => exact ⟨m, get?_subscribe_member plan hget⟩
  | @does id' m' act ev n source clocked ms hm' hd hc =>
    by_cases hid : id = id'
    · subst hid
      exact ⟨_, get?_moved hm'⟩
    · exact ⟨m, (get?_moved_other hid).trans hget⟩

theorem transition?_connected {t : Session.Transition} (hm : Move b e b')
    (ht : transition? id ⟨b, e, b', ()⟩ = some t) (hc : t.event = .driver .connected) :
    ∃ m target source n clocked ms, b.members.get? id = some m ∧ t.before = m.clocked.session ∧
      m.clocked.session.driver = .connecting target ∧
      b.network.connect target.url = some (source, n) ∧
      m.clocked.step b.now (.driver .connected) = some (clocked, ms) ∧
      b' = b.moved id m clocked n (some source) ms := by
  cases hm with
  | aside he => cases (transition?_aside he b').symm.trans ht
  | enters | writes => cases ht
  | @does id' m' act ev n source clocked ms hm' hd hstep =>
    by_cases hid : id' = id
    · subst hid
      rw [transition?_of hm' hd hstep] at ht
      cases ht
      obtain rfl : ev = .driver .connected := hc
      cases hd with
      | connects hdriver hconnect => exact ⟨_, _, _, _, _, _, hm', rfl, hdriver, hconnect, hstep, rfl⟩
      | owns ho => cases ho
    · cases (transition?_other hid _).symm.trans ht

end Delivered

/-! ## Since the connection -/

section Since
variable {b₀ b₁ b b' : Bus} {id : Nat} {front after : List Happening} {e : Event}

/-- A member that is connected has got nothing yet, and everything that follows will wait for it. -/
theorem delivered_connected {t : Session.Transition} {frames : List Frame} (hb : b₀.members = .empty)
    (hfront : Occurs happen b₀ front b) (hs : b.happen e = some (b', ()))
    (ht : transition? id ⟨b, e, b', ()⟩ = some t) (hc : t.event = .driver .connected)
    (ha : Airs b.network b.broadcastUrl frames)
    (hurl : ∀ target, t.before.plan.endpoint.broadcast = .ok target → target.url = b.broadcastUrl) :
    (∃ m, b'.members.get? id = some m) ∧ Delivered b' id [] (trace id (front ++ [⟨b, e, b', ()⟩])) 0 := by
  obtain ⟨m, target, source, n, clocked, ms, hget, hbefore, hdriver, hconnect, hstep, rfl⟩ :=
    transition?_connected (happen_move hs) ht hc
  have hrun := session_run hb hfront hget
  obtain ⟨hgiven, -⟩ := hrun.early (by rw [hdriver]; rfl)
  rw [hbefore] at hurl
  rw [hurl target (hrun.target hdriver)] at hconnect
  obtain ⟨rfl, hcapacity, hchannels, position, hsources, hposition⟩ := Network.connect_some hconnect
  refine ⟨⟨_, get?_moved hget⟩, Nat.le_refl 0, ?_, fun m' hm' hholds => ?_⟩
  · rw [trace_concat, ht, Option.toList_some]
    refine (Session.given_none ?_).trans hgiven
    simp only [Session.Transition.given?, hc]
  · rw [get?_moved hget] at hm'
    cases hm'
    have hgo := letGo_held n m.clocked.session (some b.network.sources.next) hholds
    have hopen := ha
    obtain ⟨c, hchannel, hsent, -⟩ := hopen
    refine ⟨b.network.sources.next, frames, by simp only [hholds, if_true], ?_, ?_⟩
    · refine (congrArg (Pool.get? · _) hgo.sources).trans ?_
      rw [hsources, Pool.get?_add, if_pos rfl, hposition c hchannel, hsent]
      rfl
    · rw [List.map_nil, List.append_nil]
      exact (ha.kept hcapacity hchannels).offAir hgo

theorem delivered_since (hb : b₀.members = .empty) (hfront : Occurs happen b₀ front b₁)
    (hc : ∃ t ∈ trace id front, t.event = .driver .connected) (hget : ∃ m, b₁.members.get? id = some m)
    (hstart : Delivered b₁ id [] (trace id front) 0) (h : Occurs happen b₁ after b)
    (hlag : ∀ o ∈ after, o.before.lag id ≤ o.before.network.held) :
    (∃ m, b.members.get? id = some m) ∧
      ∃ k, Delivered b id (published after) (trace id (front ++ after)) k := by
  -- The member stays and stays connected, so that each happening moves `Delivered` on by one step.
  induction h with
  | nothing => exact ⟨hget, 0, by rwa [List.append_nil]⟩
  | @next after s s' e out h hs ih =>
    obtain ⟨⟨m, hget⟩, k, hd⟩ := ih fun o ho => hlag o (List.mem_append_left _ ho)
    have hwhole : Occurs happen b₀ (front ++ after) s := hfront.after h
    have hconnected : m.clocked.session.driver.early = false := by
      cases hearly : m.clocked.session.driver.early with
      | false => rfl
      | true =>
        obtain ⟨t, ht, hevent⟩ := hc
        have hmem : t ∈ trace id (front ++ after) := by
          rw [trace, List.filterMap_append]
          exact List.mem_append_left _ ht
        exact absurd hevent (((session_run hb hwhole hget).early hearly).2 t hmem)
    have hm := happen_move hs
    refine ⟨member_stays hget hm, ?_⟩
    rw [published_concat, ← List.append_assoc, trace_concat]
    exact hd.next (tapped_run hb hwhole) (hlag _ (List.mem_append_right _ List.mem_cons_self)) hget hconnected hm

end Since

/-! ## What the consumer gets -/

section Reading
variable {b : Bus} {id k : Nat} {m : Member} {plan : Session.Plan} {xs : List Broadcast}
  {did : List Session.Transition}

/-- The frames that the receiver has passed on are the first ones. -/
theorem Delivered.passed {s : Session} {frames : List Frame} {passed : List Broadcast}
    {rest : List (Except SocketError Frame)} {own : Option Session.Failure} (h : Delivered b id xs did k)
    (hp : Session.Passing plan did s frames passed rest own) :
    frames.length + rest.length = k ∧ frames = (xs.map Broadcast.encode).take frames.length := by
  have hgiven : frames.map .ok ++ rest = ((xs.map Broadcast.encode).take k).map .ok :=
    hp.given.symm.trans h.given
  have hlength := congrArg List.length hgiven
  simp only [List.length_append, List.length_map, List.length_take] at hlength
  have hle := h.le
  refine ⟨by omega, ?_⟩
  have hfront := congrArg (List.take frames.length) hgiven
  rw [List.take_append_of_le_length (by simp), ← List.map_take, ← List.map_take, List.take_length,
    List.take_take, Nat.min_eq_left (by omega)] at hfront
  exact (List.map_inj_right fun _ _ => Except.ok.inj).mp hfront

theorem Delivered.enqueued (h : Delivered b id xs did k) (hget : b.members.get? id = some m)
    (hrun : Session.Run plan did m.clocked.session) (hok : ∀ x ∈ Session.enqueued did, x.isOk = true) :
    (Session.enqueued did).map .ok <+: (xs.map Broadcast.encode).map Broadcast.decode ∧
      (m.clocked.session.receiver = .listening →
        (∀ source, m.source = some source → b.network.receiveBroadcast source = none) →
        (Session.enqueued did).map .ok = (xs.map Broadcast.encode).map Broadcast.decode) := by
  obtain ⟨frames, passed, rest, own, hp⟩ := hrun.passing
  obtain ⟨hlength, hframes⟩ := h.passed hp
  have hown : own = none := by
    cases own with
    | none => rfl
    | some f =>
      have hfails := hok (plan.failure f) (by rw [hp.enqueued]; exact List.mem_append_right _ List.mem_cons_self)
      cases (plan.failure_isOk f).symm.trans hfails
  have henqueued : (Session.enqueued did).map .ok =
      ((xs.map Broadcast.encode).map Broadcast.decode).take frames.length := by
    rw [← List.map_take, ← hframes, hp.enqueued, hown, hp.decoded]
    exact congrArg _ (List.append_nil _)
  rw [henqueued]
  refine ⟨List.take_prefix .., fun hr hempty => ?_⟩
  obtain ⟨rfl, -⟩ := hp.of_listening hr
  obtain ⟨source, old, hs, hposition, ha⟩ := h.held m hget (holdsSource_of_running (by rw [hr]; rfl))
  have hall := ha.waits hposition (hempty source hs)
  simp only [List.length_append, List.length_map, List.length_nil] at hall hlength
  refine List.take_of_length_le ?_
  rw [List.length_map, List.length_map]
  omega

end Reading

/-! ## Nothing is missed -/

/-- A session gives its subscribe request to the network under this ticket. -/
def Subscribes (id : Nat) (ticket : Network.TicketId) (o : Happening) : Prop :=
  ∃ t, transition? id o = some t ∧ t.event = .driver (.subscribe .sent) ∧
    ticket = o.before.network.tickets.next

/-- The server handles the subscribe request that a session had sent, and has its filter in the book then. -/
structure Records (id : Nat) (plan : Session.Plan) (earlier : List Happening) (o : Happening) : Prop where
  handles : o.event = .act .serverHandles
  frame : ∃ frame, o.before.server.phase = .handling frame ∧
    Request.decode frame = .ok (.subscribe plan.address plan.filter)
  ticket : ∃ ticket, (o.before.network.replies.get? o.before.listener).bind Network.ReplySocket.pending =
    some ticket ∧ ∃ a ∈ earlier, Subscribes id ticket a
  recorded : o.after.book.filterOf? plan.address = some plan.filter

/-- The frames that the publisher sent. -/
def sent (history : List Happening) : List Frame := (published history).map Broadcast.encode

/-- The source of a member never falls farther behind than the channel holds frames. -/
def KeepsUp (id : Nat) (history : List Happening) : Prop :=
  ∀ o ∈ history, o.before.lag id ≤ o.before.network.held

instance (id : Nat) (history : List Happening) : Decidable (KeepsUp id history) :=
  inferInstanceAs (Decidable (∀ o ∈ history, _))

section Missed
variable {service : Endpoint} {router : Router ClockedBook} {transport : TransportConfig} {held queue : Nat}
  {b₀ b : Bus} {id : Nat} {m : Member} {earlier later : List Happening} {r : Happening}

theorem trace_split (front : List Happening) (o : Happening) (after : List Happening) {t : Session.Transition}
    (ht : transition? id o = some t) : trace id (front ++ o :: after) = trace id front ++ t :: trace id after := by
  rw [trace, List.filterMap_append, List.filterMap_cons_some ht]
  rfl

/-- A session that sent its subscribe request had been connected. -/
theorem connected_before {ticket : Network.TicketId} {a : Happening} {after : List Happening}
    (hrun : Session.Run m.clocked.session.plan (trace id (earlier ++ a :: after)) m.clocked.session)
    (ha : Subscribes id ticket a) :
    ∃ front c between, earlier = front ++ c :: between ∧
      ∃ t, transition? id c = some t ∧ t.event = .driver .connected := by
  obtain ⟨⟨s, ev, s', ms⟩, ht, rfl, -⟩ := ha
  rw [trace_split _ _ _ ht] at hrun
  obtain ⟨hbefore, hs, -⟩ := hrun.split
  have hfounded : Session.Founded (trace id earlier) s := Session.Run.founded hbefore
  obtain ⟨u, hu, huevent⟩ := hfounded.connected (Session.connected_of_subscribe (Session.step_move hs))
  obtain ⟨c, hc, hct⟩ := List.mem_filterMap.mp hu
  obtain ⟨front, between, hearlier⟩ := List.append_of_mem hc
  exact ⟨front, c, between, hearlier, u, hct, huevent⟩

/-- What was published since a member was connected is what it got, as far as it came. -/
theorem delivered_run {c : Happening} {front after : List Happening} {t : Session.Transition}
    (hb : start service router transport held queue = some b₀)
    (h : Occurs happen b₀ (front ++ c :: after) b) (hget : b.members.get? id = some m)
    (hservice : m.clocked.session.plan.endpoint.broadcast = service.broadcast)
    (ht : transition? id c = some t) (hc : t.event = .driver .connected)
    (hkeeps : KeepsUp id (front ++ c :: after)) :
    ∃ k, Delivered b id (published after) (trace id (front ++ c :: after)) k := by
  obtain ⟨hmembers, hs₀, -⟩ := start_airs hb
  have hrun := session_run hmembers h hget
  rw [trace_split _ _ _ ht] at hrun
  obtain ⟨hbefore, -, -⟩ := hrun.split
  obtain ⟨hfront, hs, hafter⟩ := h.split
  obtain ⟨hurl, frames, ha⟩ := airs_run hb hfront
  have htarget : ∀ target, t.before.plan.endpoint.broadcast = .ok target → target.url = c.before.broadcastUrl := by
    intro target hok
    rw [Session.Run.plan_eq hbefore, hservice] at hok
    rw [hurl, broadcastUrl, hs₀, hok]
  obtain ⟨hmember, hstart⟩ := delivered_connected hmembers hfront hs ht hc ha htarget
  have hconnected : ∃ t ∈ trace id (front ++ [c]), t.event = .driver .connected := by
    refine ⟨t, ?_, hc⟩
    rw [trace_split _ _ _ ht]
    exact List.mem_append_right _ List.mem_cons_self
  have hlag : ∀ o ∈ after, o.before.lag id ≤ o.before.network.held := by
    intro o ho
    exact hkeeps o (List.mem_append_right _ (List.mem_cons_of_mem _ ho))
  obtain ⟨-, k, hd⟩ := delivered_since hmembers (hfront.next hs) hconnected hmember hstart hafter hlag
  refine ⟨k, ?_⟩
  rwa [List.append_assoc] at hd

/-- What was published comes back from its frames as it was, if messages carry its parameters. -/
theorem decode_sent {history : List Happening}
    (h : ∀ x ∈ published history, x.reply.params.Carried) :
    (sent history).map Broadcast.decode = (published history).map .ok := by
  rw [sent, List.map_map]
  exact List.map_congr_left fun x hx => Broadcast.decode_carried (h x hx)

/-- Whatever anybody on the bus does: after the server has recorded the subscription of a session, the frames
that the publisher sends reach the consumer, decoded, in order, each once and none left out, as long as
nothing failed and the source kept up. What was sent between the connection and the record comes first. A
receiver that waits with nothing in its source has passed on everything. -/
theorem nothing_missed (hb : start service router transport held queue = some b₀)
    (h : Occurs happen b₀ (earlier ++ r :: later) b) (hget : b.members.get? id = some m)
    (hservice : m.clocked.session.plan.endpoint.broadcast = service.broadcast)
    (hr : Records id m.clocked.session.plan earlier r) (hkeeps : KeepsUp id (earlier ++ r :: later))
    (hok : ∀ x ∈ Session.enqueued (trace id (earlier ++ r :: later)), x.isOk = true) :
    ∃ front c between, earlier = front ++ c :: between ∧
      (∃ t, transition? id c = some t ∧ t.event = .driver .connected) ∧
      (Session.enqueued (trace id (earlier ++ r :: later))).map .ok <+:
        (sent between ++ sent later).map Broadcast.decode ∧
      ((Session.enqueued (trace id (earlier ++ r :: later))).drop (sent between).length).map .ok <+:
        (sent later).map Broadcast.decode ∧
      (m.clocked.session.receiver = .listening →
        (∀ source, m.source = some source → b.network.receiveBroadcast source = none) →
        (Session.enqueued (trace id (earlier ++ r :: later))).map .ok =
          (sent between ++ sent later).map Broadcast.decode) := by
  obtain ⟨hmembers, -, -⟩ := start_airs hb
  have hrun := session_run hmembers h hget
  obtain ⟨ticket, -, a, ha, hsubscribes⟩ := hr.ticket
  obtain ⟨before, since, hearlier⟩ := List.append_of_mem ha
  have hparted : earlier ++ r :: later = before ++ a :: (since ++ r :: later) := by simp [hearlier]
  obtain ⟨front, c, between, hbefore, t, ht, hc⟩ := connected_before (hparted ▸ hrun) hsubscribes
  have hfront : earlier = front ++ c :: (between ++ a :: since) := by simp [hearlier, hbefore]
  have hwhole : earlier ++ r :: later = front ++ c :: (between ++ a :: since ++ r :: later) := by simp [hfront]
  obtain ⟨k, hd⟩ := delivered_run hb (hwhole ▸ h) hget hservice ht hc (hwhole ▸ hkeeps)
  rw [← hwhole] at hd
  obtain ⟨hfirst, hall⟩ := hd.enqueued hget hrun hok
  have hsent : sent (between ++ a :: since ++ r :: later) = sent (between ++ a :: since) ++ sent later := by
    have hr' : written? r = none := by simp only [written?, hr.handles]
    rw [sent, published, List.filterMap_append, List.filterMap_cons_none hr', List.map_append]
    rfl
  change _ <+: (sent (between ++ a :: since ++ r :: later)).map Broadcast.decode at hfirst
  change _ → _ → _ = (sent (between ++ a :: since ++ r :: later)).map Broadcast.decode at hall
  rw [hsent] at hfirst hall
  have hdropped := hfirst.drop (sent (between ++ a :: since)).length
  rw [← List.map_drop, List.map_append, List.drop_left' (List.length_map ..)] at hdropped
  exact ⟨front, c, between ++ a :: since, hfront, ⟨t, ht, hc⟩, hfirst, hdropped, hall⟩

end Missed

/-! ## A session that is caught up -/

/-- A session shakes hands with the indexer, which publishes a block in the meantime. -/
def shakesHands : List Event :=
  [.enters Session.following, .act (.session 0 (.own (.driver .started))), .act (.session 0 .driver),
    .passes Session.following.timing.connectDelay.nanos, .act (.session 0 (.own (.driver .settled))),
    .act (.session 0 (.own (.driver (.subscribe .begin)))), .act (.session 0 .driver),
    .act (.session 0 .driver), .queues (Session.block "1"), .act .publisherTakes, .act .publisherWrites,
    .act .serverTakes]

/-- Another block is published, and the session passes on both. -/
def catchesUp : List Event :=
  [.queues (Session.block "2"), .act .publisherTakes, .act .publisherWrites, .act .serverSends,
    .act (.session 0 .driver), .act (.session 0 .listen),
    .act (.session 0 (.own (.receiver (.handed .accepted)))), .act (.session 0 .listen),
    .act (.session 0 (.own (.receiver (.handed .accepted))))]

/-- Whether the session sends its subscribe request under the first ticket. -/
def sendsFirst (o : Happening) : Bool :=
  match transition? 0 o with
  | some ⟨_, .driver (.subscribe .sent), _, _⟩ => o.before.network.tickets.next = 0
  | _ => false

/-- Whether the server records the session that holds the first ticket. -/
def recordsFirst (b b' : Bus) : Bool :=
  Service.worksOn Session.following.subscribeRequest b.server &&
    ((b.network.replies.get? b.listener).bind Network.ReplySocket.pending = some 0 &&
      b'.book.filterOf? Session.following.address = some Session.following.filter)

/-- Whether the session follows, and nothing waits for it. -/
def caughtUp (b : Bus) : Bool :=
  (b.members.get? 0).any fun m =>
    m.clocked.session.plan = Session.following && (m.clocked.session.receiver = .listening &&
      m.source.all fun source => (b.network.receiveBroadcast source).isNone)

theorem subscribes_of_sendsFirst {o : Happening} (h : sendsFirst o = true) : Subscribes 0 0 o := by
  unfold sendsFirst at h
  split at h
  · next ht => exact ⟨_, ht, rfl, (of_decide_eq_true h).symm⟩
  · cases h

theorem records_of_recordsFirst {b b' : Bus} {earlier : List Happening} (hs : earlier.any sendsFirst = true)
    (h : recordsFirst b b' = true) :
    Records 0 Session.following earlier ⟨b, .act .serverHandles, b', ()⟩ := by
  simp only [recordsFirst, Bool.and_eq_true, decide_eq_true_eq] at h
  obtain ⟨hworks, hticket, hrecorded⟩ := h
  obtain ⟨a, ha, hsends⟩ := List.any_eq_true.mp hs
  exact ⟨rfl, ⟨_, Service.phase_of_worksOn hworks, Request.decode_subscribe ..⟩,
    ⟨0, hticket, a, ha, subscribes_of_sendsFirst hsends⟩, hrecorded⟩

/-- A bus on which the two parts happen, with the record of the subscription between them. -/
theorem nothing_missed_between : ∃ b₀ earlier r later b m,
    start Session.following.endpoint Router.empty.registerBook .default 4 4 = some b₀ ∧
    Occurs happen b₀ (earlier ++ r :: later) b ∧ b.members.get? 0 = some m ∧
    Records 0 m.clocked.session.plan earlier r ∧ KeepsUp 0 (earlier ++ r :: later) ∧
    m.clocked.session.receiver = .listening ∧ published later = [Session.block "2"] ∧
    ∃ between, (sent between).map Broadcast.decode = [.ok (Session.block "1")] ∧
      (Session.enqueued (trace 0 (earlier ++ r :: later))).map .ok =
        (sent between ++ sent later).map Broadcast.decode := by
  have hread : ((start Session.following.endpoint Router.empty.registerBook .default 4 4).bind fun b₀ =>
      (follow happen b₀ shakesHands).bind fun first =>
        (happen first.2 (.act .serverHandles)).bind fun taken =>
          (follow happen taken.1 catchesUp).map fun rest =>
            let history := first.1 ++ ⟨first.2, .act .serverHandles, taken.1, ()⟩ :: rest.1
            first.1.any sendsFirst && (recordsFirst first.2 taken.1 && (caughtUp rest.2 &&
              (decide (KeepsUp 0 history) && (published rest.1 = [Session.block "2"] &&
                Session.enqueued (trace 0 history) = [Session.block "1", Session.block "2"]))))) =
      some true := by decide +kernel
  obtain ⟨b₀, hb, hread⟩ := Option.bind_eq_some_iff.mp hread
  obtain ⟨⟨earlier, before⟩, hfirst, hread⟩ := Option.bind_eq_some_iff.mp hread
  obtain ⟨⟨taken, _⟩, htaken, hread⟩ := Option.bind_eq_some_iff.mp hread
  obtain ⟨⟨later, b⟩, hrest, hread⟩ := Option.map_eq_some_iff.mp hread
  simp only [Bool.and_eq_true, decide_eq_true_eq] at hread
  obtain ⟨hsends, hrecords, hcaughtUp, hkeeps, hlater, henqueued⟩ := hread
  obtain ⟨m, hget, hm⟩ := (Option.any_eq_true _ _).mp hcaughtUp
  simp only [Bool.and_eq_true, decide_eq_true_eq] at hm
  obtain ⟨hplan, hlistening, hempty⟩ := hm
  have hrun : Occurs happen b₀ (earlier ++ ⟨before, .act .serverHandles, taken, ()⟩ :: later) b := by
    have hwhole := ((Occurs.of_follow hfirst).next htaken).after (Occurs.of_follow hrest)
    rwa [List.append_assoc] at hwhole
  have hr : Records 0 m.clocked.session.plan earlier ⟨before, .act .serverHandles, taken, ()⟩ :=
    hplan ▸ records_of_recordsFirst hsends hrecords
  have hok : ∀ x ∈ Session.enqueued (trace 0 (earlier ++ ⟨before, .act .serverHandles, taken, ()⟩ :: later)),
      x.isOk = true := by
    rw [henqueued]
    decide
  obtain ⟨front, c, between, -, -, -, -, hall⟩ :=
    nothing_missed hb hrun hget (by rw [hplan]) hr hkeeps hok
  have hsource : ∀ source, m.source = some source → b.network.receiveBroadcast source = none := by
    intro source hs
    simpa [hs] using hempty
  have hwhole := hall hlistening hsource
  refine ⟨b₀, earlier, _, later, b, m, hb, hrun, hget, hr, hkeeps, hlistening, hlater, between, ?_, hwhole⟩
  have hcarried : ∀ x ∈ published later, x.reply.params.Carried := by
    rw [hlater]
    exact List.forall_mem_singleton.mpr ⟨by decide, by decide⟩
  rw [henqueued, List.map_append, decode_sent hcarried, hlater] at hwhole
  have hboth : [.ok (Session.block "1")] ++ [.ok (Session.block "2")] =
      (sent between).map Broadcast.decode ++ [.ok (Session.block "2")] := hwhole
  exact (List.append_cancel_right hboth).symm

end Bus
end MessageBus
