import MessageBus.Bus.Step
import MessageBus.Proofs.Network.Broadcasts
import MessageBus.Proofs.Session.Requests
/-!
# Runs of a bus

Any party of a bus may act next, and its owner may do something in between: open a session, queue a
broadcast, change the book. What a member does on a bus is a run of its session (`Run.session`). The other
members' sources it leaves alone (`Doing.spared`).
-/
namespace MessageBus.Bus
set_option autoImplicit false
open Network (SourceId OffAir)
open Telemetry (Metric)

/-! ## What happens on a bus -/

inductive Event
  | act (a : Act)
  | enters (plan : Session.Plan)
  | asks (r : Request)
  /-- A broadcast is queued at the publisher. -/
  | queues (x : Broadcast)
  | queuesMatching (topic : Topic) (reply : Reply)
  | addsHandle
  | dropsHandle
  /-- The publisher notices that all handles are gone. -/
  | drains
  /-- The owner of the book changes it. -/
  | revises (book : Book)
  | stops
  | passes (t : Instant)
  | passesWithBook (t : Instant)

def queued (b : Bus) (p : Option (Except PublisherError Publisher)) : Option Bus :=
  match p with
  | some (.ok p) => some { b with publisher := p }
  | some (.error _) | none => none

/-- What an event makes of a bus; `none` if it cannot happen now. -/
def after? (b : Bus) : Event → Option Bus
  | .act a => b.step a
  | .enters plan => some (b.subscribe plan)
  | .asks r => some (b.request r)
  | .queues x => b.queued (b.publisher.publish x)
  | .queuesMatching topic reply =>
    b.queued ((b.publisher.publishMatching b.book topic reply).map fun r => r.map (·.1))
  | .addsHandle => some { b with publisher := b.publisher.addHandle }
  | .dropsHandle => some { b with publisher := b.publisher.dropHandle }
  | .drains => b.publisherEvent b.network .drained
  | .revises book => some (b.withBook book)
  | .stops => some b.stop
  | .passes t => some (b.pass t)
  | .passesWithBook t => some (b.passWithBook t)

/-- Whether an event is neither a frame of the publisher nor an act of a session. -/
def Event.aside : Event → Bool
  | .act .publisherWrites | .act (.session _ _) => false
  | _ => true

def happen (b : Bus) (e : Event) : Option (Bus × Unit) := (b.after? e).map (·, ())

abbrev Happening := Occurrence Bus Event Unit

/-- The broadcast that the publisher sends. -/
def written? (o : Happening) : Option Broadcast :=
  match o.event, o.before.publisher.phase with
  | .act .publisherWrites, .writing x => some x
  | _, _ => none

/-- Everything the publisher sent, oldest first. -/
def published (history : List Happening) : List Broadcast := history.filterMap written?

/-- What an act is to the session of a member. -/
def eventOf? (b : Bus) (m : Member) : SessionAct → Option Session.Event
  | .own e => some e
  | .listen => (m.source.bind b.network.receiveBroadcast).map fun r => .receiver (.heard (.ok r.1))
  | .driver =>
    match m.clocked.session.driver with
    | .connecting _ => some (.driver .connected)
    | .subscribing client call => (b.network.operate client call).map fun r => .driver (.subscribe r.1)
    | _ => none
  | .heartbeat =>
    match m.clocked.session.heartbeat with
    | .beating client call => (b.network.operate client call).map fun r => .heartbeat (.beat r.1)
    | _ => none

/-- The transition that the session of a member makes. -/
def transition? (id : Nat) (o : Happening) : Option Session.Transition :=
  match o.event with
  | .act (.session id' act) =>
    if id' = id then
      (o.before.members.get? id).bind fun m =>
        (o.before.eventOf? m act).bind fun e =>
          (m.clocked.session.step e).map fun r => ⟨m.clocked.session, e, r.1, r.2⟩
    else none
  | _ => none

/-- What a member did, oldest first. -/
def trace (id : Nat) (history : List Happening) : List Session.Transition :=
  history.filterMap (transition? id)

/-! ## What a member can do -/

/-- What an act is to the session, with the network and the source that the session has then. -/
inductive Doing (b : Bus) (m : Member) : SessionAct → Session.Event → Network → Option SourceId → Prop
  | connects {target : Endpoint} {source : SourceId} {n : Network}
      (hd : m.clocked.session.driver = .connecting target)
      (hc : b.network.connect target.url = some (source, n)) :
      Doing b m .driver (.driver .connected) n (some source)
  | subscribes {client : Client} {call : Call} {e : Call.Event} {n : Network}
      (hd : m.clocked.session.driver = .subscribing client call)
      (ho : b.network.operate client call = some (e, n)) :
      Doing b m .driver (.driver (.subscribe e)) n m.source
  | beats {client : Client} {call : Call} {e : Call.Event} {n : Network}
      (hb : m.clocked.session.heartbeat = .beating client call)
      (ho : b.network.operate client call = some (e, n)) :
      Doing b m .heartbeat (.heartbeat (.beat e)) n m.source
  | listens {source : SourceId} {frame : Frame} {n : Network}
      (hr : m.clocked.session.receiver = .listening) (hs : m.source = some source)
      (hh : b.network.receiveBroadcast source = some (frame, n)) :
      Doing b m .listen (.receiver (.heard (.ok frame))) n m.source
  | owns {e : Session.Event} (ho : ownAt b.now m.clocked e = true) : Doing b m (.own e) e b.network m.source

/-- The network after a session let go of what it no longer holds. -/
def letGo (n : Network) (s s' : Session) (source : Option SourceId) : Network :=
  let n := n.release (socket? s) (socket? s')
  if s'.holdsSource then n else source.elim n n.closeSource

/-- A bus after an act of a member. -/
def moved (b : Bus) (id : Nat) (m : Member) (clocked : Session.Clocked) (n : Network)
    (source : Option SourceId) (ms : List Metric) : Bus :=
  { b with
    network := letGo n m.clocked.session clocked.session source
    members := b.members.modify id fun _ =>
      ⟨clocked, if clocked.session.holdsSource then source else none⟩ }.count ms

section Doing
variable {b b' : Bus} {id : Nat} {m : Member} {act : SessionAct} {e : Session.Event} {n : Network}
  {source : Option SourceId}

theorem Doing.eventOf (h : Doing b m act e n source) : b.eventOf? m act = some e := by
  cases h with
  | connects hd => simp only [eventOf?, hd]
  | subscribes hd ho => simp only [eventOf?, hd, ho, Option.map_some]
  | beats hb ho => simp only [eventOf?, hb, ho, Option.map_some]
  | listens _ hs hh => simp only [eventOf?, hs, Option.bind_some, hh, Option.map_some]
  | owns => rfl

theorem sessionEvent_moved (h : b.sessionEvent id { m with source := source } n e = some b') :
    ∃ clocked ms, m.clocked.step b.now e = some (clocked, ms) ∧
      b' = b.moved id m clocked n source ms := by
  obtain ⟨⟨clocked, ms⟩, hstep, hb⟩ := Option.map_eq_some_iff.mp h
  exact ⟨clocked, ms, hstep, hb.symm⟩

theorem sessionActs_doing (h : b.sessionActs id m act = some b') :
    ∃ e n source clocked ms, Doing b m act e n source ∧ m.clocked.step b.now e = some (clocked, ms) ∧
      b' = b.moved id m clocked n source ms := by
  cases act with
  | driver =>
    simp only [sessionActs, sessionDriver] at h
    split at h
    · next hd =>
      obtain ⟨⟨source, n⟩, hc, h⟩ := Option.bind_eq_some_iff.mp h
      obtain ⟨clocked, ms, hs⟩ := sessionEvent_moved h
      exact ⟨_, _, _, clocked, ms, .connects hd hc, hs⟩
    · next hd =>
      obtain ⟨⟨e, n⟩, ho, h⟩ := Option.bind_eq_some_iff.mp h
      obtain ⟨clocked, ms, hs⟩ := sessionEvent_moved h
      exact ⟨_, _, _, clocked, ms, .subscribes hd ho, hs⟩
    · cases h
  | heartbeat =>
    simp only [sessionActs, sessionHeartbeat] at h
    split at h
    · next hb =>
      obtain ⟨⟨e, n⟩, ho, h⟩ := Option.bind_eq_some_iff.mp h
      obtain ⟨clocked, ms, hs⟩ := sessionEvent_moved h
      exact ⟨_, _, _, clocked, ms, .beats hb ho, hs⟩
    · cases h
  | listen =>
    simp only [sessionActs, sessionListens] at h
    split at h
    · next hr hs =>
      obtain ⟨⟨frame, n⟩, hh, h⟩ := Option.bind_eq_some_iff.mp h
      obtain ⟨clocked, ms, hstep⟩ := sessionEvent_moved h
      exact ⟨_, _, _, clocked, ms, .listens hr hs hh, hstep⟩
    · cases h
  | own e =>
    simp only [sessionActs] at h
    split at h
    · next ho =>
      obtain ⟨clocked, ms, hs⟩ := sessionEvent_moved h
      exact ⟨_, _, _, clocked, ms, .owns ho, hs⟩
    · cases h

/-- What an act of one member leaves to the others: channels stay, and so do the sources that it does not
hold. -/
structure Spared (own : Option SourceId) (n n' : Network) : Prop where
  capacity : n'.capacity = n.capacity
  channels : ∀ {url c}, n.channels.get? url = some c → n'.channels.get? url = some c
  next : n.sources.next ≤ n'.sources.next
  sources : ∀ {s}, s < n.sources.next → own ≠ some s → n'.sources.get? s = n.sources.get? s

theorem Spared.of_offAir {n' : Network} (own : Option SourceId) (h : OffAir n n') : Spared own n n' where
  capacity := h.capacity
  channels := fun hget => h.channels ▸ hget
  next := Nat.le_of_eq (congrArg Pool.next h.sources).symm
  sources := fun _ _ => by rw [h.sources]

theorem letGo_spared (n : Network) (s s' : Session) (source : Option SourceId) :
    Spared source n (letGo n s s' source) := by
  have hoff : OffAir n (n.release (socket? s) (socket? s')) := Network.release_offAir ..
  simp only [letGo]
  split
  · exact .of_offAir _ hoff
  · cases source with
    | none => exact .of_offAir _ hoff
    | some own =>
      refine ⟨hoff.capacity, fun hget => hoff.channels ▸ hget, ?_, fun hlt hne => ?_⟩
      · exact Nat.le_of_eq (congrArg Pool.next hoff.sources).symm
      · simp only [Option.elim_some, Network.closeSource]
        rw [Pool.get?_remove, if_neg fun heq => hne (congrArg some heq.symm), hoff.sources]

theorem letGo_held (n : Network) (s : Session) {s' : Session} (source : Option SourceId)
    (h : s'.holdsSource = true) : OffAir n (letGo n s s' source) := by
  simp only [letGo, h, if_true]
  exact Network.release_offAir ..

theorem Doing.network (h : Doing b m act e n source) :
    Spared m.source b.network n ∧ (source = m.source ∨
      source = some b.network.sources.next ∧ n.sources.next = b.network.sources.next + 1) := by
  cases h with
  | connects hd hc =>
    obtain ⟨rfl, hcapacity, hchannels, position, hsources, -⟩ := Network.connect_some hc
    refine ⟨⟨hcapacity, hchannels, ?_, fun hlt _ => ?_⟩, .inr ⟨rfl, by rw [hsources]; rfl⟩⟩
    · rw [hsources]
      exact Nat.le_succ _
    · rw [hsources, Pool.get?_add, if_neg (Nat.ne_of_lt hlt)]
  | subscribes _ ho | beats _ ho => exact ⟨.of_offAir _ (Network.operate_offAir ho), .inl rfl⟩
  | listens _ hs hh =>
    obtain ⟨change, rfl⟩ := Network.receiveBroadcast_some hh
    refine ⟨⟨rfl, id, Nat.le_refl _, fun hlt hne => ?_⟩, .inl rfl⟩
    exact (Pool.get?_modify ..).trans (if_neg fun heq => hne (by rw [hs, heq]))
  | owns => exact ⟨.of_offAir _ (.refl _), .inl rfl⟩

theorem Doing.spared (h : Doing b m act e n source) (s s' : Session) :
    Spared m.source b.network (letGo n s s' source) := by
  obtain ⟨hn, hsource⟩ := h.network
  have hgo := letGo_spared n s s' source
  refine ⟨hgo.capacity.trans hn.capacity, fun hget => hgo.channels (hn.channels hget),
    Nat.le_trans hn.next hgo.next, fun {own} hlt hne => ?_⟩
  have hheld : source ≠ some own := by
    rintro rfl
    obtain heq | ⟨heq, -⟩ := hsource
    · exact hne heq.symm
    · exact Nat.lt_irrefl _ (Option.some.inj heq ▸ hlt)
  rw [hgo.sources (Nat.lt_of_lt_of_le hlt hn.next) hheld, hn.sources hlt hne]

end Doing

/-! ## What can happen -/

/-- What can happen to broadcasts and members. -/
inductive Move (b : Bus) : Event → Bus → Prop
  /-- Neither channels nor members notice. -/
  | aside {e : Event} {b' : Bus} (he : e.aside = true) (ho : OffAir b.network b'.network)
      (hm : b'.members = b.members) (hv : b'.service = b.service) : Move b e b'
  | enters (plan : Session.Plan) : Move b (.enters plan) (b.subscribe plan)
  | writes {x : Broadcast} {b' : Bus} (hp : b.publisher.phase = .writing x)
      (hn : b'.network = b.network.publish b.broadcastUrl x.encode) (hm : b'.members = b.members)
      (hv : b'.service = b.service) : Move b (.act .publisherWrites) b'
  | does {id : Nat} {m : Member} {act : SessionAct} {e : Session.Event} {n : Network}
      {source : Option SourceId} {clocked : Session.Clocked} {ms : List Metric}
      (hm : b.members.get? id = some m) (hd : Doing b m act e n source)
      (hc : m.clocked.step b.now e = some (clocked, ms)) :
      Move b (.act (.session id act)) (b.moved id m clocked n source ms)

section Moves
variable {b b' : Bus} {n : Network}

structure Unheard (b b' : Bus) : Prop where
  network : OffAir b.network b'.network
  members : b'.members = b.members
  service : b'.service = b.service

theorem Unheard.move {e : Event} (h : Unheard b b') (he : e.aside = true) : Move b e b' :=
  .aside he h.network h.members h.service

theorem serverEvent_unheard {e : Server.Event} (hn : OffAir b.network n)
    (h : b.serverEvent n e = some b') : Unheard b b' := by
  obtain ⟨s, -, rfl⟩ := Option.map_eq_some_iff.mp h
  refine ⟨?_, rfl, rfl⟩
  dsimp only
  split
  · exact hn.trans (Network.closeReply_offAir ..)
  · exact hn

theorem publisherEvent_unheard {e : Publisher.Event} (h : b.publisherEvent b.network e = some b') :
    Unheard b b' := by
  obtain ⟨⟨p, ms⟩, -, rfl⟩ := Option.map_eq_some_iff.mp h
  exact ⟨.refl _, rfl, rfl⟩

theorem clientEvent_unheard {p : Pending} {e : Call.Event} (hn : OffAir b.network n)
    (h : b.clientEvent p n e = some b') : Unheard b b' := by
  obtain ⟨⟨progress, ms⟩, -, rfl⟩ := Option.map_eq_some_iff.mp h
  cases progress with
  | running client call => exact ⟨hn.trans (Network.release_offAir ..), rfl, rfl⟩
  | finished client result => exact ⟨hn.trans (Network.release_offAir ..), rfl, rfl⟩

theorem queued_unheard {p : Option (Except PublisherError Publisher)} (h : b.queued p = some b') :
    Unheard b b' := by
  unfold queued at h
  split at h
  · cases h
    exact ⟨.refl _, rfl, rfl⟩
  · cases h
  · cases h

theorem request_unheard (b : Bus) (r : Request) : Unheard b (b.request r) := by
  unfold request
  split
  · exact ⟨.refl _, rfl, rfl⟩
  · exact ⟨.refl _, rfl, rfl⟩

theorem step_move {a : Act} (h : b.step a = some b') : Move b (.act a) b' := by
  cases a with
  | serverTakes =>
    refine Unheard.move ?_ rfl
    simp only [step, serverTakes] at h
    split at h
    · obtain ⟨⟨r, n⟩, hr, h⟩ := Option.bind_eq_some_iff.mp h
      cases r with
      | ok frame => exact serverEvent_unheard (Network.receiveRequest_offAir hr) h
      | error e => exact serverEvent_unheard (Network.receiveRequest_offAir hr) h
    · cases h
  | serverSends =>
    refine Unheard.move ?_ rfl
    simp only [step, serverSends] at h
    split at h
    · split at h
      · next hr => exact serverEvent_unheard (Network.sendReply_offAir hr) h
      · exact serverEvent_unheard (.refl _) h
    · cases h
  | serverHandles | serverStops => exact (serverEvent_unheard (.refl _) h).move rfl
  | publisherTakes | publisherStops => exact (publisherEvent_unheard h).move rfl
  | publisherWrites =>
    simp only [step, publisherWrites] at h
    split at h
    · next x hp =>
      obtain ⟨⟨p, ms⟩, -, rfl⟩ := Option.map_eq_some_iff.mp h
      exact .writes hp rfl rfl rfl
    · cases h
  | clientOperates =>
    refine Unheard.move ?_ rfl
    obtain ⟨p, -, h⟩ := Option.bind_eq_some_iff.mp h
    obtain ⟨⟨e, n⟩, ho, h⟩ := Option.bind_eq_some_iff.mp h
    exact clientEvent_unheard (Network.operate_offAir ho) h
  | clientBegins =>
    refine Unheard.move ?_ rfl
    obtain ⟨p, -, h⟩ := Option.bind_eq_some_iff.mp h
    exact clientEvent_unheard (.refl _) h
  | clientExpires =>
    refine Unheard.move ?_ rfl
    obtain ⟨p, -, h⟩ := Option.bind_eq_some_iff.mp h
    obtain ⟨due, -, h⟩ := Option.bind_eq_some_iff.mp h
    split at h
    · exact clientEvent_unheard (.refl _) h
    · cases h
  | session id act =>
    obtain ⟨m, hm, h⟩ := Option.bind_eq_some_iff.mp h
    obtain ⟨e, n, source, clocked, ms, hd, hc, rfl⟩ := sessionActs_doing h
    exact .does hm hd hc

theorem happen_move {e : Event} {out : Unit} (h : b.happen e = some (b', out)) : Move b e b' := by
  have h : b.after? e = some b' := by simpa [happen] using h
  cases e with
  | act a => exact step_move h
  | enters plan =>
    cases h
    exact .enters plan
  | asks r =>
    cases h
    exact (request_unheard b r).move rfl
  | queues | queuesMatching => exact (queued_unheard h).move rfl
  | drains => exact (publisherEvent_unheard h).move rfl
  | addsHandle | dropsHandle | revises | stops | passes | passesWithBook =>
    cases h
    exact Unheard.move ⟨.refl _, rfl, rfl⟩ rfl

end Moves

/-! ## The sessions -/

section Sessions
variable {b₀ b b' : Bus} {history : List Happening} {id : Nat}

theorem published_concat (history : List Happening) (o : Happening) :
    published (history ++ [o]) = published history ++ (written? o).toList := filterMap_concat ..

theorem trace_concat (history : List Happening) (o : Happening) :
    trace id (history ++ [o]) = trace id history ++ (transition? id o).toList := filterMap_concat ..

/-- The clock does not change what a session does. -/
theorem clocked_step {c c' : Session.Clocked} {now : Instant} {e : Session.Event} {ms : List Metric}
    (h : c.step now e = some (c', ms)) : c.session.step e = some (c'.session, ms) := by
  obtain ⟨⟨s, ms'⟩, hstep, hpair⟩ := Option.map_eq_some_iff.mp h
  cases hpair
  rw [hstep]
  unfold Session.Clocked.rearm
  split <;> rfl

theorem transition?_of {m : Member} {act : SessionAct} {e : Session.Event} {n : Network}
    {source : Option SourceId} {clocked : Session.Clocked} {ms : List Metric}
    (hm : b.members.get? id = some m) (hd : Doing b m act e n source)
    (hc : m.clocked.step b.now e = some (clocked, ms)) (b' : Bus) :
    transition? id ⟨b, .act (.session id act), b', ()⟩ =
      some ⟨m.clocked.session, e, clocked.session, ms⟩ := by
  simp [transition?, hm, hd.eventOf, clocked_step hc]

theorem transition?_other {id' : Nat} {act : SessionAct} (hne : id' ≠ id) (b' : Bus) :
    transition? id ⟨b, .act (.session id' act), b', ()⟩ = none := by
  simp [transition?, hne]

theorem transition?_aside {e : Event} (he : e.aside = true) (b' : Bus) :
    transition? id ⟨b, e, b', ()⟩ = none := by
  cases e with
  | act a =>
    cases a with
    | session => cases he
    | _ => rfl
  | _ => rfl

theorem written?_aside {e : Event} (he : e.aside = true) (b' : Bus) : written? ⟨b, e, b', ()⟩ = none := by
  cases e with
  | act a =>
    cases a with
    | publisherWrites => cases he
    | _ => rfl
  | _ => rfl

theorem written?_writing {x : Broadcast} (hp : b.publisher.phase = .writing x) (b' : Bus) :
    written? ⟨b, .act .publisherWrites, b', ()⟩ = some x := by
  simp only [written?, hp]

theorem get?_subscribe (b : Bus) (plan : Session.Plan) (id : Nat) :
    (b.subscribe plan).members.get? id =
      if id = b.members.next then some ⟨.start plan, none⟩ else b.members.get? id := Pool.get?_add ..

/-- Who is a member already is not the one that enters. -/
theorem get?_subscribe_member {m : Member} (plan : Session.Plan) (hm : b.members.get? id = some m) :
    (b.subscribe plan).members.get? id = some m := by
  rw [get?_subscribe, if_neg (Nat.ne_of_lt (Pool.get?_lt hm)), hm]

theorem get?_moved {m m' : Member} {clocked : Session.Clocked} {n : Network} {source : Option SourceId}
    {ms : List Metric} (hm : b.members.get? id = some m) :
    (b.moved id m' clocked n source ms).members.get? id =
      some ⟨clocked, if clocked.session.holdsSource then source else none⟩ := by
  refine (Pool.get?_modify ..).trans ?_
  rw [if_pos rfl, hm]
  rfl

theorem get?_moved_other {id' : Nat} {m' : Member} {clocked : Session.Clocked} {n : Network}
    {source : Option SourceId} {ms : List Metric} (hne : id ≠ id') :
    (b.moved id' m' clocked n source ms).members.get? id = b.members.get? id :=
  (Pool.get?_modify ..).trans (if_neg hne)

/-- What a member did so far is a run of its session, and who is no member did nothing. -/
structure Lives (did : List Session.Transition) (b : Bus) (id : Nat) : Prop where
  absent : b.members.get? id = none → did = []
  run : ∀ m, b.members.get? id = some m →
    Session.Run m.clocked.session.plan did m.clocked.session

theorem Lives.next {did : List Session.Transition} {e : Event} (h : Lives did b id) (hm : Move b e b') :
    Lives (did ++ (transition? id ⟨b, e, b', ()⟩).toList) b' id := by
  cases hm with
  | aside he ho hmembers =>
    rw [transition?_aside he, Option.toList_none, List.append_nil]
    exact ⟨hmembers ▸ h.absent, hmembers ▸ h.run⟩
  | writes hp hn hmembers =>
    show Lives (did ++ []) b' id
    rw [List.append_nil]
    exact ⟨hmembers ▸ h.absent, hmembers ▸ h.run⟩
  | enters plan =>
    show Lives (did ++ []) (b.subscribe plan) id
    rw [List.append_nil]
    refine ⟨fun habsent => ?_, fun m hm => ?_⟩
    · rw [get?_subscribe] at habsent
      split at habsent
      · cases habsent
      · exact h.absent habsent
    · rw [get?_subscribe] at hm
      split at hm
      · next heq =>
        -- A member that enters has done nothing yet.
        cases hm
        rw [h.absent (heq ▸ Pool.get?_next b.members)]
        exact .none
      · exact h.run m hm
  | @does id' m' act e n source clocked ms hm' hd hc =>
    by_cases hid : id' = id
    · subst hid
      have hstep := clocked_step hc
      refine ⟨fun habsent => ?_, fun m hm => ?_⟩
      · rw [get?_moved hm'] at habsent
        cases habsent
      · rw [get?_moved hm'] at hm
        cases hm
        rw [transition?_of hm' hd hc, Session.move_plan (Session.step_move hstep)]
        exact (h.run m' hm').step hstep
    · rw [transition?_other hid, Option.toList_none, List.append_nil]
      have hget : (b.moved id' m' clocked n source ms).members.get? id = b.members.get? id :=
        get?_moved_other (Ne.symm hid)
      exact ⟨hget ▸ h.absent, hget ▸ h.run⟩

/-- What a member does on a bus is a run of its session. -/
theorem session_run {m : Member} (hb : b₀.members = .empty) (h : Occurs happen b₀ history b)
    (hm : b.members.get? id = some m) :
    Session.Run m.clocked.session.plan (trace id history) m.clocked.session := by
  have hlives : Lives (trace id history) b id := by
    clear hm
    induction h with
    | nothing =>
      have hnone : b₀.members.get? id = none := by rw [hb]; rfl
      exact ⟨fun _ => rfl, fun m hm => by cases hnone.symm.trans hm⟩
    | next _ hs ih =>
      rw [trace_concat]
      exact ih.next (happen_move hs)
  exact hlives.run m hm

end Sessions

/-! ## The sources -/

/-- The source of a member. -/
def tap (b : Bus) (id : Nat) : Option SourceId := (b.members.get? id).bind Member.source

/-- No two members share a source, and all sources have been given out. -/
structure Tapped (b : Bus) : Prop where
  fresh : ∀ {id s}, b.tap id = some s → s < b.network.sources.next
  own : ∀ {id id' s}, b.tap id = some s → b.tap id' = some s → id = id'

section Tapped
variable {b₀ b b' : Bus} {history : List Happening}

theorem Tapped.kept (h : Tapped b) (ht : ∀ id, b'.tap id = b.tap id)
    (hn : b.network.sources.next ≤ b'.network.sources.next) : Tapped b' where
  fresh := fun hs => Nat.lt_of_lt_of_le (h.fresh (ht _ ▸ hs)) hn
  own := fun hs hs' => h.own (ht _ ▸ hs) (ht _ ▸ hs')

theorem tap_subscribe (b : Bus) (plan : Session.Plan) (id : Nat) : (b.subscribe plan).tap id = b.tap id := by
  rw [tap, get?_subscribe, tap]
  split
  · next heq =>
    rw [heq, Pool.get?_next]
    rfl
  · rfl

/-- What one member does to its source, with the sources of the others as they were. -/
theorem Tapped.moved (id : Nat) (own : Option SourceId) (h : Tapped b)
    (hother : ∀ other, other ≠ id → b'.tap other = b.tap other)
    (hown : own = b.tap id ∨ own = some b.network.sources.next ∧
      b.network.sources.next < b'.network.sources.next)
    (hnext : b.network.sources.next ≤ b'.network.sources.next)
    (ht : ∀ s, b'.tap id = some s → own = some s) : Tapped b' := by
  have hfresh {s : SourceId} (hs : b'.tap id = some s) :
      s < b'.network.sources.next ∧ ∀ other, b.tap other = some s → other = id := by
    obtain rfl | ⟨rfl, hlt⟩ := hown
    · exact ⟨Nat.lt_of_lt_of_le (h.fresh (ht s hs)) hnext, fun other ho => h.own ho (ht s hs)⟩
    · obtain rfl : b.network.sources.next = s := Option.some.inj (ht s hs)
      exact ⟨hlt, fun other ho => absurd (h.fresh ho) (Nat.lt_irrefl _)⟩
  refine ⟨fun {other s} hs => ?_, fun {other other' s} hs hs' => ?_⟩
  · by_cases ho : other = id
    · subst ho
      exact (hfresh hs).1
    · exact Nat.lt_of_lt_of_le (h.fresh (hother other ho ▸ hs)) hnext
  · by_cases ho : other = id
    · subst ho
      by_cases ho' : other' = other
      · exact ho'.symm
      · exact ((hfresh hs).2 other' (hother other' ho' ▸ hs')).symm
    · by_cases ho' : other' = id
      · subst ho'
        exact (hfresh hs').2 other (hother other ho ▸ hs)
      · exact h.own (hother other ho ▸ hs) (hother other' ho' ▸ hs')

theorem Tapped.next {e : Event} (h : Tapped b) (hm : Move b e b') : Tapped b' := by
  cases hm with
  | aside he ho hmembers =>
    refine h.kept (fun id => by rw [tap, hmembers, tap]) ?_
    exact Nat.le_of_eq (congrArg Pool.next ho.sources).symm
  | writes hp hn hmembers =>
    refine h.kept (fun id => by rw [tap, hmembers, tap]) ?_
    exact Nat.le_of_eq (by rw [hn, Network.publish_sources])
  | enters plan => exact h.kept (tap_subscribe b plan) (Nat.le_refl _)
  | @does id m act e n source clocked ms hget hd hc =>
    obtain ⟨hspared, hsource⟩ := hd.network
    have hgo := letGo_spared n m.clocked.session clocked.session source
    refine h.moved id source (fun other ho => ?_) ?_ (Nat.le_trans hspared.next hgo.next)
      fun s hs => ?_
    · rw [tap, get?_moved_other ho, tap]
    · obtain rfl | ⟨rfl, hnext⟩ := hsource
      · exact .inl (by rw [tap, hget, Option.bind_some])
      · exact .inr ⟨rfl, Nat.lt_of_lt_of_le (hnext ▸ Nat.lt_succ_self _) hgo.next⟩
    · rw [tap, get?_moved hget, Option.bind_some] at hs
      simp only at hs
      split at hs
      · exact hs
      · cases hs

theorem tapped_run (hb : b₀.members = .empty) (h : Occurs happen b₀ history b) : Tapped b := by
  induction h with
  | nothing =>
    have hnone (id : Nat) : b₀.tap id = none := by rw [tap, hb]; rfl
    exact ⟨fun hs => absurd ((hnone _).symm.trans hs) nofun, fun hs => absurd ((hnone _).symm.trans hs) nofun⟩
  | next _ hs ih => exact ih.next (happen_move hs)

end Tapped
end MessageBus.Bus
