import MessageBus.Proofs.Book.History
import MessageBus.Proofs.Session.Requests
import MessageBus.Proofs.Topic.Filter
import MessageBus.Publisher
/-!
# One filter per address

All sessions of a subscriber report the same address, and a book holds one filter per address. So it is
the handshake that was accepted last which decides what is published for that subscriber
(`latest_handshake_decides`); the sessions before it go on, and hear of their topics no more
(`second_session_displaces`).
-/
namespace MessageBus
set_option autoImplicit false

/-! ## Handshakes -/

theorem Params.getString_insert (p : Params) (key text : String) :
    (p.insert key (.string text)).getString key = .ok text := by
  rw [getString, require, get?_insert, if_pos rfl]
  rfl

/-- A subscribe request enters its filter under its address, whatever they are. -/
theorem Request.entered?_subscribe (address : String) (filter : TopicFilter) :
    (Request.subscribe address filter).entered? = some (address, filter) := by
  have hfilter : ((Request.subscribe address filter).params.get? "topic_filter").map TopicFilter.ofJson =
      some (.ok filter) := by
    rw [subscribe, Params.get?_insert, if_neg (by decide), Params.get?_insert, if_pos rfl,
      TopicFilter.canonical_toJson, Option.map_some, TopicFilter.ofJson_toJson]
  have haddress : (Request.subscribe address filter).params.getString "subscriber" = .ok address :=
    Params.getString_insert ..
  have hcommand : (Request.subscribe address filter).command = subscribeCommand := rfl
  rw [entered?, if_pos hcommand, haddress, hfilter]

namespace ClockedBook

theorem Run.accepted {b₀ b : ClockedBook} {history : List Deed} {r : Request} {i : Nat}
    (h : Run b₀ history b) (hr : r.entered?.isSome = true)
    (hi : At history i fun o => o.event = .handle r) :
    At history i fun o => o.output = .replied Book.accepted := by
  obtain ⟨o, ho, he⟩ := hi
  obtain ⟨-, -, hs⟩ := Occurs.of_mem h (List.mem_of_getElem? ho)
  rw [he] at hs
  have hout : o.output = .replied (o.before.book.handle o.before.now r).2 :=
    (Prod.mk.inj (Option.some.inj hs)).2.symm
  exact ⟨o, ho, hout.trans (congrArg _ ((Book.handle_handled ..).accepted hr))⟩

end ClockedBook

/-! ## Publishing -/

theorem Publisher.publishMatching_interested {book : Book} {topic : Topic} {address : String}
    (h : address ∈ book.interested topic) (p : Publisher) (reply : Reply) :
    p.publishMatching book topic reply =
      match Broadcast.make topic.render reply with
      | .error e => some (.error (.envelope e))
      | .ok b => (p.publish b).map fun r => r.map (·, (book.interested topic).length) := by
  unfold publishMatching
  split
  · next hn =>
    rw [List.length_eq_zero_iff.mp hn] at h
    cases h
  · rfl

/-- An open queue with room takes a broadcast. -/
theorem Publisher.publish_open {p : Publisher} (ho : p.isClosed = false)
    (hr : p.queue.length < p.capacity) (b : Broadcast) :
    p.publish b = some (.ok { p with queue := p.queue ++ [b] }) := by
  rw [publish, ho, if_neg Bool.false_ne_true, if_neg (Nat.not_le.mpr hr)]

/-! ## Sessions of one subscriber -/

namespace ClockedBook

/-- The sessions of a subscriber all enter their filters under its address. Whatever was done to the book
before, and whatever is done after the handshake of one of them that neither gives the address another
filter nor strikes it out: the handshake was accepted, the subscriber is interested in exactly the topics
of that session's filter, and what is published for such a topic is not skipped. -/
theorem latest_handshake_decides {s : Subscriber} {filter : TopicFilter}
    {trace : List Session.Transition} {session : Session} {client : Client} {call : Call}
    (hsession : Session.Run (s.subscribe filter) trace session)
    (hcall : session.driver = .subscribing client call) {b₀ b : ClockedBook} {history : List Deed}
    {i : Nat} (h : Run b₀ history b) (hi : At history i fun o => o.event = .handle call.request)
    (hlast : ∀ o ∈ history.drop (i + 1), displaces s.address filter o = false) :
    (At history i fun o => o.output = .replied Book.accepted) ∧
    ∀ topic, (s.address ∈ b.book.interested topic ↔ filter.accepts topic = true) ∧
      (filter.accepts topic = true → 0 < (b.book.interested topic).length ∧
        ∀ (p : Publisher) (reply : Reply),
          (p.publishMatching b.book topic reply =
            match Broadcast.make topic.render reply with
            | .error e => some (.error (.envelope e))
            | .ok bc => (p.publish bc).map fun r => r.map (·, (b.book.interested topic).length)) ∧
          ∀ bc, Broadcast.make topic.render reply = .ok bc → p.isClosed = false →
            p.queue.length < p.capacity →
              p.publishMatching b.book topic reply =
                some (.ok ({ p with queue := p.queue ++ [bc] }, (b.book.interested topic).length))) := by
  have hrequest : call.request = .subscribe s.address filter := hsession.handshake hcall
  have hentry : call.request.entered? = some (s.address, filter) :=
    hrequest ▸ Request.entered?_subscribe s.address filter
  have hentered : At history i fun o => o.event.entered? s.address = some filter :=
    hi.imp fun o he => by simp [he, Act.entered?, hentry, Option.filter]
  have hf : b.book.filterOf? s.address = some filter := h.filterOf? hentered hlast
  have hin (topic : Topic) : s.address ∈ b.book.interested topic ↔ filter.accepts topic = true := by
    simp [Book.mem_interested, hf]
  refine ⟨h.accepted (by rw [hentry]; rfl) hi, fun topic => ⟨hin topic, fun ha => ?_⟩⟩
  have hmem := (hin topic).mpr ha
  refine ⟨List.length_pos_of_mem hmem, fun p reply => ?_⟩
  have hpublish := Publisher.publishMatching_interested hmem p reply
  refine ⟨hpublish, fun bc hbc ho hr => ?_⟩
  rw [hpublish, hbc]
  simp only [Publisher.publish_open ho hr]
  rfl

/-! ## An example -/

/-- A subscriber of the indexer. -/
def tracker : Subscriber := ⟨⟨"indexer", "memory", 4000, some 4001, none⟩, "sub-1", .default, .default⟩

def acme : TopicFilter := ⟨["acme"], [], [], [], [], [], []⟩

def zeta : TopicFilter := ⟨["zeta"], [], [], [], [], [], []⟩

def dome : Topic := ⟨"acme", "dome", "", "", "", ""⟩

/-- A session connects, and its handshake is answered as the book answers it. -/
def handshake : List Session.Event :=
  [.driver .started, .driver .connected, .driver .settled, .driver (.subscribe .begin),
    .driver (.subscribe (.dialed 0)), .driver (.subscribe .sent),
    .driver (.subscribe (.received Book.accepted.encode))]

/-- What a book is asked by two sessions of the tracker. -/
def asked : List Act :=
  [.handle (tracker.subscribe acme).subscribeRequest, .handle (tracker.subscribe zeta).subscribeRequest,
    .handle (tracker.subscribe acme).heartbeatRequest]

/-- A book that is asked by two sessions of the tracker accepts everything, and nothing displaces the
second one. -/
theorem asked_runs : ∃ history b, Run ⟨0, .empty⟩ history b ∧ history.map Occurrence.event = asked ∧
    history.map Occurrence.output = List.replicate 3 (.replied Book.accepted) ∧
    (history.drop 2).all (fun o => !displaces tracker.address zeta o) = true ∧
    b.book.interested dome = [] := by
  have hread : (follow (fun s act => some (perform s act)) ⟨0, .empty⟩ asked).map
      (fun r => (r.1.map Occurrence.output, (r.1.drop 2).all (fun o => !displaces tracker.address zeta o),
        r.2.book.interested dome)) =
      some (List.replicate 3 (.replied Book.accepted), true, []) := by decide +kernel
  obtain ⟨history, b, hrun, hevents, hread⟩ := Occurs.of_reading hread
  obtain ⟨houtputs, hread⟩ := Prod.mk.inj hread
  exact ⟨history, b, hrun, hevents, houtputs, Prod.mk.inj hread⟩

theorem latest_handshake_decides_zeta :
    ∃ trace session client call history b, Session.Run (tracker.subscribe zeta) trace session ∧
      session.driver = .subscribing client call ∧ Run ⟨0, .empty⟩ history b ∧
      (At history 1 fun o => o.event = .handle call.request) ∧
      (∀ o ∈ history.drop 2, displaces tracker.address zeta o = false) ∧
      (At history 1 fun o => o.output = .replied Book.accepted) ∧
      ∀ topic, tracker.address ∈ b.book.interested topic ↔ zeta.accepts topic = true := by
  have hread : (follow Session.step (.start (tracker.subscribe zeta)) (handshake.take 3)).map
      (fun r => r.2.driver) = some (.subscribing (.new tracker.endpoint tracker.transport)
        (.start (tracker.subscribe zeta).subscribeRequest)) := rfl
  obtain ⟨_, session, hsession, -, hdriver⟩ := Occurs.of_reading hread
  obtain ⟨trace, hsession⟩ := Session.Steps.of_occurs hsession
  obtain ⟨history, b, hrun, hevents, -, hkept, -⟩ := asked_runs
  have hi := at_of_map hevents (i := 1) rfl
  have hlast : ∀ o ∈ history.drop 2, displaces tracker.address zeta o = false := fun o ho =>
    (Bool.not_eq_true' _).mp (List.all_eq_true.mp hkept o ho)
  obtain ⟨haccepted, hdecides⟩ := latest_handshake_decides hsession hdriver hrun hi hlast
  exact ⟨trace, session, _, _, history, b, hsession, hdriver, hrun, hi, hlast, haccepted,
    fun topic => (hdecides topic).1⟩

/-- Two sessions of one subscriber have subscribed and go on, the book still accepts the heartbeats of the
first, and a topic that only its filter accepts is skipped. -/
theorem second_session_displaces :
    (∃ trace session, Session.Run (tracker.subscribe acme) trace session ∧
      session.driver = .following ∧ session.cancelled = false) ∧
    (∃ trace session, Session.Run (tracker.subscribe zeta) trace session ∧
      session.driver = .following ∧ session.cancelled = false) ∧
    ∃ history b, Run ⟨0, .empty⟩ history b ∧ history.map Occurrence.event = asked ∧
      history.map Occurrence.output = List.replicate 3 (.replied Book.accepted) ∧
      acme.accepts dome = true ∧
      ∀ (p : Publisher) (reply : Reply), p.publishMatching b.book dome reply = some (.ok (p, 0)) := by
  have hfollows (filter : TopicFilter)
      (h : (follow Session.step (.start (tracker.subscribe filter)) handshake).map
        (fun r => (r.2.driver, r.2.cancelled)) = some (.following, false)) :
      ∃ trace session, Session.Run (tracker.subscribe filter) trace session ∧
        session.driver = .following ∧ session.cancelled = false := by
    obtain ⟨history, session, hrun, -, hread⟩ := Occurs.of_reading h
    obtain ⟨trace, htrace⟩ := Session.Steps.of_occurs hrun
    exact ⟨trace, session, htrace, Prod.mk.inj hread⟩
  obtain ⟨history, b, hrun, hevents, houtputs, -, hnone⟩ := asked_runs
  refine ⟨hfollows acme (by decide +kernel), hfollows zeta (by decide +kernel), history, b, hrun, hevents,
    houtputs, by decide, fun p reply => ?_⟩
  simp [Publisher.publishMatching, hnone]

end ClockedBook
end MessageBus
