import MessageBus.Proofs.Network.Traffic
import MessageBus.Proofs.Server.Dispatch
/-!
# A call over the network

One client calls one server over the network, and nothing runs out of time or is cancelled. The parties
take their steps in any order that is possible. `call_is_dispatch`: however they do, the call comes to its
end, and what the user gets is what the router makes of the request where it stands, if messages carry the
parameters both ways. `Stage` lists the states that such a call passes through.
-/
namespace MessageBus
set_option autoImplicit false
open Network (ReplyId TicketId)

theorem TransportConfig.allows_attempt {config : TransportConfig} (h : config.validate = .ok ()) :
    config.maxAttempts ≠ some 0 := by
  intro hm
  unfold validate at h
  split at h
  · cases h
  · split at h
    · cases h
    · cases h

/-- A new client, which is not connected, begins its first attempt by dialing. -/
theorem Call.begins_first {config : TransportConfig} (hv : config.validate = .ok ()) (e : Endpoint)
    (request : Request) : (Call.start request).step false (.new e config) .begin =
      some (.running (.new e config) ⟨request, 1, .dialing⟩, []) := by
  have hallowed : Call.exhausted (.new e config) ⟨request, 0, .checking⟩ = false := by
    refine (Bool.not_eq_true _).mp fun hx => ?_
    obtain ⟨m, hm, hle⟩ := (Call.exhausted_iff ..).mp hx
    exact TransportConfig.allows_attempt hv (Nat.le_zero.mp hle ▸ hm)
  simp only [Call.step, Call.start, Call.begun, hallowed]
  rfl

structure Exchange (σ : Type) where
  network : Network
  caller : Caller
  /-- The reply socket of the server. -/
  listener : ReplyId
  server : Server σ

namespace Exchange
variable {σ : Type}

/-! ## Steps -/

inductive Act
  /-- The caller begins an attempt. -/
  | begins
  /-- The dial, the send or the receive that the caller waits for comes to its end. -/
  | operates
  /-- The server takes the oldest request. -/
  | takes
  /-- The handler of the server is done. -/
  | handles
  /-- The server sends its answer. -/
  | answers
deriving DecidableEq

/-- What a step shows: what the user gets, and what a handler is invoked with. -/
structure Output where
  returned? : Option (Except CallError Reply)
  invoked? : Option Request

def silent : Output := ⟨none, none⟩

def Output.of (out : Caller.Output) : Output :=
  match out.answer? with
  | some (.replied r) => ⟨some r, none⟩
  | _ => silent

/-- A caller becomes another, and the socket that it gave up is closed. -/
def moved (x : Exchange σ) (n : Network) (u : Caller) : Exchange σ :=
  { x with network := n.release x.caller.client.socket u.client.socket, caller := u }

/-- The server takes an event; when it ends, its socket is closed. -/
def served (x : Exchange σ) (n : Network) (e : Server.Event) (invoked? : Option Request) :
    Option (Exchange σ × Output) :=
  (x.server.step false e).map fun s =>
    ({ x with server := s, network := if s.result?.isSome then n.closeReply x.listener else n },
      ⟨none, invoked?⟩)

/-- What an act makes of the system; `none` if it cannot happen now. -/
def step (x : Exchange σ) : Act → Option (Exchange σ × Output)
  | .begins => (x.caller.step (.act .begin)).map fun (u, out) => (x.moved x.network u, .of out)
  | .operates =>
    (Traffic.goesOn x.network x.caller).bind fun (e, n) =>
      (x.caller.step e).map fun (u, out) => (x.moved n u, .of out)
  | .takes =>
    (x.network.receiveRequest x.listener).bind fun
      | (.ok frame, n) => x.served n (.received frame) none
      | (.error e, n) => x.served n (.receiveFailed e) none
  | .handles =>
    match x.server.phase with
    | .handling frame => x.served x.network .handled (x.server.router.invoked? frame)
    | _ => none
  | .answers =>
    match x.server.phase with
    | .answering frame =>
      match x.network.sendReply x.listener frame with
      | .ok n => x.served n .sent none
      | .error e => x.served x.network (.sendFailed e) none
    | _ => none

abbrev Deed (σ : Type) := Occurrence (Exchange σ) Act Output

def returned (history : List (Deed σ)) : List (Except CallError Reply) :=
  history.filterMap fun o => o.output.returned?

def invoked (history : List (Deed σ)) : List Request := history.filterMap fun o => o.output.invoked?

/-- Who calls whom, and with what. -/
structure Setup (σ : Type) where
  listener : ReplyId
  router : Router σ
  state : σ
  endpoint : Endpoint
  config : TransportConfig
  request : Request

namespace Setup
variable (c : Setup σ)

/-- A new client was asked for the call, and the server waits. -/
def start (network : Network) : Exchange σ :=
  ⟨network, ⟨.new c.endpoint c.config, .calling (.start c.request) none⟩, c.listener,
    .start c.router c.state⟩

/-- What the router makes of the request where it stands. -/
def outcome : σ × Reply := c.router.dispatch c.state c.request

/-- What the user is to get. -/
def result : Except CallError Reply :=
  if c.outcome.2.isOk then .ok c.outcome.2
  else .error (.application c.endpoint.name c.request.command c.outcome.2.message)

/-- What handlers are to be invoked with. -/
def invocations : List Request :=
  if c.router.handlers.contains c.request.command then [c.request] else []

end Setup

/-! ## Stages -/

/-- The reply socket of the server, with what waits in its queue and what it took. -/
def Listens (c : Setup σ) (n : Network) (queue : List (Frame × TicketId)) (pending : Option TicketId) :
    Prop :=
  n.replies.get? c.listener = some ⟨c.endpoint.url, queue, pending⟩

/-- The client has sent its request and waits for the reply. -/
structure Awaits (c : Setup σ) (n : Network) (client : Client) (t : TicketId) (ticket : Network.Ticket) :
    Prop where
  endpoint : client.endpoint = c.endpoint
  socket : ∃ id, client.socket = some id ∧ n.requests.get? id = some ⟨c.listener, some t⟩
  ticket : n.tickets.get? t = some ticket

/-- The states of a call, by the number of steps that were taken; what handlers were invoked with, and what
the user got. -/
inductive Stage (c : Setup σ) :
    Nat → List Request → List (Except CallError Reply) → Exchange σ → Prop
  | asked {n : Network} (hb : n.bound? c.endpoint.url = some c.listener) (hl : Listens c n [] none) :
      Stage c 0 [] [] (c.start n)
  | dialing {n : Network} (hb : n.bound? c.endpoint.url = some c.listener) (hl : Listens c n [] none) :
      Stage c 1 [] []
        ⟨n, ⟨.new c.endpoint c.config, .calling ⟨c.request, 1, .dialing⟩ none⟩, c.listener,
          .start c.router c.state⟩
  | sending {n : Network} {client : Client} {id : SocketId} (hc : client.endpoint = c.endpoint)
      (hs : client.socket = some id) (hid : n.requests.get? id = some ⟨c.listener, none⟩)
      (hl : Listens c n [] none) :
      Stage c 2 [] []
        ⟨n, ⟨client, .calling ⟨c.request, 1, .sending⟩ none⟩, c.listener, .start c.router c.state⟩
  | queued {n : Network} {client : Client} {t : TicketId} (h : Awaits c n client t .open)
      (hl : Listens c n [(c.request.encode, t)] none) :
      Stage c 3 [] []
        ⟨n, ⟨client, .calling ⟨c.request, 1, .receiving⟩ none⟩, c.listener, .start c.router c.state⟩
  | handling {n : Network} {client : Client} {t : TicketId} (h : Awaits c n client t .open)
      (hl : Listens c n [] (some t)) :
      Stage c 4 [] []
        ⟨n, ⟨client, .calling ⟨c.request, 1, .receiving⟩ none⟩, c.listener,
          ⟨c.router, c.state, 0, .handling c.request.encode⟩⟩
  | answering {n : Network} {client : Client} {t : TicketId} (h : Awaits c n client t .open)
      (hl : Listens c n [] (some t)) :
      Stage c 5 c.invocations []
        ⟨n, ⟨client, .calling ⟨c.request, 1, .receiving⟩ none⟩, c.listener,
          ⟨c.router, c.outcome.1, 0, .answering c.outcome.2.encode⟩⟩
  | answered {n : Network} {client : Client} {t : TicketId}
      (h : Awaits c n client t (.answered c.outcome.2.encode)) (hl : Listens c n [] none) :
      Stage c 6 c.invocations []
        ⟨n, ⟨client, .calling ⟨c.request, 1, .receiving⟩ none⟩, c.listener,
          ⟨c.router, c.outcome.1, 1, .waiting⟩⟩
  | settled {n : Network} {client : Client} (hl : Listens c n [] none) :
      Stage c 7 c.invocations [c.result]
        ⟨n, ⟨client, .idle⟩, c.listener, ⟨c.router, c.outcome.1, 1, .waiting⟩⟩

/-! ## One step -/

section Steps
variable {c : Setup σ} {n : Network} {client : Client} {t : TicketId}

/-- One act is possible, and it leads to the next stage. -/
def GoesOn (c : Setup σ) (k : Nat) (invs : List Request) (rets : List (Except CallError Reply))
    (x : Exchange σ) : Prop :=
  ∃ act x' out, x.step act = some (x', out) ∧ (∀ other, other ≠ act → x.step other = none) ∧
    Stage c (k + 1) (invs ++ out.invoked?.toList) (rets ++ out.returned?.toList) x'

theorem takes_none {x : Exchange σ} (hx : x.listener = c.listener) {pending : Option TicketId}
    (hl : Listens c x.network [] pending) : x.step .takes = none := by
  rw [step, hx, Network.receiveRequest_of_empty hl]
  rfl

/-- A caller that waits for its reply waits as long as there is none. -/
theorem operates_none {server : Server σ} (h : Awaits c n client t .open) :
    Exchange.step ⟨n, ⟨client, .calling ⟨c.request, 1, .receiving⟩ none⟩, c.listener, server⟩
      .operates = none := by
  obtain ⟨id, hs, hid⟩ := h.socket
  have hwait : Traffic.goesOn n ⟨client, .calling ⟨c.request, 1, .receiving⟩ none⟩ = none := by
    simp only [Traffic.goesOn, Network.operate, Network.receiveFor, hs, Option.bind_some,
      Network.receiveReply_of_open hid h.ticket]
    rfl
  simp only [step, hwait, Option.bind_none]

theorem goesOn_asked (hv : c.config.validate = .ok ()) (hb : n.bound? c.endpoint.url = some c.listener)
    (hl : Listens c n [] none) : GoesOn c 0 [] [] (c.start n) := by
  refine ⟨.begins, _, silent, ?_, fun other hne => ?_, .dialing hb hl⟩
  · simp only [step, Setup.start, Caller.step, Option.getD_none, Call.begins_first hv c.endpoint c.request]
    rfl
  · -- The caller waits for nothing yet, and the server for a request.
    cases other with
    | begins => exact absurd rfl hne
    | takes => exact takes_none rfl hl
    | _ => rfl

theorem goesOn_dialing (hb : n.bound? c.endpoint.url = some c.listener) (hl : Listens c n [] none) :
    GoesOn c 1 [] []
      ⟨n, ⟨.new c.endpoint c.config, .calling ⟨c.request, 1, .dialing⟩ none⟩, c.listener,
        .start c.router c.state⟩ := by
  have hgo : Traffic.goesOn n ⟨.new c.endpoint c.config, .calling ⟨c.request, 1, .dialing⟩ none⟩ =
      some (.act (.dialed n.requests.next), { n with requests := n.requests.add ⟨c.listener, none⟩ }) := by
    simp only [Traffic.goesOn, Network.operate]
    rw [show (Client.new c.endpoint c.config).endpoint.url = c.endpoint.url from rfl,
      Network.dial_of_bound hb]
    rfl
  have hid : (n.requests.add ⟨c.listener, none⟩).get? n.requests.next =
      some ⟨c.listener, none⟩ := by
    rw [Pool.get?_add, if_pos rfl]
  refine ⟨.operates, ⟨{ n with requests := n.requests.add ⟨c.listener, none⟩ },
    ⟨((Client.new c.endpoint c.config).install n.requests.next).1.countSend, _⟩, _, _⟩, silent,
    ?_, fun other hne => ?_, .sending rfl rfl hid hl⟩
  · simp only [step, hgo, Option.bind_some]
    rfl
  · cases other with
    | operates => exact absurd rfl hne
    | takes => exact takes_none rfl hl
    | _ => rfl

theorem goesOn_sending {id : SocketId} (hc : client.endpoint = c.endpoint) (hs : client.socket = some id)
    (hid : n.requests.get? id = some ⟨c.listener, none⟩) (hl : Listens c n [] none) :
    GoesOn c 2 [] []
      ⟨n, ⟨client, .calling ⟨c.request, 1, .sending⟩ none⟩, c.listener, .start c.router c.state⟩ := by
  let sent : Network := { n with
    tickets := n.tickets.add .open
    replies := n.replies.modify c.listener fun r =>
      { r with queue := r.queue ++ [(c.request.encode, n.tickets.next)] }
    requests := n.requests.modify id fun r => { r with pending := some n.tickets.next } }
  have hgo : Traffic.goesOn n ⟨client, .calling ⟨c.request, 1, .sending⟩ none⟩ =
      some (.act .sent, sent) := by
    simp only [Traffic.goesOn, Network.operate, Network.sendFor, hs, Option.bind_some,
      Network.sendRequest_of_free hid hl (Nat.zero_lt_succ _)]
    rfl
  have hawaits : Awaits c sent client n.tickets.next .open :=
    ⟨hc, ⟨id, hs, by rw [Pool.get?_modify, if_pos rfl, hid]; rfl⟩, by rw [Pool.get?_add, if_pos rfl]⟩
  have hlistens : Listens c sent [(c.request.encode, n.tickets.next)] none := by
    rw [Listens, Pool.get?_modify, if_pos rfl, hl]
    rfl
  refine ⟨.operates, ⟨sent, ⟨client, _⟩, _, _⟩, silent, ?_, fun other hne => ?_, .queued hawaits hlistens⟩
  · simp only [step, hgo, Option.bind_some, Caller.step, Call.step, Call.running, Option.map_some,
      Caller.progressed, moved, Network.release_self]
    rfl
  · cases other with
    | operates => exact absurd rfl hne
    | takes => exact takes_none rfl hl
    | _ => rfl

theorem goesOn_queued (h : Awaits c n client t .open) (hl : Listens c n [(c.request.encode, t)] none) :
    GoesOn c 3 [] []
      ⟨n, ⟨client, .calling ⟨c.request, 1, .receiving⟩ none⟩, c.listener, .start c.router c.state⟩ := by
  let taken : Network := { n with
    replies := n.replies.modify c.listener fun r => { r with queue := [], pending := some t } }
  have hawaits : Awaits c taken client t .open := ⟨h.endpoint, h.socket, h.ticket⟩
  have hlistens : Listens c taken [] (some t) := by
    rw [Listens, Pool.get?_modify, if_pos rfl, hl]
    rfl
  refine ⟨.takes, _, silent, ?_, fun other hne => ?_, .handling hawaits hlistens⟩
  · simp only [step, Network.receiveRequest_of_queue hl, Option.bind_some]
    rfl
  · cases other with
    | takes => exact absurd rfl hne
    | operates => exact operates_none h
    | _ => rfl

theorem goesOn_handling (hd : c.request.params.Carried) (h : Awaits c n client t .open)
    (hl : Listens c n [] (some t)) :
    GoesOn c 4 [] []
      ⟨n, ⟨client, .calling ⟨c.request, 1, .receiving⟩ none⟩, c.listener,
        ⟨c.router, c.state, 0, .handling c.request.encode⟩⟩ := by
  have hinvoked : (c.router.invoked? c.request.encode).toList = c.invocations := by
    rw [Router.invoked?_encode _ hd, Setup.invocations]
    split <;> rfl
  have hserve := Server.handled_encode (s := ⟨c.router, c.state, 0, .handling c.request.encode⟩) rfl hd false
  have hstage := Stage.answering h hl
  rw [← hinvoked] at hstage
  refine ⟨.handles, _, ⟨none, c.router.invoked? c.request.encode⟩, ?_, fun other hne => ?_, hstage⟩
  · simp only [step, served, hserve, Option.map_some]
    rfl
  · cases other with
    | handles => exact absurd rfl hne
    | takes => exact takes_none rfl hl
    | operates => exact operates_none h
    | _ => rfl

theorem goesOn_answering (h : Awaits c n client t .open) (hl : Listens c n [] (some t)) :
    GoesOn c 5 c.invocations []
      ⟨n, ⟨client, .calling ⟨c.request, 1, .receiving⟩ none⟩, c.listener,
        ⟨c.router, c.outcome.1, 0, .answering c.outcome.2.encode⟩⟩ := by
  let answered : Network := { n with
    tickets := n.tickets.modify t fun _ => .answered c.outcome.2.encode
    replies := n.replies.modify c.listener fun r => { r with pending := none } }
  have hawaits : Awaits c answered client t (.answered c.outcome.2.encode) :=
    ⟨h.endpoint, h.socket, by rw [Pool.get?_modify, if_pos rfl, h.ticket]; rfl⟩
  have hlistens : Listens c answered [] none := by
    rw [Listens, Pool.get?_modify, if_pos rfl, hl]
    rfl
  have hstage := Stage.answered hawaits hlistens
  rw [← List.append_nil c.invocations] at hstage
  refine ⟨.answers, _, silent, ?_, fun other hne => ?_, hstage⟩
  · simp only [step, Network.sendReply_of_pending hl]
    rfl
  · cases other with
    | answers => exact absurd rfl hne
    | takes => exact takes_none rfl hl
    | operates => exact operates_none h
    | _ => rfl

theorem answered_result (he : client.endpoint = c.endpoint) (hr : c.outcome.2.params.Carried) :
    ∃ ms, Call.answered client ⟨c.request, 1, .receiving⟩ c.outcome.2.encode =
      (.finished client c.result, ms) := by
  have hread : Call.verdict client c.request c.outcome.2.encode = c.result := by
    rw [Call.verdict, Reply.decode_carried hr, Client.service, he]
    rfl
  exact ⟨_, Prod.ext ((Call.answered_fst ..).trans (congrArg _ hread)) rfl⟩

theorem goesOn_answered (hr : c.outcome.2.params.Carried)
    (h : Awaits c n client t (.answered c.outcome.2.encode)) (hl : Listens c n [] none) :
    GoesOn c 6 c.invocations []
      ⟨n, ⟨client, .calling ⟨c.request, 1, .receiving⟩ none⟩, c.listener,
        ⟨c.router, c.outcome.1, 1, .waiting⟩⟩ := by
  obtain ⟨id, hs, hid⟩ := h.socket
  have hgo : Traffic.goesOn n ⟨client, .calling ⟨c.request, 1, .receiving⟩ none⟩ =
      some (.act (.received c.outcome.2.encode), n.clearRequest id t) := by
    simp only [Traffic.goesOn, Network.operate, Network.receiveFor, hs, Option.bind_some,
      Network.receiveReply_of_answered hid h.ticket]
    rfl
  obtain ⟨ms, hanswered⟩ := answered_result h.endpoint hr
  have hstage : Stage c 7 c.invocations [c.result] ⟨n.clearRequest id t, ⟨client, .idle⟩, c.listener,
      ⟨c.router, c.outcome.1, 1, .waiting⟩⟩ := .settled hl
  rw [← List.append_nil c.invocations] at hstage
  refine ⟨.operates, _, ⟨some c.result, none⟩, ?_, fun other hne => ?_, hstage⟩
  · simp only [step, hgo, Option.bind_some, Caller.step, Call.step, hanswered, Option.map_some,
      Caller.progressed, moved, Network.release_self]
    rfl
  · cases other with
    | operates => exact absurd rfl hne
    | takes => exact takes_none rfl hl
    | _ => rfl

theorem settled_stuck (hl : Listens c n [] none) (act : Act) :
    Exchange.step ⟨n, ⟨client, .idle⟩, c.listener, ⟨c.router, c.outcome.1, 1, .waiting⟩⟩ act = none := by
  cases act with
  | takes => exact takes_none rfl hl
  | _ => rfl

/-- What handlers answer with comes back in one piece. -/
theorem Setup.carried_outcome (hr : ∀ handler, c.router.handlers.get? c.request.command = some handler →
    (handler c.state c.request).2.params.Carried) : c.outcome.2.params.Carried := by
  cases hh : c.router.handlers.get? c.request.command with
  | some handler =>
    rw [outcome, Router.dispatch_of_handler hh]
    exact hr handler hh
  | none =>
    rw [outcome, Router.dispatch, hh]
    exact Params.carried_empty

theorem Stage.goesOn {k : Nat} {invs : List Request} {rets : List (Except CallError Reply)}
    {x : Exchange σ} (hv : c.config.validate = .ok ()) (hd : c.request.params.Carried)
    (hr : c.outcome.2.params.Carried) (h : Stage c k invs rets x) (hk : k ≠ 7) :
    GoesOn c k invs rets x := by
  cases h with
  | asked hb hl => exact goesOn_asked hv hb hl
  | dialing hb hl => exact goesOn_dialing hb hl
  | sending hc hs hid hl => exact goesOn_sending hc hs hid hl
  | queued h hl => exact goesOn_queued h hl
  | handling h hl => exact goesOn_handling hd h hl
  | answering h hl => exact goesOn_answering h hl
  | answered h hl => exact goesOn_answered hr h hl
  | settled => exact absurd rfl hk

theorem Stage.stuck {invs : List Request} {rets : List (Except CallError Reply)} {x : Exchange σ}
    (h : Stage c 7 invs rets x) (act : Act) : x.step act = none := by
  cases h with
  | settled hl => exact settled_stuck hl act

/-- Nothing else is shown on the way, and all of it at the end. -/
theorem Stage.shown {k : Nat} {invs : List Request} {rets : List (Except CallError Reply)}
    {x : Exchange σ} (h : Stage c k invs rets x) :
    k ≤ 7 ∧ rets <+: [c.result] ∧ invs <+: c.invocations ∧
      (k = 7 → rets = [c.result] ∧ invs = c.invocations ∧ x.server.state = c.outcome.1) := by
  cases h with
  | settled => exact ⟨Nat.le_refl 7, List.prefix_rfl, List.prefix_rfl, fun _ => ⟨rfl, rfl, rfl⟩⟩
  | answering | answered =>
    exact ⟨by decide, List.nil_prefix, List.prefix_rfl, fun hk => absurd hk (by decide)⟩
  | _ => exact ⟨by decide, List.nil_prefix, List.nil_prefix, fun hk => absurd hk (by decide)⟩

end Steps

/-! ## Runs -/

section Runs
variable {c : Setup σ} {n network : Network} {history : List (Deed σ)} {x : Exchange σ}

/-- What happened to an exchange since its call was asked for. -/
def Run (c : Setup σ) (network : Network) : List (Deed σ) → Exchange σ → Prop :=
  Occurs step (c.start network)

theorem Run.stage (hb : n.bindReply c.endpoint.url = .ok (c.listener, network))
    (hv : c.config.validate = .ok ()) (hd : c.request.params.Carried)
    (hr : c.outcome.2.params.Carried) (h : Run c network history x) :
    Stage c history.length (invoked history) (returned history) x := by
  induction h with
  | nothing =>
    obtain ⟨hbound, hlistens⟩ := Network.bindReply_ok hb
    exact .asked hbound hlistens
  | @next history s s' act out _ hs ih =>
    -- The act was the only one that was possible, and after the seventh there is none.
    by_cases hk : history.length = 7
    · rw [hk] at ih
      rw [ih.stuck] at hs
      cases hs
    · obtain ⟨only, x', out', hstep, hother, hstage⟩ := ih.goesOn hv hd hr hk
      obtain rfl : act = only := Decidable.byContradiction fun hne => by
        rw [hother act hne] at hs
        cases hs
      rw [hstep] at hs
      cases hs
      rw [List.length_append, invoked, returned, filterMap_concat, filterMap_concat]
      exact hstage

/-- However the parties take turns, a call comes to its end, after seven steps at most, and where nothing
more can happen the user has got what the router makes of the request where it stands: its reply, or if
that is a rejection the error that says so. A handler was invoked once, with the request that was asked, or
not at all if none knows the command. -/
theorem call_is_dispatch (c : Setup σ) {n network : Network}
    (hb : n.bindReply c.endpoint.url = .ok (c.listener, network)) (hv : c.config.validate = .ok ())
    (hd : c.request.params.Carried)
    (hr : ∀ handler, c.router.handlers.get? c.request.command = some handler →
      (handler c.state c.request).2.params.Carried)
    {history : List (Deed σ)} {x : Exchange σ} (h : Run c network history x) :
    history.length ≤ 7 ∧ returned history <+: [c.result] ∧ invoked history <+: c.invocations ∧
      ((∀ act, x.step act = none) → returned history = [c.result] ∧ invoked history = c.invocations ∧
        x.server.state = c.outcome.1) := by
  have hr := Setup.carried_outcome hr
  have hstage := Run.stage hb hv hd hr h
  obtain ⟨hlength, hreturned, hinvoked, hall⟩ := hstage.shown
  refine ⟨hlength, hreturned, hinvoked, fun hstuck => hall (Decidable.byContradiction fun hk => ?_)⟩
  obtain ⟨act, x', out, hstep, -⟩ := hstage.goesOn hv hd hr hk
  cases (hstuck act).symm.trans hstep

/-- A service that counts its answers, asked for the fifth one. -/
def counting : Setup Nat where
  listener := 0
  router := Router.empty.register "count" fun answers request => (answers + 1, .ok request.params)
  state := 4
  endpoint := ⟨"counter", "memory", 4000, none, none⟩
  config := .default
  request := ⟨"count", Params.empty.insert "unit" (.string "answers")⟩

theorem call_is_dispatch_counting :
    ∃ network history x, (Network.new 16).bindReply counting.endpoint.url = .ok (0, network) ∧
      Run counting network history x ∧ (∀ act, x.step act = none) ∧
      returned history = [.ok (.ok counting.request.params)] ∧ invoked history = [counting.request] ∧
      x.server.state = 5 := by
  let network : Network :=
    { Network.new 16 with replies := Pool.empty.add ⟨counting.endpoint.url, [], none⟩ }
  have hbind : (Network.new 16).bindReply counting.endpoint.url = .ok (0, network) := rfl
  have hread : (follow step (counting.start network)
      [.begins, .operates, .operates, .takes, .handles, .answers, .operates]).map
      (fun r => [Act.begins, .operates, .takes, .handles, .answers].all fun act => (r.2.step act).isNone) =
      some true := by decide +kernel
  obtain ⟨history, x, hrun, -, hread⟩ := Occurs.of_reading hread
  have hstuck (act : Act) : x.step act = none := by
    have hnone := List.all_eq_true.mp hread act (by cases act <;> decide)
    simpa using hnone
  have hrequest : counting.request.params.Carried := ⟨by decide, by decide⟩
  have hreply : ∀ handler, counting.router.handlers.get? counting.request.command = some handler →
      (handler counting.state counting.request).2.params.Carried := by
    intro handler hh
    cases hh
    exact hrequest
  obtain ⟨-, -, -, hend⟩ := call_is_dispatch counting hbind rfl hrequest hreply hrun
  obtain ⟨hreturned, hinvoked, hstate⟩ := hend hstuck
  exact ⟨network, history, x, hbind, hrun, hstuck, hreturned, hinvoked, hstate⟩

/-- The same service, asked with the reserved key first in the parameters. -/
def reserved : Setup Nat :=
  { counting with request := ⟨"count", .ofMembers [(Json.numberKey, .string "5")]⟩ }

/-- The server reads a number where the parameters should be, and no handler is invoked. -/
theorem reserved_call_refused :
    reserved.request.params.depth ≤ 126 ∧ reserved.result = .ok (.ok reserved.request.params) ∧
      ∃ network history x, (Network.new 16).bindReply reserved.endpoint.url = .ok (0, network) ∧
        Run reserved network history x ∧
        returned history = [.error (.application "counter" "count"
          "invalid request: envelope field 'params' must be an object")] ∧
        invoked history = [] := by
  let network : Network :=
    { Network.new 16 with replies := Pool.empty.add ⟨reserved.endpoint.url, [], none⟩ }
  have hread : (follow step (reserved.start network)
      [.begins, .operates, .operates, .takes, .handles, .answers, .operates]).map
      (fun r => (returned r.1, invoked r.1)) =
      some ([.error (.application "counter" "count"
        "invalid request: envelope field 'params' must be an object")], []) := by decide +kernel
  obtain ⟨history, x, hrun, -, hread⟩ := Occurs.of_reading hread
  obtain ⟨hreturned, hinvoked⟩ := Prod.mk.inj hread
  exact ⟨by decide, rfl, network, history, x, rfl, hrun, hreturned, hinvoked⟩

end Runs
end Exchange
end MessageBus
