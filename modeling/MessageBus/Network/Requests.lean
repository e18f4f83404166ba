import MessageBus.Network.Basic
/-!
# Requests and replies on the network

At most one reply socket is bound to an address at a time, and a dialed socket reaches the one that was
bound when it was dialed, or none. Sending and receiving alternate on both sides. An operation that
has to wait is `none`, and changes nothing.
-/
namespace MessageBus.Network
set_option autoImplicit false

/-! ## Opening and closing -/

def bound? (n : Network) (url : String) : Option ReplyId := n.replies.find? (·.url = url)

def bindReply (n : Network) (url : String) : Except SocketError (ReplyId × Network) :=
  match n.bound? url with
  | some _ => .error (.bind url "address in use")
  | none => .ok (n.replies.next, { n with replies := n.replies.add ⟨url, [], none⟩ })

def lose (n : Network) (tickets : List TicketId) : Network :=
  { n with tickets := tickets.foldl (fun t id => t.modify id fun _ => .lost) n.tickets }

def closeReply (n : Network) (id : ReplyId) : Network :=
  match n.replies.get? id with
  | none => n
  | some s => { n.lose (s.queue.map (·.2) ++ s.pending.toList) with replies := n.replies.remove id }

def dial (n : Network) (url : String) : Except SocketError (SocketId × Network) :=
  match n.bound? url with
  | some peer => .ok (n.requests.next, { n with requests := n.requests.add ⟨peer, none⟩ })
  | none => .error (.connect url "no reply socket bound")

def closeRequest (n : Network) (id : SocketId) : Network :=
  match n.requests.get? id with
  | none => n
  | some s =>
    { n with
      requests := n.requests.remove id
      tickets := s.pending.elim n.tickets n.tickets.remove }

/-! ## The requesting side -/

/-- Sends a request; waits while the queue is full. -/
def sendRequest (n : Network) (id : SocketId) (frame : Frame) : Option (Except SocketError Network) :=
  match n.requests.get? id with
  | none => some (.error .closed)
  | some s =>
    if s.pending.isSome then some (.error (.io "send while awaiting a reply"))
    else
      match n.replies.get? s.peer with
      | none => some (.error .closed)
      | some peer =>
        if queueDepth ≤ peer.queue.length then none
        else
          let ticket := n.tickets.next
          some (.ok { n with
            tickets := n.tickets.add .open
            replies := n.replies.modify s.peer fun r => { r with queue := r.queue ++ [(frame, ticket)] }
            requests := n.requests.modify id fun r => { r with pending := some ticket } })

def clearRequest (n : Network) (id : SocketId) (ticket : TicketId) : Network :=
  { n with
    tickets := n.tickets.remove ticket
    requests := n.requests.modify id fun r => { r with pending := none } }

def receiveReply (n : Network) (id : SocketId) : Option (Except SocketError Frame × Network) :=
  match (n.requests.get? id).bind RequestSocket.pending with
  | none => some (.error (.io "recv without a pending request"), n)
  | some ticket =>
    match n.tickets.get? ticket with
    | some (.answered frame) => some (.ok frame, n.clearRequest id ticket)
    | some .lost | none => some (.error .closed, n.clearRequest id ticket)
    | some .open => none

/-! ## The replying side -/

/-- Takes the oldest request, and waits for one. A request that was taken before and is not answered
is lost. -/
def receiveRequest (n : Network) (id : ReplyId) : Option (Except SocketError Frame × Network) :=
  match n.replies.get? id with
  | none => some (.error .closed, n)
  | some s =>
    match s.queue with
    | [] => none
    | (frame, ticket) :: rest =>
      some (.ok frame, { n.lose s.pending.toList with
        replies := n.replies.modify id fun r => { r with queue := rest, pending := some ticket } })

def sendReply (n : Network) (id : ReplyId) (frame : Frame) : Except SocketError Network :=
  match (n.replies.get? id).bind ReplySocket.pending with
  | none => .error (.io "send without a pending request")
  | some ticket =>
    .ok { n with
      tickets := n.tickets.modify ticket fun _ => .answered frame
      replies := n.replies.modify id fun r => { r with pending := none } }

end MessageBus.Network
