import MessageBus.Params
/-!
# Envelopes

The three messages of the bus and their bytes. A request is an object of `command` and `params`, a
reply an object of `status`, `message` and `params`, in that order. A broadcast is its topic followed
by a reply, with nothing between them: the reply starts at the first brace, which is why no topic may
hold one.
-/
namespace MessageBus
set_option autoImplicit false

/-- The bytes of one message on a socket. -/
abbrev Frame := List UInt8

/-! ## Requests -/

/-- A command sent to a service. -/
structure Request where
  command : String
  params : Params
deriving DecidableEq

namespace Request

def toJson (r : Request) : Json :=
  .object [("command", .string r.command), ("params", r.params.toJson)]

def encode (r : Request) : Frame := r.toJson.bytes

end Request

/-! ## Replies -/

inductive Status
  | ok
  | fail
deriving DecidableEq, Repr

namespace Status

/-- Only `ok`, in any ASCII case, is success. -/
def ofText (text : String) : Status :=
  if text.toList.map Char.toLower = ['o', 'k'] then .ok else .fail

def text : Status → String
  | .ok => "ok"
  | .fail => "fail"

end Status

/-- The answer to a request, also what a broadcast carries. -/
structure Reply where
  status : Status
  message : String
  params : Params
deriving DecidableEq

namespace Reply

def ok (params : Params) : Reply := ⟨.ok, "", params⟩

/-- A rejection with its reason. -/
def fail (message : String) : Reply := ⟨.fail, message, .empty⟩

def isOk (r : Reply) : Bool := r.status = .ok

def toJson (r : Reply) : Json :=
  .object [("status", .string r.status.text), ("message", .string r.message),
    ("params", r.params.toJson)]

def encode (r : Reply) : Frame := r.toJson.bytes

end Reply

/-! ## Broadcasts -/

/-- A reply published under a topic. -/
structure Broadcast where
  topic : String
  reply : Reply
  brace_free : '\x7b' ∉ topic.toList

namespace Broadcast

instance : DecidableEq Broadcast := fun a b =>
  if h : a.topic = b.topic ∧ a.reply = b.reply then
    isTrue (by cases a; cases b; cases h.1; cases h.2; rfl)
  else isFalse fun e => h (e ▸ ⟨rfl, rfl⟩)

def isOk (b : Broadcast) : Bool := b.reply.isOk

def encode (b : Broadcast) : Frame := Utf8.bytes b.topic ++ b.reply.encode

/-- A broadcast on one line: topic, tab, the reply's JSON text. -/
def render (b : Broadcast) : String :=
  String.ofList (b.topic.toList ++ '\t' :: b.reply.toJson.text)

end Broadcast

/-! ## Any of the three -/

inductive Envelope
  | request (r : Request)
  | reply (r : Reply)
  | broadcast (b : Broadcast)
deriving DecidableEq

def Envelope.encode : Envelope → Frame
  | .request r => r.encode
  | .reply r => r.encode
  | .broadcast b => b.encode

end MessageBus
