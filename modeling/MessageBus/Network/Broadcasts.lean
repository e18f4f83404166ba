import MessageBus.Network.Basic
/-!
# Broadcasts on the network

A frame that is sent on an address reaches every source attached to it, in sending order. A channel
holds a limited number of frames; a source that fell farther behind goes on with the oldest one held.
A channel comes into being when it is first used, which takes a capacity of at least one, and it is
never given up.
-/
namespace MessageBus.Network
set_option autoImplicit false

/-- Sees to it that an address has a channel; `none` if channels can hold nothing. -/
def openChannel (n : Network) (url : String) : Option Network :=
  if n.channels.contains url then some n
  else if n.capacity = 0 then none
  else some { n with channels := n.channels.insert url ⟨0, []⟩ }

def connect (n : Network) (url : String) : Option (SourceId × Network) :=
  (n.openChannel url).map fun n =>
    let sent := ((n.channels.get? url).map Channel.sent).getD 0
    (n.sources.next, { n with sources := n.sources.add ⟨url, sent⟩ })

def closeSource (n : Network) (id : SourceId) : Network := { n with sources := n.sources.remove id }

def attached (n : Network) (url : String) : Nat := n.sources.count (·.url = url)

def Channel.push (limit : Nat) (c : Channel) (frame : Frame) : Channel :=
  let frames := c.held ++ [frame]
  ⟨c.sent + 1, frames.drop (frames.length - limit)⟩

/-- Sends a frame; it is lost if no source is attached. -/
def publish (n : Network) (url : String) (frame : Frame) : Network :=
  match n.channels.get? url with
  | none => n
  | some c =>
    if n.attached url = 0 then n
    else { n with channels := n.channels.insert url (c.push n.held frame) }

def Channel.receive (c : Channel) (position : Nat) : Option (Frame × Nat) :=
  let oldest := c.sent - c.held.length
  let position := max position oldest
  (c.held[position - oldest]?).map (·, position + 1)

def receiveBroadcast (n : Network) (id : SourceId) : Option (Frame × Network) := do
  let source ← n.sources.get? id
  let channel ← n.channels.get? source.url
  let (frame, position) ← channel.receive source.position
  return (frame, { n with sources := n.sources.modify id fun s => { s with position := position } })

end MessageBus.Network
