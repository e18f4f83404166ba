import MessageBus.Topic.Basic
/-!
# Topic filters

A filter admits a set of values at every level; an empty list leaves its level unconstrained. The last
level is constrained by methods and events together. The key is one `tag:values;` segment for every
list that is not empty.
-/
namespace MessageBus
set_option autoImplicit false

structure TopicFilter where
  organizations : List String
  projects : List String
  networkIds : List String
  groups : List String
  contracts : List String
  methods : List String
  events : List String
deriving DecidableEq, Repr

namespace TopicFilter

/-- The filter that admits every topic. -/
def empty : TopicFilter := ⟨[], [], [], [], [], [], []⟩

/-- The lists with their tags, in the order of the key. -/
def lists (f : TopicFilter) : List (String × List String) :=
  [("o", f.organizations), ("p", f.projects), ("n", f.networkIds), ("g", f.groups),
    ("s", f.contracts), ("m", f.methods), ("e", f.events)]

def constraints (f : TopicFilter) : List (String × List String) :=
  f.lists.filter fun l => !l.2.isEmpty

def isEmpty (f : TopicFilter) : Bool := f.lists.all fun l => l.2.isEmpty

/-- How many values a level has; the sixth counts methods and events, any other number all lists. -/
def size (f : TopicFilter) (level : Nat) : Nat :=
  match level with
  | 1 => f.organizations.length
  | 2 => f.projects.length
  | 3 => f.networkIds.length
  | 4 => f.groups.length
  | 5 => f.contracts.length
  | 6 => f.methods.length + f.events.length
  | _ => (f.lists.flatMap fun l => l.2).length

/-! ## Matching -/

def admits (values : List String) (field : String) : Bool := values.isEmpty || values.contains field

def accepts (f : TopicFilter) (t : Topic) : Bool :=
  admits f.organizations t.organization && admits f.projects t.project
    && admits f.networkIds t.networkId && admits f.groups t.group && admits f.contracts t.name
    && admits (f.methods ++ f.events) t.method

/-! ## Key -/

def segment (tag : String) (values : List String) : List Char :=
  tag.toList ++ ':' :: List.intercalate [','] (values.map String.toList) ++ [';']

/-- A text for lookup: the non-empty lists with their tags, values in the order given. -/
def key (f : TopicFilter) : String :=
  String.ofList (f.constraints.flatMap fun l => segment l.1 l.2)

/-! ## JSON form -/

/-- The non-empty lists by tag, in the order of the key. -/
def members (f : TopicFilter) : List (String × Json) :=
  f.constraints.map fun l => (l.1, .array (l.2.map .string))

def toJson (f : TopicFilter) : Json := .object (Keyed.ofList f.members)

def withList? (f : TopicFilter) (tag : String) (values : List String) : Option TopicFilter :=
  match tag with
  | "o" => some { f with organizations := values }
  | "p" => some { f with projects := values }
  | "n" => some { f with networkIds := values }
  | "g" => some { f with groups := values }
  | "s" => some { f with contracts := values }
  | "m" => some { f with methods := values }
  | "e" => some { f with events := values }
  | _ => none

/-- Takes one member of an object; members of other tags are passed over. -/
def member (f : TopicFilter) (m : String × Json) : Except TopicError TopicFilter :=
  if (f.withList? m.1 []).isNone then .ok f
  else match m.2.asStrings with
    | .ok values => .ok ((f.withList? m.1 values).getD f)
    | .error e => .error (.mismatch e)

/-- Reads an object keyed by tag; absent lists are empty. Members are taken in key order. -/
def ofJson (v : Json) : Except TopicError TopicFilter :=
  match v.canonical with
  | .object members => members.foldlM member empty
  | _ => .error .filterNotObject

end TopicFilter
end MessageBus
