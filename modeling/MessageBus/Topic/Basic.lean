import MessageBus.Topic.Error
/-!
# Topics

A hierarchical address of six levels, written as dotted segments. An empty level is not populated. A
topic is written with as many segments as it has populated levels, so its text reads back exactly when
the populated levels come first and hold no dot.
-/
namespace MessageBus
set_option autoImplicit false

structure Topic where
  organization : String
  project : String
  networkId : String
  group : String
  name : String
  method : String
deriving DecidableEq, Repr

namespace Topic

def maxLevel : Nat := 6

def minSegments : Nat := 2

def empty : Topic := ⟨"", "", "", "", "", ""⟩

def fields (t : Topic) : List String :=
  [t.organization, t.project, t.networkId, t.group, t.name, t.method]

/-! ## Levels -/

/-- How many levels are populated, wherever they stand. -/
def level (t : Topic) : Nat := t.fields.countP (fun f => f ≠ "")

/-- The field at a level counted from one. -/
def field? (t : Topic) (level : Nat) : Option String :=
  if level = 0 then none else t.fields[level - 1]?

/-! ## Dotted text -/

/-- Segments with dots between them. -/
def joined (segments : List String) : String :=
  String.ofList (List.intercalate ['.'] (segments.map String.toList))

/-- The first `level` segments; nothing for level 0 or above 6. -/
def renderLevel (t : Topic) (level : Nat) : String :=
  if level = 0 ∨ maxLevel < level then "" else joined (t.fields.take level)

def render (t : Topic) : String := t.renderLevel t.level

/-- A text cut at every dot. -/
def segments : List Char → List (List Char)
  | [] => [[]]
  | c :: rest =>
    if c = '.' then [] :: segments rest
    else match segments rest with
      | [] => [[c]]
      | s :: more => (c :: s) :: more

/-- The topic of two to six segments; levels beyond the last segment stay empty. -/
def ofSegments (segments : List (List Char)) : Topic :=
  let at' (i : Nat) : String := String.ofList (segments.getD i [])
  ⟨at' 0, at' 1, at' 2, at' 3, at' 4, at' 5⟩

def parse (text : String) : Except TopicError Topic :=
  let parts := segments text.toList
  if parts.length < minSegments then .error (.tooShort parts.length)
  else if maxLevel < parts.length then .error (.tooLong parts.length)
  else .ok (ofSegments parts)

/-! ## JSON form -/

/-- The fields by name, from the first level to the last. -/
def members (t : Topic) : List (String × Json) :=
  [("organization", .string t.organization), ("project", .string t.project),
    ("network_id", .string t.networkId), ("group", .string t.group), ("name", .string t.name),
    ("method", .string t.method)]

def toJson (t : Topic) : Json := .object (Keyed.ofList t.members)

def withField? (t : Topic) (key : String) (text : String) : Option Topic :=
  match key with
  | "organization" => some { t with organization := text }
  | "project" => some { t with project := text }
  | "network_id" => some { t with networkId := text }
  | "group" => some { t with group := text }
  | "name" => some { t with name := text }
  | "method" => some { t with method := text }
  | _ => none

/-- Takes one member of an object; members of other names are passed over. -/
def member (t : Topic) (m : String × Json) : Except TopicError Topic :=
  if (t.withField? m.1 "").isNone then .ok t
  else match m.2.asString with
    | .ok text => .ok ((t.withField? m.1 text).getD t)
    | .error e => .error (.mismatch e)

/-- Reads an object keyed by field name; absent fields stay empty. Members are taken in key order. -/
def ofJson (v : Json) : Except TopicError Topic :=
  match v.canonical with
  | .object members => members.foldlM member empty
  | _ => .error .topicNotObject

end Topic
end MessageBus
