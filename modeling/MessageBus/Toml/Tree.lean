import MessageBus.Toml.Basic
/-!
# Tables under construction

Headers and dotted keys add to tables that were named before, within limits: a table may be given one
header of its own, and a dotted key may only extend tables that dotted keys began. A tree keeps for
every table how it came to be; `none` refuses an addition.
-/
namespace MessageBus.Toml
set_option autoImplicit false

/-- A value while the document is read. A table is `implied` until it gets a header or a whole value of
its own, and `dotted` if a dotted key began it. -/
inductive Tree
  | value (v : Toml)
  | table (implied dotted : Bool) (entries : List (String × Tree))
  | tables (elements : List Tree)
deriving Inhabited

namespace Tree

def emptyTable : Tree := .table false false []

/-- The entries with the value of `key` replaced, or with a new entry at the end. -/
def put (key : String) (t : Tree) : List (String × Tree) → List (String × Tree)
  | [] => [(key, t)]
  | (k, u) :: rest => if k = key then (k, t) :: rest else (k, u) :: put key t rest

/-- Changes the table at the end of a path, and begins the tables missing on the way to it. Of an array
of tables the last one is meant. -/
def atPath (dotted : Bool) (change : Tree → Option Tree) : List String → Tree → Option Tree
  | [], t => change t
  | key :: path, .table implied isDotted entries => do
    let child ← match entries.lookup key with
      | none => atPath dotted change path (.table true dotted [])
      | some (.value _) => none
      | some (.tables elements) => do
        let last ← elements.getLast?
        pure (.tables (elements.dropLast ++ [← atPath dotted change path last]))
      | some (.table childImplied childDotted children) =>
        if dotted && !childImplied then none
        else atPath dotted change path (.table childImplied childDotted children)
    return .table implied isDotted (put key child entries)
  | _ :: _, _ => none

/-- Adds an entry under a key that has none. Behind a path of dotted keys stands a dotted table. -/
def addEntry (path : List String) (key : String) (v : Tree) : Tree → Option Tree
  | .table implied dotted entries =>
    if dotted = path.isEmpty || (entries.lookup key).isSome then none
    else some (.table implied dotted (entries ++ [(key, v)]))
  | _ => none

/-- Adds a value under a dotted key. -/
def addValue (key : List String) (v : Toml) (t : Tree) : Option Tree := do
  let last ← key.getLast?
  atPath true (addEntry key.dropLast last (.value v)) key.dropLast t

/-- The table that a header names: a new one, or an implied one that no dotted key began. -/
def openTable (key : String) : Tree → Option Tree
  | .table implied dotted entries =>
    match entries.lookup key with
    | none => some (.table implied dotted (put key emptyTable entries))
    | some (.table true false children) =>
      some (.table implied dotted (put key (.table false false children) entries))
    | some _ => none
  | _ => none

/-- One more table at the end of the array that a header names. -/
def openElement (key : String) : Tree → Option Tree
  | .table implied dotted entries =>
    match entries.lookup key with
    | none => some (.table implied dotted (put key (.tables [emptyTable]) entries))
    | some (.tables elements) =>
      some (.table implied dotted (put key (.tables (elements ++ [emptyTable])) entries))
    | some _ => none
  | _ => none

def addHeader (path : List String) (t : Tree) : Option Tree := do
  let last ← path.getLast?
  atPath false (openTable last) path.dropLast t

def addElementHeader (path : List String) (t : Tree) : Option Tree := do
  let last ← path.getLast?
  atPath false (openElement last) path.dropLast t

/-- Adds a value under a dotted key in the table of the last header. -/
def addUnder (header key : List String) (v : Toml) (t : Tree) : Option Tree :=
  atPath false (addValue key v) header t

mutual

def toToml : Tree → Toml
  | .value v => v
  | .table _ _ entries => .table (entriesToToml entries)
  | .tables elements => .array (elementsToToml elements)

def entriesToToml : List (String × Tree) → List (String × Toml)
  | [] => []
  | (k, t) :: rest => (k, toToml t) :: entriesToToml rest

def elementsToToml : List Tree → List Toml
  | [] => []
  | t :: rest => toToml t :: elementsToToml rest

end

end Tree
end MessageBus.Toml
