import MessageBus.Toml.Scalar
import MessageBus.Toml.Tree
/-!
# Reading TOML documents

A document is a list of lines: blank lines and comments, entries `key = value`, and headers, which say
into which table the entries after them go. Fewer than eighty arrays and inline tables may stand
around each other.
-/
namespace MessageBus.Toml
set_option autoImplicit false

/-! ## Values -/

mutual

/-- A value inside at most `depth` containers more; `fuel` bounds the values and separators. -/
def valueFrom : (fuel depth : Nat) → Reader Toml
  | 0, _, _ => none
  | _, _, [] => none
  | fuel + 1, depth, c :: rest =>
    if c = '[' then
      match depth with
      | 0 => none
      | depth + 1 => (itemsFrom fuel depth rest).map fun p => (.array p.1, p.2)
    else if c = '\x7b' then
      match depth with
      | 0 => none
      | depth + 1 =>
        match skipSpaces rest with
        | '\x7d' :: rest => some (.table [], rest)
        | rest => (pairsFrom fuel depth Tree.emptyTable rest).map fun p => (p.1.toToml, p.2)
    else scalar? (c :: rest)

/-- The items of an array up to its closing bracket; a comma may follow the last one. -/
def itemsFrom : (fuel depth : Nat) → Reader (List Toml)
  | 0, _, _ => none
  | fuel + 1, depth, input =>
    match skipLines input with
    | ']' :: rest => some ([], rest)
    | input => do
      let (v, rest) ← valueFrom fuel depth input
      match skipLines rest with
      | ',' :: rest => do
        let (more, rest) ← itemsFrom fuel depth rest
        return (v :: more, rest)
      | ']' :: rest => return ([v], rest)
      | _ => none

/-- The entries of an inline table up to its closing brace, added to `t`. -/
def pairsFrom : (fuel depth : Nat) → Tree → Reader Tree
  | 0, _, _, _ => none
  | fuel + 1, depth, t, input => do
    let (key, rest) ← key? input
    let rest ← expect? '=' rest
    let (v, rest) ← valueFrom fuel depth (skipSpaces rest)
    let t ← t.addValue key v
    match skipSpaces rest with
    | ',' :: rest => pairsFrom fuel depth t rest
    | '\x7d' :: rest => return (t, rest)
    | _ => none

end

/-- A value; every character costs at most two calls. -/
def value? : Reader Toml := fun input => valueFrom (2 * input.length + 2) 79 input

/-! ## Lines -/

/-- The document so far, and the header under which entries go. -/
structure Draft where
  tree : Tree
  header : List String

/-- A header line after its first bracket. -/
def Draft.header? (d : Draft) : List Char → Option (Draft × List Char)
  | '[' :: rest => do
    let (path, rest) ← key? rest
    let rest ← expect? ']' rest
    let rest ← expect? ']' rest
    return (⟨← d.tree.addElementHeader path, path⟩, ← lineEnd? rest)
  | rest => do
    let (path, rest) ← key? rest
    let rest ← expect? ']' rest
    return (⟨← d.tree.addHeader path, path⟩, ← lineEnd? rest)

/-- A line `key = value`. -/
def Draft.entry? (d : Draft) (input : List Char) : Option (Draft × List Char) := do
  let (key, rest) ← key? input
  let rest ← expect? '=' rest
  let (v, rest) ← value? (skipSpaces rest)
  return (⟨← d.tree.addUnder d.header key v, d.header⟩, ← lineEnd? rest)

/-- Reads line after line; `fuel` bounds their number. -/
def linesFrom : Nat → Draft → List Char → Option Draft
  | 0, _, _ => none
  | fuel + 1, d, input =>
    match skipSpaces input with
    | [] => some d
    | '[' :: rest => do
      let (d, rest) ← d.header? rest
      linesFrom fuel d rest
    | c :: rest =>
      if c = '#' || c = '\n' || c = '\r' then do linesFrom fuel d (← lineEnd? (c :: rest))
      else do
        let (d, rest) ← d.entry? (c :: rest)
        linesFrom fuel d rest

/-- Reads a document; a byte order mark in front of it is passed over. -/
def parse? (text : String) : Option Toml :=
  let input := match text.toList with
    | '\ufeff' :: rest => rest
    | input => input
  (linesFrom (input.length + 1) ⟨Tree.emptyTable, []⟩ input).map fun d => d.tree.toToml

end MessageBus.Toml
