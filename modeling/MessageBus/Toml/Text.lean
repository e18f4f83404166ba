/-!
# TOML text

Blanks, comments, line ends and the four kinds of string. Every reader takes the characters it wants
from the front of the input and returns what follows them; `none` means that the document is refused.
-/
namespace MessageBus.Toml
set_option autoImplicit false

/-- A value read from the front of the input, and the rest; `none` refuses the document. -/
abbrev Reader (α : Type) := List Char → Option (α × List Char)

def isSpace (c : Char) : Bool := c = ' ' || c = '\t'

def skipSpaces (input : List Char) : List Char := input.dropWhile isSpace

/-- What may stand in a comment and, quotes and backslashes apart, in a string: everything but controls
other than the tab. -/
def isPlainChar (c : Char) : Bool := c = '\t' || (0x20 ≤ c.toNat && c.toNat ≠ 0x7F)

def skipComment : List Char → List Char
  | '#' :: rest => rest.dropWhile isPlainChar
  | input => input

def newline? : List Char → Option (List Char)
  | '\n' :: rest => some rest
  | '\r' :: '\n' :: rest => some rest
  | _ => none

/-- The rest after spaces, a comment, and the end of the line or of the document. -/
def lineEnd? (input : List Char) : Option (List Char) :=
  match skipComment (skipSpaces input) with
  | [] => some []
  | rest => newline? rest

/-- Passes over spaces, comments and line ends; `fuel` bounds the number of lines. -/
def skipLinesFrom : Nat → List Char → List Char
  | 0, input => input
  | fuel + 1, input =>
    let rest := skipComment (skipSpaces input)
    match newline? rest with
    | some rest => skipLinesFrom fuel rest
    | none => rest

def skipLines (input : List Char) : List Char := skipLinesFrom input.length input

/-! ## Strings -/

def hexValue? (c : Char) : Option Nat :=
  if '0' ≤ c && c ≤ '9' then some (c.toNat - 48)
  else if 'a' ≤ c && c ≤ 'f' then some (c.toNat - 87)
  else if 'A' ≤ c && c ≤ 'F' then some (c.toNat - 55)
  else none

/-- The character whose code point the next `count` hexadecimal digits write. -/
def codePoint? (count : Nat) (input : List Char) : Option (Char × List Char) := do
  let digits := input.take count
  if digits.length < count then none
  else
    let n ← digits.foldlM (fun n c => do return n * 16 + (← hexValue? c)) 0
    if n.isValidChar then return (Char.ofNat n, input.drop count) else none

/-- What a backslash and the characters after it stand for. -/
def escape? : Reader Char
  | 'b' :: rest => some ('\x08', rest)
  | 't' :: rest => some ('\t', rest)
  | 'n' :: rest => some ('\n', rest)
  | 'f' :: rest => some ('\x0c', rest)
  | 'r' :: rest => some ('\r', rest)
  | '"' :: rest => some ('"', rest)
  | '\\' :: rest => some ('\\', rest)
  | 'u' :: rest => codePoint? 4 rest
  | 'U' :: rest => codePoint? 8 rest
  | _ => none

def consChar (c : Char) (r : Option (List Char × List Char)) : Option (List Char × List Char) :=
  r.map fun p => (c :: p.1, p.2)

/-- The inside of a one-line string with escapes, up to its closing quote. -/
def basicFrom : Nat → Reader (List Char)
  | 0, _ => none
  | _, [] => none
  | fuel + 1, c :: rest =>
    if c = '"' then some ([], rest)
    else if c = '\\' then do
      let (e, rest) ← escape? rest
      consChar e (basicFrom fuel rest)
    else if isPlainChar c then consChar c (basicFrom fuel rest)
    else none

/-- The inside of a one-line string without escapes, up to its closing quote. -/
def literalFrom : Reader (List Char)
  | [] => none
  | c :: rest =>
    if c = '\'' then some ([], rest)
    else if isPlainChar c then consChar c (literalFrom rest)
    else none

/-- The rest after a backslash at the end of a line: blanks and line ends up to the next text. -/
def continuation? (input : List Char) : Option (List Char) := do
  let rest ← newline? (skipSpaces input)
  let isGap (c : Char) : Bool := isSpace c || c = '\n' || c = '\r'
  let rest' := rest.dropWhile isGap
  if loneReturn (rest.takeWhile isGap) then none else return rest'
where
  /-- Whether a carriage return stands without its line feed. -/
  loneReturn : List Char → Bool
    | [] => false
    | '\r' :: '\n' :: rest => loneReturn rest
    | '\r' :: _ => true
    | _ :: rest => loneReturn rest

/-- The inside of a string of several lines that closes with three of `quote`, which may follow one or
two more that belong to the text. -/
def multilineFrom (quote : Char) (escapes : Bool) : Nat → Reader (List Char)
  | 0, _ => none
  | _, [] => none
  | fuel + 1, c :: rest =>
    if c = quote then
      match (c :: rest).takeWhile (· = quote) with
      | run =>
        if run.length < 3 then (multilineFrom quote escapes fuel rest).map fun p => (c :: p.1, p.2)
        else if run.length ≤ 5 then
          some (List.replicate (run.length - 3) quote, (c :: rest).drop run.length)
        else none
    else if escapes && c = '\\' then
      match continuation? rest with
      | some rest => multilineFrom quote escapes fuel rest
      | none => do
        let (e, rest) ← escape? rest
        consChar e (multilineFrom quote escapes fuel rest)
    else match newline? (c :: rest) with
      | some rest => consChar '\n' (multilineFrom quote escapes fuel rest)
      | none => if isPlainChar c then consChar c (multilineFrom quote escapes fuel rest) else none

/-- The inside of a string of several lines; a line end right after the opening does not count. -/
def multiline (quote : Char) (escapes : Bool) : Reader (List Char) := fun input =>
  let input := (newline? input).getD input
  multilineFrom quote escapes (input.length + 1) input

def lineString? : Reader String
  | '"' :: rest => (basicFrom (rest.length + 1) rest).map fun p => (String.ofList p.1, p.2)
  | '\'' :: rest => (literalFrom rest).map fun p => (String.ofList p.1, p.2)
  | _ => none

def string? : Reader String
  | '"' :: '"' :: '"' :: rest => (multiline '"' true rest).map fun p => (String.ofList p.1, p.2)
  | '\'' :: '\'' :: '\'' :: rest => (multiline '\'' false rest).map fun p => (String.ofList p.1, p.2)
  | input => lineString? input

/-! ## Keys -/

def isBareKeyChar (c : Char) : Bool := c.isAlphanum || c = '_' || c = '-'

def simpleKey? : Reader String := fun input =>
  match input.takeWhile isBareKeyChar with
  | [] => lineString? input
  | key => some (String.ofList key, input.dropWhile isBareKeyChar)

/-- A key of one or more parts with dots between them; `fuel` bounds the number of parts. -/
def keyFrom : Nat → Reader (List String)
  | 0, _ => none
  | fuel + 1, input => do
    let (first, rest) ← simpleKey? (skipSpaces input)
    match skipSpaces rest with
    | '.' :: rest => do
      let (more, rest) ← keyFrom fuel rest
      return (first :: more, rest)
    | rest => return ([first], rest)

/-- A dotted key; it may have fewer than eighty parts. -/
def key? : Reader (List String) := keyFrom 79

end MessageBus.Toml
