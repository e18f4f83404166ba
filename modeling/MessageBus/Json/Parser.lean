import MessageBus.Json.Lexer
import MessageBus.Json.Mismatch
/-!
# Reading JSON values

A value is read by a machine that takes one token at a time. Its state is what may come next
(`Place`) and the containers open around it (`Frame`, innermost first), so the depth of nesting is the
length of a list, and reading a text is a fold over its tokens. At most `maxDepth` containers may be
open at once.

An object that starts with the reserved key is a number in disguise: it has this one member, and the
number is what the member's string writes. Behind another key the reserved one is a key like any other.
-/
namespace MessageBus.Json
set_option autoImplicit false

/-- The containers that may stand around each other. -/
def maxDepth : Nat := 127

/-- An open container with what was read of it before the value being read, latest first. -/
inductive Frame
  | array (before : List Json)
  | object (before : List (String × Json)) (key : String)
deriving DecidableEq

/-- What may come next. -/
inductive Place
  | value
  | firstItem
  | firstKey
  | key (before : List (String × Json))
  | colon (before : List (String × Json)) (key : String)
  /-- The colon behind the reserved key. -/
  | numeralColon
  /-- The string that writes the number. -/
  | numeral
  /-- The end of an object that stands for a number. -/
  | numeralEnd (n : Number)
  | after (v : Json)
deriving DecidableEq

structure Reading where
  place : Place
  stack : List Frame
deriving DecidableEq

def Reading.start : Reading := ⟨.value, []⟩

/-! ## One token -/

/-- A token where a value must start. -/
def Reading.beginValue (stack : List Frame) : Token → Except Fault Reading
  | .null => .ok ⟨.after .null, stack⟩
  | .bool b => .ok ⟨.after (.bool b), stack⟩
  | .number n => .ok ⟨.after (.number n), stack⟩
  | .string s => .ok ⟨.after (.string s), stack⟩
  | .openBracket => if stack.length < maxDepth then .ok ⟨.firstItem, stack⟩ else .error .tooDeep
  | .openBrace => if stack.length < maxDepth then .ok ⟨.firstKey, stack⟩ else .error .tooDeep
  | .closeBracket | .closeBrace | .colon | .comma => .error .valueExpected

/-- A token after a complete value. -/
def Reading.afterValue (v : Json) : List Frame → Token → Except Fault Reading
  | [], _ => .error .trailingCharacters
  | .array before :: stack, .comma => .ok ⟨.value, .array (v :: before) :: stack⟩
  | .array before :: stack, .closeBracket => .ok ⟨.after (.array (v :: before).reverse), stack⟩
  | .array _ :: _, _ => .error .arrayCommaOrEnd
  | .object before key :: stack, .comma => .ok ⟨.key ((key, v) :: before), stack⟩
  | .object before key :: stack, .closeBrace =>
    .ok ⟨.after (.object ((key, v) :: before).reverse), stack⟩
  | .object _ _ :: _, _ => .error .objectCommaOrEnd

/-- A token where a string must write a number. -/
def Reading.numeralString (stack : List Frame) : Token → Except Fault Reading
  | .string s => do return ⟨.numeralEnd (← numeral? s), stack⟩
  | t =>
    match t.front? with
    | some v => .error (.notNumeral v.frontDescription)
    | none => .error .valueExpected

/-- The reading after one more token. -/
def Reading.token (r : Reading) (t : Token) : Except Fault Reading :=
  match r.place with
  | .value =>
    match r.stack, t with
    | .array _ :: _, .closeBracket => .error .trailingComma
    | stack, t => Reading.beginValue stack t
  | .firstItem =>
    match t with
    | .closeBracket => .ok ⟨.after (.array []), r.stack⟩
    | t => Reading.beginValue (.array [] :: r.stack) t
  | .firstKey =>
    match t with
    | .closeBrace => .ok ⟨.after (.object []), r.stack⟩
    | .string key => .ok ⟨if key = numberKey then .numeralColon else .colon [] key, r.stack⟩
    | _ => .error .keyNotString
  | .key before =>
    match t with
    | .string key => .ok ⟨.colon before key, r.stack⟩
    | .closeBrace => .error .trailingComma
    | _ => .error .keyNotString
  | .colon before key =>
    match t with
    | .colon => .ok ⟨.value, .object before key :: r.stack⟩
    | _ => .error .colonExpected
  | .numeralColon =>
    match t with
    | .colon => .ok ⟨.numeral, r.stack⟩
    | _ => .error .colonExpected
  | .numeral => Reading.numeralString r.stack t
  | .numeralEnd n =>
    match t with
    | .closeBrace => .ok ⟨.after (.number n), r.stack⟩
    | .comma => .error .trailingComma
    | _ => .error .trailingCharacters
  | .after v => Reading.afterValue v r.stack t

/-- The fault of a text whose next token is broken: the token's own where one like it may stand. -/
def Reading.fault (r : Reading) (f : Fault) (quoted : Bool) : Fault :=
  match r.place with
  | .value | .firstItem | .numeral => f
  | .firstKey | .key _ => if quoted then f else .keyNotString
  | .colon _ _ | .numeralColon => .colonExpected
  | .numeralEnd _ => .trailingCharacters
  | .after _ =>
    match r.stack with
    | [] => .trailingCharacters
    | .array _ :: _ => .arrayCommaOrEnd
    | .object _ _ :: _ => .objectCommaOrEnd

def Reading.lexeme (r : Reading) : Lexeme → Except Fault Reading
  | .token t => r.token t
  | .fault f quoted => .error (r.fault f quoted)

/-- The value read when the text ends here. -/
def Reading.finish (r : Reading) : Except Fault Json :=
  match r.place, r.stack with
  | .after v, [] => .ok v
  | .after _, .array _ :: _ | .firstItem, _ => .error .endInArray
  | .after _, .object _ _ :: _ | .firstKey, _ | .colon _ _, _ => .error .endInObject
  | .numeralColon, _ | .numeralEnd _, _ => .error .endInObject
  | .value, _ | .key _, _ | .numeral, _ => .error .endInValue

/-! ## A whole text -/

/-- The value read when these lexemes end the text. -/
def ofLexemesFrom (r : Reading) (lexemes : List Lexeme) : Except Fault Json := do
  (← lexemes.foldlM Reading.lexeme r).finish

/-- The value that a list of lexemes writes. -/
def ofLexemes (lexemes : List Lexeme) : Except Fault Json := ofLexemesFrom Reading.start lexemes

def parse (input : List UInt8) : Except Fault Json := ofLexemes (lex input)

def parseText (text : String) : Except Fault Json := parse (Utf8.bytes text)

end MessageBus.Json
