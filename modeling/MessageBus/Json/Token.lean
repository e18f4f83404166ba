import MessageBus.Json.Basic
import MessageBus.Text.Utf8
/-!
# JSON tokens

The tokens of a JSON text with their compact spelling, and the tokens of a value. The text of a value
is the spelling of its tokens, one after another, with nothing between them.
-/
namespace MessageBus.Json
set_option autoImplicit false

inductive Token
  | openBrace
  | closeBrace
  | openBracket
  | closeBracket
  | colon
  | comma
  | null
  | bool (b : Bool)
  | number (n : Number)
  | string (s : String)
deriving DecidableEq

/-- The value that a token starts; of a container nothing is known yet. -/
def Token.front? : Token → Option Json
  | .null => some .null
  | .bool b => some (.bool b)
  | .number n => some (.number n)
  | .string s => some (.string s)
  | .openBracket => some (.array [])
  | .openBrace => some (.object [])
  | .closeBrace | .closeBracket | .colon | .comma => none

/-! ## Spelling -/

/-- A lower-case hexadecimal digit. -/
def hexChar (n : Nat) : Char := if n < 10 then Char.ofNat (48 + n) else Char.ofNat (87 + n)

/-- The short escapes: the letter after the backslash, by the character it stands for. -/
def shortEscape? : Char → Option Char
  | '"' => some '"'
  | '\\' => some '\\'
  | '\x08' => some 'b'
  | '\x0c' => some 'f'
  | '\n' => some 'n'
  | '\r' => some 'r'
  | '\t' => some 't'
  | _ => none

/-- A character inside quotes: quotes, backslashes and controls are escaped, all else stands as it is. -/
def escapedChar (c : Char) : List Char :=
  match shortEscape? c with
  | some e => ['\\', e]
  | none =>
    if c.toNat < 0x20 then ['\\', 'u', '0', '0', hexChar (c.toNat / 16), hexChar (c.toNat % 16)]
    else [c]

def stringText (s : String) : List Char := '"' :: s.toList.flatMap escapedChar ++ ['"']

def Token.text : Token → List Char
  | .openBrace => ['\x7b']
  | .closeBrace => ['\x7d']
  | .openBracket => ['[']
  | .closeBracket => [']']
  | .colon => [':']
  | .comma => [',']
  | .null => ['n', 'u', 'l', 'l']
  | .bool true => ['t', 'r', 'u', 'e']
  | .bool false => ['f', 'a', 'l', 's', 'e']
  | .number n => n.text
  | .string s => stringText s

/-! ## The tokens of a value -/

mutual

def tokens : Json → List Token
  | .null => [.null]
  | .bool b => [.bool b]
  | .number n => [.number n]
  | .string s => [.string s]
  | .array items => .openBracket :: itemTokens items ++ [.closeBracket]
  | .object members => .openBrace :: memberTokens members ++ [.closeBrace]

/-- The items of an array, with commas between them. -/
def itemTokens : List Json → List Token
  | [] => []
  | v :: rest => tokens v ++ moreItemTokens rest

/-- The items of an array, each with a comma in front. -/
def moreItemTokens : List Json → List Token
  | [] => []
  | v :: rest => .comma :: tokens v ++ moreItemTokens rest

def memberTokens : List (String × Json) → List Token
  | [] => []
  | (k, v) :: rest => .string k :: .colon :: tokens v ++ moreMemberTokens rest

/-- The members of an object, each with a comma in front. -/
def moreMemberTokens : List (String × Json) → List Token
  | [] => []
  | (k, v) :: rest => .comma :: .string k :: .colon :: tokens v ++ moreMemberTokens rest

end

/-- The compact text of a value. -/
def text (v : Json) : List Char := v.tokens.flatMap Token.text

/-- The compact text of a value, as bytes. -/
def bytes (v : Json) : List UInt8 := Utf8.encode v.text

end MessageBus.Json
