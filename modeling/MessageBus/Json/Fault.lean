/-!
# Faults of a JSON text

Why a text is no JSON value. The first fault in reading order is reported.
-/
namespace MessageBus.Json
set_option autoImplicit false

inductive Fault
  | endInValue
  | endInObject
  | endInArray
  | endInString
  | valueExpected
  | literalExpected
  | keyNotString
  | trailingComma
  | colonExpected
  | objectCommaOrEnd
  | arrayCommaOrEnd
  | invalidNumber
  | invalidEscape
  /-- A trailing surrogate first, or a leading one followed by an escape that is no trailing one. -/
  | loneSurrogate
  /-- A leading surrogate followed by no escape at all. -/
  | unpairedSurrogate
  | controlCharacter
  | notUtf8
  | tooDeep
  | trailingCharacters
  /-- Something else, named as in a message, where a string must write a number. -/
  | notNumeral (found : String)
deriving DecidableEq, Repr

/-- The message of a fault. Where the fault stands, ` at line 1 column 7` behind the message, is left out. -/
def Fault.message : Fault → String
  | .endInValue => "EOF while parsing a value"
  | .endInObject => "EOF while parsing an object"
  | .endInArray => "EOF while parsing a list"
  | .endInString => "EOF while parsing a string"
  | .valueExpected => "expected value"
  | .literalExpected => "expected ident"
  | .keyNotString => "key must be a string"
  | .trailingComma => "trailing comma"
  | .colonExpected => "expected \x60:\x60"
  | .objectCommaOrEnd => "expected \x60,\x60 or \x60\x7d\x60"
  | .arrayCommaOrEnd => "expected \x60,\x60 or \x60]\x60"
  | .invalidNumber => "invalid number"
  | .invalidEscape => "invalid escape"
  | .loneSurrogate => "lone leading surrogate in hex escape"
  | .unpairedSurrogate => "unexpected end of hex escape"
  | .controlCharacter => "control character (\\u0000-\\u001F) found while parsing a string"
  | .notUtf8 => "invalid unicode code point"
  | .tooDeep => "recursion limit exceeded"
  | .trailingCharacters => "trailing characters"
  | .notNumeral found => "invalid type: " ++ found ++ ", expected string containing a number"

end MessageBus.Json
