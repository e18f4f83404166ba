import MessageBus.Json.Token
/-!
# Laid out JSON

The text of a value over several lines, for a reader: every item and every member stands on a line of
its own, two blanks deeper than the container around it. An empty container stays on its line.
-/
namespace MessageBus.Json
set_option autoImplicit false

/-- A line break, and the blanks in front of what stands inside `depth` containers. -/
def newline (depth : Nat) : List Char := '\n' :: List.replicate (2 * depth) ' '

mutual

/-- The text of a value inside `depth` containers. -/
def layoutAt (depth : Nat) : Json → List Char
  | .null => Token.null.text
  | .bool b => (Token.bool b).text
  | .number n => n.text
  | .string s => stringText s
  | .array [] => ['[', ']']
  | .array (v :: rest) =>
    '[' :: newline (depth + 1) ++ layoutAt (depth + 1) v ++ layoutItems (depth + 1) rest
      ++ newline depth ++ [']']
  | .object [] => ['\x7b', '\x7d']
  | .object ((k, v) :: rest) =>
    '\x7b' :: newline (depth + 1) ++ stringText k ++ ':' :: ' ' :: layoutAt (depth + 1) v
      ++ layoutMembers (depth + 1) rest ++ newline depth ++ ['\x7d']

def layoutItems (depth : Nat) : List Json → List Char
  | [] => []
  | v :: rest => ',' :: newline depth ++ layoutAt depth v ++ layoutItems depth rest

/-- The members after the first. -/
def layoutMembers (depth : Nat) : List (String × Json) → List Char
  | [] => []
  | (k, v) :: rest =>
    ',' :: newline depth ++ stringText k ++ ':' :: ' ' :: layoutAt depth v ++ layoutMembers depth rest

end

def layout (v : Json) : List Char := v.layoutAt 0

end MessageBus.Json
