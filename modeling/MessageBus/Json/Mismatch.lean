import MessageBus.Json.Basic
import MessageBus.Text.Quoted
/-!
# Values of the wrong shape

What was found where a value of another shape was expected, as a message names it.
-/
namespace MessageBus.Json
set_option autoImplicit false

inductive Shape
  | string
  | sequence
  | map
deriving DecidableEq, Repr

def Shape.phrase : Shape → String
  | .string => "a string"
  | .sequence => "a sequence"
  | .map => "a map"

/-- A value as a message names it: strings are quoted, numbers and containers only classed. -/
def description : Json → String
  | .null => "null"
  | .bool true => "boolean \x60true\x60"
  | .bool false => "boolean \x60false\x60"
  | .number _ => "number"
  | .string s => "string " ++ Text.quoted s
  | .array _ => "sequence"
  | .object _ => "map"

/-- A value at the front of a text, as a message names it. -/
def frontDescription : Json → String
  | .number n =>
    match n.int64? with
    | some i => "integer \x60" ++ toString i ++ "\x60"
    | none => description (.number n)
  | v => v.description

structure Mismatch where
  found : Json
  expected : Shape
deriving DecidableEq

def Mismatch.message (m : Mismatch) : String :=
  "invalid type: " ++ m.found.description ++ ", expected " ++ m.expected.phrase

/-- The text of a string value. -/
def asString : Json → Except Mismatch String
  | .string s => .ok s
  | v => .error ⟨v, .string⟩

/-- The texts of a list of strings; the first item that is none is reported. -/
def asStrings : Json → Except Mismatch (List String)
  | .array items => items.mapM asString
  | v => .error ⟨v, .sequence⟩

end MessageBus.Json
