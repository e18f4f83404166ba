import MessageBus.Json.Parser
/-!
# Texts of objects

Where the text of an object is wanted its first token decides: if a value of another shape starts
there, the text is refused for that shape, and what follows is not looked at. A number at the front is
known as soon as it is read, so a message can show it if it is an integer of 64 bits. The object wanted
is one whatever its keys; the values in it are read as any others.
-/
namespace MessageBus.Json
set_option autoImplicit false

/-- The value of another shape than an object at the front of a text. -/
def foreignFront? : List Lexeme → Option Json
  | .token .openBrace :: _ => none
  | .token t :: _ => t.front?
  | _ => none

/-- Why a text writes no object. -/
inductive ObjectError
  | fault (f : Fault)
  | foreign (front : Json)
deriving DecidableEq

def ObjectError.message : ObjectError → String
  | .fault f => f.message
  | .foreign front => "invalid type: " ++ frontDescription front ++ ", expected " ++ Shape.map.phrase

/-- The value of a text that is wanted as an object. Whatever its own first key, it stands for no number. -/
def ofObjectLexemes : List Lexeme → Except Fault Json
  | .token .openBrace :: .token (.string key) :: rest => ofLexemesFrom ⟨.colon [] key, []⟩ rest
  | lexemes => ofLexemes lexemes

/-- The members of the object that a text writes, as they stand there. -/
def parseObject (text : String) : Except ObjectError (List (String × Json)) :=
  let lexemes := lex (Utf8.bytes text)
  match foreignFront? lexemes with
  | some front => .error (.foreign front)
  | none =>
    match ofObjectLexemes lexemes with
    | .ok (.object members) => .ok members
    | .ok v => .error (.foreign v)
    | .error f => .error (.fault f)

end MessageBus.Json
