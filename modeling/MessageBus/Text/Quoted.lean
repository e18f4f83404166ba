import MessageBus.Text.Visible
/-!
# Quoted text in messages

A text between double quotes in which every character can be told apart: quotes, backslashes and the
common controls have a short escape, other characters that show no glyph are written `\u{…}` with
their code point.
-/
namespace MessageBus.Text
set_option autoImplicit false

def quotedChar (c : Char) : List Char :=
  match c with
  | '"' => ['\\', '"']
  | '\\' => ['\\', '\\']
  | '\n' => ['\\', 'n']
  | '\r' => ['\\', 'r']
  | '\t' => ['\\', 't']
  | '\x00' => ['\\', '0']
  | c =>
    if isVisible c then [c]
    else ['\\', 'u', '\x7b'] ++ Nat.toDigits 16 c.toNat ++ ['\x7d']

def quoted (text : String) : String :=
  String.ofList ('"' :: text.toList.flatMap quotedChar ++ ['"'])

end MessageBus.Text
