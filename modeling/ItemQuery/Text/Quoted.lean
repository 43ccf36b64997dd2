import ItemQuery.Text.HiddenTable

/-! Text as a diagnostic shows it: in quotes, with quotes, backslashes and characters
that leave no mark of their own written as escapes. -/

set_option autoImplicit false

namespace ItemQuery.Text

def hexDigits (n : Nat) : List Char := Nat.toDigits 16 n

/-- A character inside diagnostic quotes. -/
def quotedChar (c : Char) : List Char :=
  match c with
  | '\x00' => ['\\', '0']
  | '\t' => ['\\', 't']
  | '\n' => ['\\', 'n']
  | '\r' => ['\\', 'r']
  | '"' => ['\\', '"']
  | '\\' => ['\\', '\\']
  | c => if isMark c || isHidden c then ['\\', 'u', '\x7b'] ++ hexDigits c.toNat ++ ['\x7d'] else [c]

def quoted (text : String) : String := "\"" ++ String.ofList (text.toList.flatMap quotedChar) ++ "\""

end ItemQuery.Text
