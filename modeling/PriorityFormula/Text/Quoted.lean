import PriorityFormula.Text.Visible

/-!
# Quoted text in messages

Messages show a text that was given by a caller between double quotes. Quotes and backslashes are
escaped, the usual controls have letters, and every other character that does not show by itself is
written by its code point in hexadecimal.
-/

namespace PriorityFormula.Text

/-- One character as it stands between the quotes. -/
def quotedChar (c : Char) : List Char :=
  if c = '"' then ['\\', '"']
  else if c = '\\' then ['\\', '\\']
  else if c = '\n' then ['\\', 'n']
  else if c = '\t' then ['\\', 't']
  else if c = '\r' then ['\\', 'r']
  else if c = '\x00' then ['\\', '0']
  else if isVisible c then [c]
  else ['\\', 'u', '\x7b'] ++ Nat.toDigits 16 c.toNat ++ ['\x7d']

/-- A text between double quotes. -/
def quoted (text : String) : String :=
  String.ofList ('"' :: text.toList.flatMap quotedChar ++ ['"'])

end PriorityFormula.Text
