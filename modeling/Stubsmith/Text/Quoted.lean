import Stubsmith.Text.GraphemeExtend
import Stubsmith.Text.Printable

/-!
# Quoted texts in messages

A text between quotes in which quotes, backslashes, control characters and characters that would not
show are escaped.
-/

namespace Stubsmith.Text

/-- A number in lower-case hexadecimal digits. -/
def hexDigits (n : Nat) : List Char :=
  Nat.toDigits 16 n

/-- A character as it stands between quotes. Characters that join the one before them are escaped
like unprintable ones, by their code point in braces. -/
def quotedChar (c : Char) : List Char :=
  if c = '\x00' then ['\\', '0']
  else if c = '\t' then ['\\', 't']
  else if c = '\n' then ['\\', 'n']
  else if c = '\r' then ['\\', 'r']
  else if c = '"' then ['\\', '"']
  else if c = '\\' then ['\\', '\\']
  else if extendsGrapheme c || !isPrintable c then
    ['\\', 'u', '\x7b'] ++ hexDigits c.toNat ++ ['\x7d']
  else [c]

/-- The text between quotes. -/
def quoted (s : String) : String :=
  String.ofList ('"' :: s.toList.flatMap quotedChar ++ ['"'])

end Stubsmith.Text
