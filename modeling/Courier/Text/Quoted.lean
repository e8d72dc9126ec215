import Courier.Text.Marks
import Courier.Text.Printable

/-!
# Quoted texts in messages

A text is shown between quotes with everything escaped that would not show, or
would be taken for something else: quotes and backslashes, characters that do not
print, and marks that would go with the character before them.
-/

namespace Courier.Text

/-- The digits of a number to the base sixteen, at least one. -/
def hexNumeral (n : Nat) : List Char :=
  let ds := ([5, 4, 3, 2, 1].map fun i => n / Nat.pow 16 i % 16).dropWhile (· == 0)
  (ds ++ [n % 16]).map hexDigit

/-- A character as it stands between quotes. -/
def escapeChar (c : Char) : List Char :=
  if c == '"' then ['\\', '"']
  else if c == '\\' then ['\\', '\\']
  else if c == '\n' then ['\\', 'n']
  else if c == '\r' then ['\\', 'r']
  else if c == '\t' then ['\\', 't']
  else if c.toNat == 0 then ['\\', '0']
  else if isPrintable c && !isExtender c then [c]
  else ['\\', 'u', '\x7b'] ++ hexNumeral c.toNat ++ ['\x7d']

/-- A text in quotes, with escapes for what would not be seen there. -/
def quoted (s : String) : String :=
  "\"" ++ String.ofList (s.toList.flatMap escapeChar) ++ "\""

end Courier.Text
