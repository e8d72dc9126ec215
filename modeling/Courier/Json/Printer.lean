import Courier.Json.Basic
import Courier.Number.Shortest
import Courier.Text.Digit

/-!
# The compact text of a JSON value

No blanks between tokens. Inside a string the quote, the backslash and the
control characters below U+0020 are escaped, five of them by a letter; everything
else stands as it is.
-/

namespace Courier

/-- The text of a number: a numeral, or the shortest text of a double. -/
def Number.text : Number → String
  | .int i => toString i
  | .double d => d.text

namespace Json

/-- The text of one character inside a string. -/
def escape (c : Char) : List Char :=
  if c == '"' then ['\\', '"']
  else if c == '\\' then ['\\', '\\']
  else if c == '\n' then ['\\', 'n']
  else if c == '\r' then ['\\', 'r']
  else if c == '\t' then ['\\', 't']
  else if c.toNat == 8 then ['\\', 'b']
  else if c.toNat == 12 then ['\\', 'f']
  else if c.toNat < 0x20 then
    ['\\', 'u', '0', '0', Text.hexDigit (c.toNat / 16), Text.hexDigit (c.toNat % 16)]
  else [c]

/-- A text in quotes, with escapes for what cannot stand there as it is. -/
def quote (s : String) : String :=
  "\"" ++ String.ofList (s.toList.flatMap escape) ++ "\""

mutual

/-- A value as text, without any blanks. -/
def text : Json → String
  | .null => "null"
  | .bool b => if b then "true" else "false"
  | .num n => n.text
  | .str s => quote s
  | .arr items => "[" ++ itemsText items ++ "]"
  | .obj members => "\x7b" ++ membersText members ++ "\x7d"

/-- The elements of an array, with commas between them. -/
def itemsText : List Json → String
  | [] => ""
  | [v] => text v
  | v :: rest => text v ++ "," ++ itemsText rest

/-- The members of an object, with commas between them. -/
def membersText : List (String × Json) → String
  | [] => ""
  | [(k, v)] => quote k ++ ":" ++ text v
  | (k, v) :: rest => quote k ++ ":" ++ text v ++ "," ++ membersText rest

end

end Json
end Courier
