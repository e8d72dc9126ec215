import Courier.Text.Digit
import Courier.Text.Utf8

/-!
# Percent-encoding

A set names the ASCII characters that a part of a URL may not hold as they are;
those and all characters beyond ASCII are written as `%` and two digits for each
byte of their UTF-8 form.
-/

namespace Courier.Url

/-- The ASCII characters to encode. -/
abbrev EncodeSet := Char → Bool

/-- Control characters. -/
def controls : EncodeSet := fun c => c.toNat < 0x20 || c.toNat == 0x7f

/-- What is escaped in a fragment. -/
def fragmentSet : EncodeSet := fun c => controls c || [' ', '"', '<', '>', '`'].contains c

/-- What is escaped in a path. -/
def pathSet : EncodeSet := fun c => fragmentSet c || ['#', '?', '\x7b', '\x7d'].contains c

/-- What is escaped in a user and a password. -/
def userinfoSet : EncodeSet := fun c =>
  pathSet c || ['/', ':', ';', '=', '@', '[', '\\', ']', '^', '|'].contains c

/-- What is escaped in a query. -/
def querySet : EncodeSet := fun c => controls c || [' ', '"', '#', '<', '>'].contains c

/-- What is escaped in a query under a special scheme. -/
def specialQuerySet : EncodeSet := fun c => querySet c || c == '\''

/-- `%` and the two digits of a byte, in upper case. -/
def percentByte (b : UInt8) : List Char :=
  ['%', (Text.hexDigit (b.toNat / 16)).toUpper, (Text.hexDigit (b.toNat % 16)).toUpper]

/-- A character, as its bytes in escapes if it is in the set or not an ASCII one. -/
def encodeChar (set : EncodeSet) (c : Char) : List Char :=
  if c.toNat < 0x80 && !set c then [c] else (Text.utf8 [c]).flatMap percentByte

/-- A text with escapes for all that is in the set. -/
def encode (set : EncodeSet) (cs : List Char) : List Char := cs.flatMap (encodeChar set)

/-- The bytes of a text with each `%` and two digits read as the byte they stand for. -/
def decodeBytes : List Char → List UInt8
  | '%' :: a :: b :: rest =>
      match Text.hexValue? a, Text.hexValue? b with
      | some hi, some lo => UInt8.ofNat (hi * 16 + lo) :: decodeBytes rest
      | _, _ => Text.utf8 ['%'] ++ decodeBytes (a :: b :: rest)
  | c :: rest => Text.utf8 [c] ++ decodeBytes rest
  | [] => []

/-- A character that a form keeps as it is. -/
def formKeeps (b : Nat) : Bool :=
  (0x30 ≤ b && b ≤ 0x39) || (0x41 ≤ b && b ≤ 0x5a) || (0x61 ≤ b && b ≤ 0x7a) ||
    b == 0x2a || b == 0x2d || b == 0x2e || b == 0x5f

/-- The form encoding of a text: a plus sign for a blank. -/
def formText (s : String) : List Char :=
  (Text.utf8 s.toList).flatMap fun b =>
    if formKeeps b.toNat then [Char.ofNat b.toNat]
    else if b.toNat == 0x20 then ['+']
    else percentByte b

/-- The query of a list of names and values. -/
def formQuery (pairs : List (String × String)) : String :=
  String.intercalate "&" <| pairs.map fun p =>
    String.ofList (formText p.1 ++ '=' :: formText p.2)

end Courier.Url
