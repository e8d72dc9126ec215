import Courier.Text.Utf8

/-!
# Texts of unknown encoding

A text that comes in bytes is in UTF-8 unless it begins with the byte order mark of
another encoding. The mark is no part of the text, and what does not denote a
character becomes U+FFFD.
-/

namespace Courier.Text

/-! ## UTF-16 -/

/-- The units of a text of two bytes each, and whether a byte is left over. -/
def units (bigEndian : Bool) : List UInt8 → List Nat × Bool
  | a :: b :: rest =>
      let (us, odd) := units bigEndian rest
      ((if bigEndian then a.toNat * 256 + b.toNat else b.toNat * 256 + a.toNat) :: us, odd)
  | [_] => ([], true)
  | [] => ([], false)

/-- The unit begins a pair. -/
def isLeading (u : Nat) : Bool := 0xd800 ≤ u && u < 0xdc00

/-- The unit ends a pair. -/
def isTrailing (u : Nat) : Bool := 0xdc00 ≤ u && u < 0xe000

/-- The character of a unit that stands by itself. -/
def unitChar (u : Nat) : Char :=
  if isLeading u || isTrailing u then replacement else Char.ofNat u

/-- The text of these units. A byte left over spoils the half of a pair before it, or
stands for a character of its own. -/
def ofUnits (odd : Bool) : List Nat → List Char
  | [] => if odd then [replacement] else []
  | [u] => unitChar u :: (if odd && !isLeading u then [replacement] else [])
  | u :: v :: rest =>
      if isLeading u && isTrailing v then
        Char.ofNat (0x10000 + (u - 0xd800) * 0x400 + (v - 0xdc00)) :: ofUnits odd rest
      else unitChar u :: ofUnits odd (v :: rest)

/-- The text of bytes that are taken in twos. -/
def ofUtf16 (bigEndian : Bool) (bytes : List UInt8) : List Char :=
  let (us, odd) := units bigEndian bytes
  ofUnits odd us

/-! ## Byte order marks -/

/-- The text of these bytes, in the encoding that the mark at their start tells. -/
def ofMarkedBytes : List UInt8 → List Char
  | 0xef :: 0xbb :: 0xbf :: rest => ofUtf8Lenient rest
  | 0xff :: 0xfe :: rest => ofUtf16 false rest
  | 0xfe :: 0xff :: rest => ofUtf16 true rest
  | bytes => ofUtf8Lenient bytes

end Courier.Text
