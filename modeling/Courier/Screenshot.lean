import Courier.Base64
import Courier.Json.Basic

/-!
# Screenshots

A screenshot is Base64 text. A driver answers with such a text, broken into lines
or not, or with an array of bytes.
-/

namespace Courier.Screenshot

/-- The bytes of a picture as text. -/
def encode (bytes : List UInt8) : String := String.ofList (Base64.encode bytes)

/-- A whole number from 0 to 255. -/
def byte? : Json → Option UInt8
  | .num (.int i) => if 0 ≤ i ∧ i < 256 then some (UInt8.ofNat i.toNat) else none
  | _ => none

/-- The characters that cut the text of a picture into lines. -/
def isLineBreak (c : Char) : Bool := c == '\n' || c == '\r'

/-- The text without its line breaks. -/
def joinLines (s : String) : String := String.ofList (s.toList.filter fun c => !isLineBreak c)

/-- The screenshot a driver's answer brings, if it brings one. -/
def ofAnswer? : Json → Option String
  | .str s => if s.isEmpty then none else some (joinLines s)
  | .arr items =>
      match items.mapM byte? with
      | some (b :: bytes) => some (encode (b :: bytes))
      | _ => none
  | _ => none

end Courier.Screenshot
