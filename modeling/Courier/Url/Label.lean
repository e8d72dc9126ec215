import Courier.Text.Composed
import Courier.Text.Direction
import Courier.Text.Joining
import Courier.Url.DomainMap
import Courier.Url.Punycode

/-!
# Labels of domain names

A name consists of labels between dots. A label with characters beyond ASCII is
written in ASCII as `xn--` and its code; a label that is written so already has to
be what the label it stands for is written as.

Not every text can be a label. None begins with a mark, and the invisible
characters that part or join letters stand only where they make a difference.
-/

namespace Courier.Url

/-- The characters a text is mapped to, in composed form; none if one is refused. -/
def mapText? (cs : List Char) : Option (List Char) :=
  (cs.mapM mapChar?).map fun images => Text.composed images.flatten

/-- A label, and what it is written as. -/
structure Label where
  text : List Char
  written : List Char

namespace Label

/-! ## Joiners -/

/-- The character that keeps its neighbours from joining. -/
def nonJoiner : Char := '\u200c'

/-- A character that has to do with joining alone. -/
def isJoiner (c : Char) : Bool := c == nonJoiner || c == '\u200d'

/-- The joining of the first character that is not transparent. -/
def nearest (cs : List Char) : Text.Joining :=
  match (cs.map Text.joining).dropWhile (· == .transparent) with
  | j :: _ => j
  | [] => .none

/-- A joiner has a reason to be: it follows a silenced vowel, or it parts two letters
that would join. The characters before it are given from the last to the first. -/
def joinerFits (before : List Char) (c : Char) (after : List Char) : Bool :=
  match before with
  | [] => false
  | previous :: _ =>
      Text.combiningClass previous == Text.virama ||
        (c == nonJoiner && (nearest before).joinsNext && (nearest after).joinsPrevious)

/-- Every joiner stands where it may, after what is before it. -/
def joinersFit (before : List Char) : List Char → Bool
  | [] => true
  | c :: rest => (!isJoiner c || joinerFits before c rest) && joinersFit (c :: before) rest

/-- Whether a text with characters beyond ASCII can be a label. -/
def isAllowed (cs : List Char) : Bool :=
  match cs with
  | [] => false
  | c :: _ => !Text.isMark c && joinersFit [] cs

/-! ## Reading and writing -/

/-- What a label in code begins with. -/
def codePrefix : List Char := "xn--".toList

/-- Longer texts have no code. -/
def longestText : Nat := 1000

/-- Longer codes are not read. -/
def longestCode : Nat := 2000

/-- Reads a label that is written as code. -/
def ofCode? (code : List Char) : Option Label := do
  if longestCode < code.length || !code.all Text.isAscii then none
  else
    let text ← Punycode.decode? code
    if text.all Text.isAscii || Punycode.encode text != code || mapText? text != some text ||
        codePrefix.isPrefixOf text || !isAllowed text then none
    else return ⟨text, codePrefix ++ code⟩

/-- Reads a label that has been mapped. -/
def ofChars? (cs : List Char) : Option Label :=
  if codePrefix.isPrefixOf cs then ofCode? (cs.drop codePrefix.length)
  else if cs.all Text.isAscii then some ⟨cs, cs⟩
  else if longestText < cs.length || !isAllowed cs then none
  else some ⟨cs, codePrefix ++ Punycode.encode cs⟩

/-! ## Direction -/

/-- There is a character in the label that is written from right to left. -/
def isRightToLeft (l : Label) : Bool :=
  l.text.any fun c => !Text.isAscii c && (Text.direction c).isRightToLeft

/-- All of a label runs in one direction, and it shows in the first character and in the
last one that is not a mark. -/
def runsOneWay (l : Label) : Bool :=
  let ds := l.text.map Text.direction
  match ds with
  | [] => true
  | first :: rest =>
      let last := (rest.reverse.dropWhile (· == .mark)).headD first
      match first with
      | .left =>
          (last == .left || last == .european) && ds.all fun d => !d.isRightToLeft
      | .right =>
          (last == .right || last == .european || last == .arabic) &&
            !ds.contains .left && !(ds.contains .european && ds.contains .arabic)
      | _ => false

end Label
end Courier.Url
