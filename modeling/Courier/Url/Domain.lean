import Courier.Text.Utf8
import Courier.Url.Label
import Courier.Url.Percent

/-!
# The ASCII form of a domain name

A name is mapped to its plain form, and each of its labels is written in ASCII. Where
anything in a name runs from right to left, each label must run in one direction.
-/

namespace Courier.Url.Domain

/-- ASCII characters that no domain may hold. -/
def isForbidden (c : Char) : Bool :=
  c.toNat ≤ 0x20 || c.toNat == 0x7f ||
    ['#', '%', '/', ':', '<', '>', '?', '@', '[', '\\', ']', '^', '|'].contains c

/-- The labels of a name, if they make one. -/
def labels? (cs : List Char) : Option (List Label) := do
  let name ← mapText? cs
  let labels ← (Text.split '.' name).mapM Label.ofChars?
  if labels.any fun l => l.text.any isForbidden then none
  else if labels.any Label.isRightToLeft && !labels.all Label.runsOneWay then none
  else return labels

/-- The ASCII form of the domain these bytes spell. -/
def ofBytes? (bytes : List UInt8) : Option String := do
  let cs ← Text.ofUtf8? bytes
  let labels ← labels? cs
  return String.ofList (List.intercalate ['.'] (labels.map Label.written))

end Courier.Url.Domain
