/-!
# Letter case

Words that are compared whatever the case of their ASCII letters are brought to
lower case first. Other characters have no case here.
-/

namespace Courier.Text

/-- The text with its ASCII letters in lower case. -/
def lower (s : String) : String := String.ofList (s.toList.map Char.toLower)

end Courier.Text
