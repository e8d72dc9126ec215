import Courier.Runner.Basic
import Courier.Json.Printer
import Courier.Text.Case

/-!
# Redaction

What is typed into a password field is masked before it gets into a report. The
driver is asked what kind of field it is; if the question cannot be put, the text
is masked.
-/

namespace Courier.Redaction

/-- What stands in place of a text. -/
def mask : Json := .str "***"

/-- What stands in place of a list of keys. -/
def maskedKeys : Json := .arr [.str "*", .str "*", .str "*"]

/-- The parameters with the typed text masked. -/
def masked : Json → Json
  | .obj o => .obj (Object.insert (Object.insert o "text" mask) "value" maskedKeys)
  | params => params

/-- The kinds of field that hold secrets. -/
def secureTypes : List String := ["password", "XCUIElementTypeSecureTextField"]

/-- The session runs an Android app and not a browser. -/
def isAndroidApp (s : Session) : Bool :=
  Text.lower ((s.capability? "platformName").getD "") == "android" &&
    ((s.capability? "browserName").getD "").isEmpty

/-- The attribute that tells a secret field. -/
def attributeName (androidApp : Bool) : String := if androidApp then "password" else "type"

/-- The text of an attribute's value. -/
def attributeText : Json → String
  | .str s => s
  | .bool b => if b then "true" else "false"
  | _ => ""

/-- Whether the value of the attribute tells a secret field. -/
def isSecret (androidApp : Bool) (value : Json) : Bool :=
  if androidApp then Text.lower (attributeText value) == "true"
  else secureTypes.contains (attributeText value)

/-- The parameters of the question about an element. -/
def question (s : Session) (element : Json) : Json :=
  .object
    [("sessionId", .str s.id), ("id", element), ("name", .str (attributeName (isAndroidApp s)))]

/-- The element that a command types into. -/
def target (params : Json) : Json := (params.get? "id").getD .null

end Courier.Redaction

namespace Courier.Run

variable {ω : Type}

/-- Asks the driver whether an element holds a secret; in doubt it does. -/
def holdsSecret (element : Json) : Run ω Bool := do
  let session := (← read).session
  match ← drive .secrecy .getElementAttribute (Redaction.question session element) with
  | .ok response => return Redaction.isSecret (Redaction.isAndroidApp session) response.value
  | .error e =>
      note (Log.warn ("Could not determine whether element " ++ element.text ++
        " holds a secret, redacting: " ++ e.message))
      return true

/-- The parameters of a command as a report may show them. -/
def redact (command : Command) (params : Json) : Run ω Json := do
  if !command.typesText then return params
  let element := Redaction.target params
  if ← holdsSecret element then
    note (Log.debug ("Redacting text typed into element " ++ element.text))
    return Redaction.masked params
  return params

end Courier.Run
