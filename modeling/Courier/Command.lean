import Courier.Decoding

/-!
# Driver commands

The commands that are treated in a way of their own have a constructor; any other
has its wire name. A response has passed unless it carries a status other than
zero.
-/

namespace Courier

/-- The commands that are told apart, and all others by their names. -/
inductive Command where
  | quit
  | sendKeysToElement
  | sendKeysToActiveElement
  | getElementAttribute
  | screenshot
  | setTimeouts
  | implicitWait
  | other (name : String)
  deriving DecidableEq, Repr

namespace Command

/-- The wire name. -/
def name : Command → String
  | .quit => "quit"
  | .sendKeysToElement => "sendKeysToElement"
  | .sendKeysToActiveElement => "sendKeysToActiveElement"
  | .getElementAttribute => "getElementAttribute"
  | .screenshot => "screenshot"
  | .setTimeouts => "setTimeouts"
  | .implicitWait => "implicitlyWait"
  | .other name => name

/-- The commands with a constructor of their own. -/
def known : List Command :=
  [.quit, .sendKeysToElement, .sendKeysToActiveElement, .getElementAttribute, .screenshot,
   .setTimeouts, .implicitWait]

/-- The command of a wire name. -/
def ofName (name : String) : Command :=
  (known.find? fun c => c.name == name).getD (.other name)

/-- The command ends the session. -/
def isQuit : Command → Bool
  | .quit => true
  | _ => false

/-- The commands that type a text. -/
def typesText : Command → Bool
  | .sendKeysToElement => true
  | .sendKeysToActiveElement => true
  | _ => false

end Command

/-- What a driver answers. -/
structure Response where
  status : Option Int
  value : Json

namespace Response

/-- An answer of success with a value in it. -/
def ok (value : Json) : Response := ⟨none, value⟩

/-- An answer counts as passed if it has no status or the status 0. -/
def passed (r : Response) : Bool :=
  match r.status with
  | none => true
  | some status => status == 0

/-- A response as the driver writes it. -/
def encode (r : Response) : Json :=
  .object [("status", Json.orNull .ofInt r.status), ("value", r.value)]

open Decoding in
/-- Reads the response of a driver; everything in it may be left out. -/
def decode : Json → Decoded Response :=
  let shape : Shape := ⟨"CommandResponse", 2⟩
  let status := maybe "status" int64
  let value := defaulted "value" any .null
  record shape [status.check, value.check] fun src => do
    return {
      status := ← src.take shape 0 status
      value := ← src.take shape 1 value }

end Response
end Courier
