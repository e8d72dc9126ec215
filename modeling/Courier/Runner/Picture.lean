import Courier.Runner.Basic
import Courier.Json.Printer
import Courier.Screenshot

/-!
# Pictures of the screen

A picture that cannot be taken is left out and noted; it never stands in the way
of a report.
-/

namespace Courier.Run

variable {ω : Type}

/-- Has the driver take a picture of the screen. -/
def takePicture (purpose : Purpose) : Run ω (Option String) := do
  let session := (← read).session
  match ← drive purpose .screenshot (.object [("sessionId", .str session.id)]) with
  | .ok response =>
      let picture := Screenshot.ofAnswer? response.value
      if picture.isNone then
        note (Log.error ("Driver returned no screenshot data: " ++ response.value.text))
      return picture
  | .error e =>
      note (Log.error ("Error occurred creating a screenshot: " ++ e.message))
      return none

/-- Takes the picture for a report, where one is wanted. -/
def pictureIf (wanted : Bool) : Run ω (Option String) :=
  if wanted then takePicture .picture else return none

end Courier.Run
