import Courier.Runner.Picture
import Courier.Runner.Redaction
import Courier.Runner.Stash
import Courier.Runner.Tests
import Courier.Runner.Timing

/-!
# Executing commands

A command goes to the driver with the timing of the policy in force, and its
outcome, as the policy judges it, goes into a report. What the caller gets is the
driver's answer as it is: the report never changes it.
-/

namespace Courier.Run

variable {ω : Type}

/-- Executes a command without timing and without a report. -/
def executeInternal (command : Command) (params : Json) : Run ω (Except Failure Response) :=
  drive .request command params

/-- What the end of the session brings to the Agent: all that is left to report. -/
def reportQuit : Run ω Unit := do
  clearStash
  if !(← switches).disableAutoTestReports then reportTest

/-- The result of a command and whether it passed, as a report has it. -/
def outcome : Except Failure Response → Json × Bool
  | .ok response => (response.value, response.passed)
  | .error e => (.str e.message, false)

/-- What the report of a command tells. -/
def commandReport (command : Command) (params result : Json) (resolution : Resolution)
    (capture : CaptureRule) : Run ω CommandReport := do
  let params ← if (← switches).disableRedaction then pure params else redact command params
  let screenshot ← pictureIf (capture.applies resolution.passed)
  return ⟨command, params, result, resolution.passed, some resolution.message, screenshot⟩

/-- Sends the report of a command, and before it the one that was put aside; in a wait it
is put aside itself. -/
def submitCommand (report : CommandReport) : Run ω Unit := do
  build (.command report)
  if (← get).context.polling then putAside report
  else
    if let some earlier ← takeStash then deliver (.command earlier)
    deliver (.command report)

/-- Reports a command with the outcome the driver gave. -/
def reportCommand (command : Command) (params : Json) (answer : Except Failure Response)
    (policy : StepPolicy) : Run ω Unit := do
  if command.isQuit then reportQuit
  else
    let (result, passed) := outcome answer
    let resolution := resolve passed policy.invert policy.alwaysPass
    if (← switches).reportsCommands then
      submitCommand (← commandReport command params result resolution policy.capture)
    else
      note (Log.debug ("Command [" ++ command.name ++ "] - [" ++
        outcomeWord resolution.passed ++ "]"))

/-- Executes a command and reports it. -/
def execute (command : Command) (params : Json) : Run ω (Except Failure Response) := do
  noticeTest
  let policy ← policy
  match ← setImplicitWait policy.implicitWait with
  | .error e => return .error e
  | .ok () =>
      sleepAroundCommand command policy.sleepTiming policy.sleep .before
      let answer ← drive .request command params
      sleepAroundCommand command policy.sleepTiming policy.sleep .after
      reportCommand command params answer policy
      return answer

end Courier.Run
