import Courier.Runner.Steps

/-!
# Running addon actions

An addon action is a step of its own: it is timed and judged as a command is. Its
report shows the parameters as they were before the results came in.
-/

namespace Courier.Run

variable {ω : Type}

/-- The results by name, of two with one name the later. -/
def resultsByName (fields : List ResultField) : Object :=
  Object.ofList ((AddonAction.outputs fields).map fun f => (f.name, f.value))

/-- Reports an action with the answer it got. -/
def reportAction (a : AddonAction) (answer : AddonAnswer) (resolution : Resolution)
    (capture : CaptureRule) : Run ω Unit :=
  reportStep ("Execute '" ++ a.className ++ "'") resolution.message resolution.passed
    (capture.applies resolution.passed) (a.locator.map Locator.criteria) (some a.parameters)
    (some (resultsByName answer.fields))

/-- Takes the results over into the parameters, noting those that have no place there. -/
def takeResults (a : AddonAction) (fields : List ResultField) : Run ω AddonAction := do
  (a.unclaimed fields).forM fun f =>
    note (Log.warn ("Action '" ++ a.guid ++ "' does not have a field named '" ++ f.name ++ "'"))
  return a.withOutputs fields

/-- Runs an addon action and reports it; the action comes back with its results. -/
def runAction (a : AddonAction) : Run ω (Except Failure AddonAction) := do
  noticeTest
  let policy ← policy
  match ← setImplicitWait policy.implicitWait with
  | .error e => return .error e
  | .ok () =>
      sleepAround policy.sleepTiming policy.sleep .before
      match ← callAction a with
      | .error e => return .error e
      | .ok answer =>
          sleepAround policy.sleepTiming policy.sleep .after
          let resolution := resolve answer.verdict.isPassed policy.invert policy.alwaysPass
          reportAction a answer resolution policy.capture
          if resolution.passed then return .ok (← takeResults a answer.fields)
          return .error
            (.general ("Error occurred during addon action execution: " ++ answer.message))

end Courier.Run
