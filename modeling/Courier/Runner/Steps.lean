import Courier.Runner.Picture
import Courier.Runner.Stash
import Courier.Runner.Tests
import Courier.Runner.Timing

/-!
# Steps and tests by hand

Steps that are no commands: pauses, and what test code or a test framework says
of its own accord.
-/

namespace Courier

/-- A step as test code tells it. -/
structure ManualStep where
  description : String
  message : String
  passed : Bool
  /-- A picture is wanted whatever the policy says. -/
  screenshot : Bool
  element : Option SearchCriteria
  inputs : Option Object
  outputs : Option Object

/-- A step with nothing but its text and its outcome. -/
def ManualStep.plain (description message : String) (passed : Bool) : ManualStep :=
  ⟨description, message, passed, false, none, none, none⟩

namespace Run

variable {ω : Type}

/-- Puts together the report of a step and sends it, or says that reports are off. -/
def reportStep (description message : String) (passed pictured : Bool)
    (element : Option SearchCriteria) (inputs outputs : Option Object) : Run ω Unit := do
  if (← switches).disableReports then
    note (Log.debug ("Step [" ++ description ++ "] - [" ++ outcomeWord passed ++ "]"))
  else
    let screenshot ← pictureIf pictured
    let guid ← newGuid
    submitStep ⟨guid, description, message, passed, screenshot, element, inputs, outputs⟩

/-- Sleeps, and reports it as a step. -/
def pause (ms : Nat) : Run ω Unit := do
  noticeTest
  let policy ← policy
  sleepAround policy.sleepTiming policy.sleep .before
  sleep ms
  sleepAround policy.sleepTiming policy.sleep .after
  let resolution := resolve true policy.invert policy.alwaysPass
  reportStep ("Pause for " ++ toString ms ++ "ms") resolution.message resolution.passed
    (policy.capture.applies resolution.passed) none none none

/-- Reports a step that test code tells. -/
def reportManualStep (s : ManualStep) : Run ω Unit := do
  noticeTest
  let policy ← policy
  reportStep s.description s.message s.passed (s.screenshot || policy.capture.applies s.passed)
    s.element s.inputs s.outputs

/-- Reports a test that test code tells; without a name it is the latest known one. -/
def reportManualTest (name : Option String) (passed : Bool) (message : Option String) :
    Run ω Unit := do
  noticeTest
  let r ← get
  let name := name.getD r.latestTest
  if r.switches.disableReports then
    note (Log.debug ("Test [" ++ name ++ "] - [" ++ outcomeWord passed ++ "]"))
  else
    if !r.switches.disableAutoTestReports then
      note (Log.warn ("Automatic test reporting is enabled, reporting test [" ++ name ++
        "] manually may produce duplicates. Disable automatic test reports to avoid this"))
    let report : Report := .test ⟨name, passed, message⟩
    build report
    clearStash
    deliver report

/-! ## Events of a test framework -/

/-- A test framework has begun a test. -/
def onTestStarted (name : String) : Run ω Unit := setCurrentTest name

/-- A test framework has finished a step. -/
def onStepFinished (description : String) (passed : Bool) (message : Option String) :
    Run ω Unit :=
  reportManualStep (.plain description (message.getD "") passed)

/-- A test framework has finished a scenario. -/
def onScenarioFinished (name : String) (passed : Bool) (message : Option String) : Run ω Unit :=
  reportManualTest (some name) passed message

end Run
end Courier
