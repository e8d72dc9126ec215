import Courier.Runner.Basic

/-!
# Test reports

The name of the running test is looked at before each step. When it has changed,
the test before it is over and is reported as passed, unless it has no name, is
excluded, or reports are off.
-/

namespace Courier.Run

variable {ω : Type}

/-- Reports the latest known test as passed. -/
def reportTest : Run ω Unit := do
  let r ← get
  let name := r.latestTest
  if name == Config.unnamedTest then return
  if r.switches.disableReports then
    note (Log.debug ("Test [" ++ name ++ "] - [Passed]"))
  else if r.excludedTests.contains name then
    note (Log.debug ("Test [" ++ name ++
      "] - Reporting skipped (marked as 'To be excluded')"))
  else
    let report : Report := .test ⟨name, true, none⟩
    build report
    deliver report

/-- Notices the name of a new test and closes the one before it. -/
def noticeTest : Run ω Unit := do
  let r ← get
  if r.currentTest != r.latestTest && r.currentTest != Config.unnamedTest then
    if !r.switches.disableAutoTestReports then reportTest
    modify fun r => { r with latestTest := r.currentTest }

end Courier.Run
