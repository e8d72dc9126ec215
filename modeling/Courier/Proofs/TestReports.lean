import Courier.Proofs.Operations
import Courier.Proofs.StashLaw
import Mathlib

/-!
# When a test is reported by itself

Whether a test is reported is settled in two places. What is due is the report of the
latest known name, if this is a name, reports are on and it is not excluded; and the test is
over when another name is found to be current. Asking for the report and noticing that the
test is over come to the same thing, an announcement: the report is put together and leaves
at once, and nothing that a runner remembers for its reports has changed.
-/

namespace Courier

/-- A test report that leaves as soon as it has been put together. -/
def announced (polled : Bool) : Option TestReport → List Event
  | some t => [.built (.test t) polled, .reported (.test t)]
  | none => []

namespace Runner

variable {ω : Type} (r r' : Runner ω)

/-- The report of the latest test, if it is to be reported as passed. -/
def testDue : Option TestReport :=
  if r.latestTest = Config.unnamedTest ∨ r.switches.disableReports = true ∨
      r.latestTest ∈ r.excludedTests then none
  else some ⟨r.latestTest, true, none⟩

/-- The running test has been given a name that was not noticed yet. -/
def testChanged : Bool :=
  r.currentTest != r.latestTest && r.currentTest != Config.unnamedTest

/-- The runner for which the running test is the latest one. -/
def caughtUp : Runner ω := { r with latestTest := r.currentTest }

/-- The report of the test that is found to be over. -/
def testOver : Option TestReport :=
  if r.testChanged && !r.switches.disableAutoTestReports then r.testDue else none

/-- Of all that concerns reports, nothing has happened but that this test was announced. -/
def Announces (t : Option TestReport) : Prop :=
  r'.memory = r.memory ∧ ∃ es, r'.trace = r.trace ++ (es ++ announced r.context.polling t) ∧
    ∀ e ∈ es, e.isPlain = true

variable {r r'}

theorem Still.announces (h : Still r r') : Announces r r' none := by
  obtain ⟨es, he, hp⟩ := h.trace
  exact ⟨h.memory, es, by rw [he, announced, List.append_nil], hp⟩

end Runner

namespace Run

variable {ω : Type} (env : Surroundings ω) (r : Runner ω)

theorem reportTest_announces : r.Announces (after reportTest env r) r.testDue := by
  show r.Announces (after (if r.latestTest == Config.unnamedTest then _ else _) env r) _
  by_cases hn : r.latestTest = Config.unnamedTest
  · rw [if_pos (by simpa using hn), Runner.testDue, if_pos (.inl hn)]
    exact (Runner.Law.refl r : Runner.Still r r).announces
  rw [if_neg (by simpa using hn)]
  by_cases hd : r.switches.disableReports = true
  · rw [if_pos hd, Runner.testDue, if_pos (.inr (.inl hd))]
    exact (still_note _ env r).announces
  rw [if_neg hd]
  by_cases hx : r.latestTest ∈ r.excludedTests
  · rw [if_pos (by simpa using hx), Runner.testDue, if_pos (.inr (.inr hx))]
    exact (still_note _ env r).announces
  rw [if_neg (by simpa using hx), Runner.testDue, if_neg (by simp [hn, hd, hx])]
  exact ⟨rfl, [], List.append_assoc _ _ _, List.forall_mem_nil _⟩

theorem after_noticeTest : after noticeTest env r = if r.testChanged then
    (if r.switches.disableAutoTestReports then r else after reportTest env r).caughtUp else r := by
  have hr : after noticeTest env r = after (if r.testChanged then (do
      if !r.switches.disableAutoTestReports then reportTest
      modify Runner.caughtUp) else pure ()) env r := rfl
  rw [hr]
  cases r.testChanged with
  | false => rfl
  | true => cases r.switches.disableAutoTestReports <;> rfl

theorem noticeTest_spec : ∃ r₁, r.Announces r₁ r.testOver ∧
    after noticeTest env r = if r.testChanged then r₁.caughtUp else r₁ := by
  have hnone : r.Announces r none := (Runner.Law.refl r : Runner.Still r r).announces
  rw [after_noticeTest, Runner.testOver]
  cases r.testChanged with
  | false => exact ⟨r, hnone, rfl⟩
  | true =>
      cases r.switches.disableAutoTestReports with
      | true => exact ⟨r, hnone, rfl⟩
      | false => exact ⟨_, reportTest_announces env r, rfl⟩

end Run
end Courier
