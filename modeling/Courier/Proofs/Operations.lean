import Courier.Proofs.RunnerProgram

/-!
# Operations

An operation is a value here, so that it can be asked what it does before it does it:
whether it looks at the name of the running test, and whether it is a request to report
a test or a step. A program that is written with some requests and no others obeys a law
if the parts do that operations have in common. There are fewer parts than operations,
since all that is timed and driven is still, and commands, pauses, manual steps and addon
actions differ only in what they hand over to be reported.

Not among the operations are the change of switches and the handing in of a step, which
need not be the same in two runs that are otherwise the same.
-/

namespace Courier

open Run

/-- What test code can have a runner do, with the type of what comes back. -/
inductive Operation : Type → Type where
  | note (e : Log.Entry) : Operation Unit
  | sleep (ms : Nat) : Operation Unit
  | setContext (c : StepContext) : Operation Unit
  | execute (command : Command) (params : Json) : Operation (Except Failure Response)
  | executeInternal (command : Command) (params : Json) : Operation (Except Failure Response)
  | clearStash : Operation Unit
  | pause (ms : Nat) : Operation Unit
  | takePicture (purpose : Purpose) : Operation (Option String)
  | noticeTest : Operation Unit
  | reportTest : Operation Unit
  | setCurrentTest (name : String) : Operation Unit
  | excludeTests (names : List String) : Operation Unit
  | enterPolicy (name : String) (p : StepPolicy) : Operation Unit
  | enterPolling (name : String) : Operation Unit
  | leave (name : String) : Operation Unit
  | setImplicitWait (ms : Int) : Operation (Except Failure Unit)
  | sleepAround (timing : SleepTiming) (ms : Nat) (phase : Phase) : Operation Unit
  | sleepAroundCommand (command : Command) (timing : SleepTiming) (ms : Nat) (phase : Phase) :
      Operation Unit
  | redact (command : Command) (params : Json) : Operation Json
  | reportManualStep (s : ManualStep) : Operation Unit
  | reportManualTest (name : Option String) (passed : Bool) (message : Option String) :
      Operation Unit
  | runAction (a : AddonAction) : Operation (Except Failure AddonAction)
  | executeCodeblock (timeout : Nat) (guid : String) (entries : Object) (l : Option Locator) :
      Operation (Except Failure CodeblockAnswer)
  | runCodeblock (timeout : Nat) (c : Codeblock) : Operation (Except Failure Codeblock.Value)

namespace Operation

variable {ω α : Type}

/-- Does what an operation says. -/
def perform : Operation α → Run ω α
  | note e => Run.note e
  | sleep ms => Run.sleep ms
  | setContext c => Run.setContext c
  | execute command params => Run.execute command params
  | executeInternal command params => Run.executeInternal command params
  | clearStash => Run.clearStash
  | pause ms => Run.pause ms
  | takePicture purpose => Run.takePicture purpose
  | noticeTest => Run.noticeTest
  | reportTest => Run.reportTest
  | setCurrentTest name => Run.setCurrentTest name
  | excludeTests names => Run.excludeTests names
  | enterPolicy name p => Run.enterPolicy name p
  | enterPolling name => Run.enterPolling name
  | leave name => Run.leave name
  | setImplicitWait ms => Run.setImplicitWait ms
  | sleepAround timing ms phase => Run.sleepAround timing ms phase
  | sleepAroundCommand command timing ms phase => Run.sleepAroundCommand command timing ms phase
  | redact command params => Run.redact command params
  | reportManualStep s => Run.reportManualStep s
  | reportManualTest name passed message => Run.reportManualTest name passed message
  | runAction a => Run.runAction a
  | executeCodeblock timeout guid entries l => Run.executeCodeblock timeout guid entries l
  | runCodeblock timeout c => Run.runCodeblock timeout c

/-- The operation is a request to report a test like this one. -/
def AsksFor : Operation α → TestReport → Prop
  | reportTest, t => t.passed = true ∧ t.message = none
  | reportManualTest name passed message, t =>
      (∀ n, name = some n → t.name = n) ∧ t.passed = passed ∧ t.message = message
  | _, _ => False

/-- The operation looks at the name of the running test before it does anything else. -/
def looks : Operation α → Bool
  | execute .. | pause _ | noticeTest | reportManualStep _ | reportManualTest .. | runAction _ =>
      true
  | _ => false

end Operation

/-- What test code has reported of its own accord. -/
structure ByHand where
  steps : StepReport → Prop
  tests : TestReport → Prop

/-! ## The parts of operations -/

/-- What a law has to be shown of, if nothing is requested but these reports. -/
structure Parts {ω : Type} (hand : ByHand) (R : Runner ω → Runner ω → Prop) : Prop where
  still : ∀ {α : Type} {m : Run ω α}, Obeys Runner.Still m → Obeys R m
  adjust : ∀ {change : Runner ω → Runner ω},
    (∀ r, (change r).trace = r.trace ∧ (change r).stash = r.stash) → Obeys R (adjust change)
  setCurrentTest : ∀ name, Obeys R (setCurrentTest name)
  excludeTests : ∀ names, Obeys R (excludeTests names)
  noticeTest : Obeys R noticeTest
  clearStash : Obeys R clearStash
  reportCommand : ∀ command params answer policy,
    Obeys R (reportCommand command params answer policy)
  reportStep : ∀ description message passed pictured element inputs outputs,
    Obeys R (reportStep description message passed pictured element inputs outputs)
  submitStep : ∀ {report}, hand.steps report → Obeys R (submitStep report)
  reportTest : (∀ t, Operation.reportTest.AsksFor t → hand.tests t) → Obeys R reportTest
  reportManualTest : ∀ {name passed message},
    (∀ t, (Operation.reportManualTest name passed message).AsksFor t → hand.tests t) →
    Obeys R (reportManualTest name passed message)

namespace Parts

variable {ω α : Type} {hand : ByHand} {R : Runner ω → Runner ω → Prop} [Runner.Law R]
  (h : Parts hand R)

include h

omit [Runner.Law R] in
theorem setContext (c : StepContext) : Obeys R (setContext c) := h.adjust fun _ => ⟨rfl, rfl⟩

omit [Runner.Law R] in
theorem leave (name : String) : Obeys R (leave name) := by
  refine h.adjust fun r => ?_
  split <;> exact ⟨rfl, rfl⟩

theorem perform (op : Operation α) (hop : ∀ t, op.AsksFor t → hand.tests t) :
    Obeys R (op.perform : Run ω α) := by
  cases op with
  | note => exact h.still (still_note _)
  | sleep => exact h.still (still_sleep _)
  | setContext => exact h.setContext _
  | execute => exact (noticing_execute h.still (h.reportCommand _ _)).obeys h.noticeTest
  | executeInternal => exact h.still (still_drive _ _ _)
  | clearStash => exact h.clearStash
  | pause => exact (noticing_pause h.still h.reportStep _).obeys h.noticeTest
  | takePicture => exact h.still (still_takePicture _)
  | noticeTest => exact h.noticeTest
  | reportTest => exact h.reportTest hop
  | setCurrentTest => exact h.setCurrentTest _
  | excludeTests => exact h.excludeTests _
  | enterPolicy | enterPolling => exact h.adjust fun _ => ⟨rfl, rfl⟩
  | leave => exact h.leave _
  | setImplicitWait => exact h.still (still_setImplicitWait _)
  | sleepAround => exact h.still (still_sleepAround _ _ _)
  | sleepAroundCommand => exact h.still (still_sleepAroundCommand _ _ _ _)
  | redact => exact h.still (still_redact _ _)
  | reportManualStep =>
      exact (noticing_reportManualStep h.still h.reportStep _).obeys h.noticeTest
  | reportManualTest => exact h.reportManualTest hop
  | runAction => exact (noticing_runAction h.still h.reportStep _).obeys h.noticeTest
  | executeCodeblock => exact h.still (still_executeCodeblock _ _ _ _)
  | runCodeblock => exact h.still (still_runCodeblock _ _)

end Parts

/-- What silence leads to whatever is requested. -/
theorem Run.Rules.parts {ω : Type} {R : Runner ω → Runner ω → Prop} [Runner.Law R]
    (h : Rules R) (hcommand : ∀ command params answer policy,
      Obeys R (reportCommand command params answer policy)) (hand : ByHand) : Parts hand R where
  still hm := h.still hm
  adjust := h.adjust
  setCurrentTest _ := h.silent (silent_setCurrentTest _)
  excludeTests _ := h.silent (silent_excludeTests _)
  noticeTest := h.silent silent_noticeTest
  clearStash := h.clearStash
  reportCommand := hcommand
  reportStep := h.reportStep
  submitStep _ := h.submitStep _
  reportTest _ := h.silent silent_reportTest
  reportManualTest _ := h.reportManualTest _ _ _

/-! ## Programs and what they request -/

/-- What can be written with operations, waits and changes of switches, if no reports are
requested but these. -/
inductive ProgramWith {ω : Type} (hand : ByHand) : {α : Type} → Run ω α → Prop where
  | pure {α : Type} (a : α) : ProgramWith hand (Pure.pure a)
  | bind {α β : Type} {m : Run ω α} {f : α → Run ω β} : ProgramWith hand m →
      (∀ a, ProgramWith hand (f a)) → ProgramWith hand (m >>= f)
  | get : ProgramWith hand MonadState.get
  | read : ProgramWith hand MonadReader.read
  | perform {α : Type} (op : Operation α) : (∀ t, op.AsksFor t → hand.tests t) →
      ProgramWith hand op.perform
  | setSwitches (change : Switches → Switches) : ProgramWith hand (setSwitches change)
  | submitStep {report : StepReport} : hand.steps report → ProgramWith hand (submitStep report)
  | waitUntil {α : Type} {condition : Condition ω α} (timeout interval : Nat) :
      (∀ n, ProgramWith hand (condition n)) →
      ProgramWith hand (waitUntil condition timeout interval)

theorem ProgramWith.obeys {ω α : Type} {hand : ByHand} {R : Runner ω → Runner ω → Prop}
    [Runner.Law R] (hR : Parts hand R) {m : Run ω α} (h : ProgramWith hand m) : Obeys R m := by
  induction h with
  | pure => exact .pure _
  | bind _ _ ihm ihf => exact .bind ihm ihf
  | get => exact .get
  | read => exact .read
  | perform op hop => exact hR.perform op hop
  | setSwitches => exact hR.adjust fun _ => ⟨rfl, rfl⟩
  | submitStep hs => exact hR.submitStep hs
  | waitUntil _ _ _ ih =>
      exact .waitUntil hR.setContext (fun _ => hR.still (still_note _))
        (fun _ => hR.still (still_sleep _)) ih _ _

end Courier
