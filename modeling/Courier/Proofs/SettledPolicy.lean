import Courier.Proofs.SteadyRuns

/-!
# Settled policies

A policy may leave the timing of the sleep and the rule for pictures to the one around it. The
policy in force never does: it begins as the standard one, and one that a scope puts in force
has been filled in from it. Since scopes may be left in any order, a context that comes back
can be that of a scope closed long ago. So what holds of the context in force has to hold of
each context to go back to as well, and both are kept together.

What a step would do if the policy left these things to another is written down in the model,
but no step comes to it. The operations that time and picture steps are given again here with
an alarm at those places; it is never heard, however the program goes.
-/

namespace Courier

/-- The policy leaves nothing to another. -/
def StepPolicy.IsSettled (p : StepPolicy) : Prop :=
  p.sleepTiming ≠ .inherit ∧ p.capture ≠ .inherit

instance : DecidablePred StepPolicy.IsSettled := fun _ => instDecidableAnd

theorem StepPolicy.isSettled_standard : StepPolicy.standard.IsSettled := by decide

theorem StepPolicy.IsSettled.within {outer : StepPolicy} (h : outer.IsSettled) (p : StepPolicy) :
    (p.within outer).IsSettled := by
  obtain ⟨ht, hc⟩ := h
  constructor
  · show p.sleepTiming.orInherit outer.sleepTiming ≠ .inherit
    cases p.sleepTiming with
    | inherit => exact ht
    | before | after | never => exact SleepTiming.noConfusion
  · show p.capture.orInherit outer.capture ≠ .inherit
    cases p.capture with
    | inherit => exact hc
    | always | never | onSuccess | onFailure => exact CaptureRule.noConfusion

/-! ## Operations with an alarm

It sounds where the policy of a step leaves the timing or the picture to another. -/

namespace Watch

variable {ω : Type} (alarm : Run ω Unit)

/-- A sleep around a step that raises the alarm if the timing is to be inherited. -/
def sleepAround (timing : SleepTiming) (ms : Nat) (phase : Phase) : Run ω Unit := do
  if timing = .inherit then alarm
  Run.sleepAround timing ms phase

/-- A sleep around a command, with the alarm. -/
def sleepAroundCommand (command : Command) (timing : SleepTiming) (ms : Nat) (phase : Phase) :
    Run ω Unit := do
  if !command.isQuit then sleepAround alarm timing ms phase

/-- Whether a picture is taken, with the alarm if the rule is to be inherited. -/
def pictured (rule : CaptureRule) (passed : Bool) : Run ω Bool := do
  if rule = .inherit then alarm
  return rule.applies passed

/-- The report of a command, with the alarm. -/
def commandReport (command : Command) (params result : Json) (resolution : Resolution)
    (capture : CaptureRule) : Run ω CommandReport := do
  let params ← if (← Run.switches).disableRedaction then pure params
    else Run.redact command params
  let screenshot ← Run.pictureIf (← pictured alarm capture resolution.passed)
  return ⟨command, params, result, resolution.passed, some resolution.message, screenshot⟩

/-- Reports a command, with the alarm. -/
def reportCommand (command : Command) (params : Json) (answer : Except Failure Response)
    (policy : StepPolicy) : Run ω Unit := do
  if command.isQuit then Run.reportQuit
  else
    let (result, passed) := Run.outcome answer
    let resolution := resolve passed policy.invert policy.alwaysPass
    if (← Run.switches).reportsCommands then
      Run.submitCommand (← commandReport alarm command params result resolution policy.capture)
    else
      Run.note (Log.debug ("Command [" ++ command.name ++ "] - [" ++
        outcomeWord resolution.passed ++ "]"))

/-- Executes a command, with the alarm. -/
def execute (command : Command) (params : Json) : Run ω (Except Failure Response) := do
  Run.noticeTest
  let policy ← Run.policy
  match ← Run.setImplicitWait policy.implicitWait with
  | .error e => return .error e
  | .ok () =>
      sleepAroundCommand alarm command policy.sleepTiming policy.sleep .before
      let answer ← Run.drive .request command params
      sleepAroundCommand alarm command policy.sleepTiming policy.sleep .after
      reportCommand alarm command params answer policy
      return answer

/-- A pause, with the alarm. -/
def pause (ms : Nat) : Run ω Unit := do
  Run.noticeTest
  let policy ← Run.policy
  sleepAround alarm policy.sleepTiming policy.sleep .before
  Run.sleep ms
  sleepAround alarm policy.sleepTiming policy.sleep .after
  let resolution := resolve true policy.invert policy.alwaysPass
  Run.reportStep ("Pause for " ++ toString ms ++ "ms") resolution.message resolution.passed
    (← pictured alarm policy.capture resolution.passed) none none none

/-- A step reported by hand, with the alarm. -/
def reportManualStep (s : ManualStep) : Run ω Unit := do
  Run.noticeTest
  let policy ← Run.policy
  let wanted ← pictured alarm policy.capture s.passed
  Run.reportStep s.description s.message s.passed (s.screenshot || wanted) s.element s.inputs
    s.outputs

/-- Reports an action, with the alarm. -/
def reportAction (a : AddonAction) (answer : AddonAnswer) (resolution : Resolution)
    (capture : CaptureRule) : Run ω Unit := do
  Run.reportStep ("Execute '" ++ a.className ++ "'") resolution.message resolution.passed
    (← pictured alarm capture resolution.passed) (a.locator.map Locator.criteria)
    (some a.parameters) (some (Run.resultsByName answer.fields))

/-- Runs an action, with the alarm. -/
def runAction (a : AddonAction) : Run ω (Except Failure AddonAction) := do
  Run.noticeTest
  let policy ← Run.policy
  match ← Run.setImplicitWait policy.implicitWait with
  | .error e => return .error e
  | .ok () =>
      sleepAround alarm policy.sleepTiming policy.sleep .before
      match ← Run.callAction a with
      | .error e => return .error e
      | .ok answer =>
          sleepAround alarm policy.sleepTiming policy.sleep .after
          let resolution := resolve answer.verdict.isPassed policy.invert policy.alwaysPass
          reportAction alarm a answer resolution policy.capture
          if resolution.passed then return .ok (← Run.takeResults a answer.fields)
          return .error
            (.general ("Error occurred during addon action execution: " ++ answer.message))

/-- The operation with the alarm, if it goes by the policy in force. -/
def perform {α : Type} : Operation α → Run ω α
  | .execute command params => execute alarm command params
  | .pause ms => pause alarm ms
  | .reportManualStep s => reportManualStep alarm s
  | .runAction a => runAction alarm a
  | op => op.perform

/-! ### Where the policy is settled -/

theorem sleepAround_eq {timing : SleepTiming} (h : timing ≠ .inherit) (ms : Nat) (phase : Phase) :
    sleepAround alarm timing ms phase = Run.sleepAround timing ms phase := by
  rw [sleepAround, if_neg h]

theorem sleepAroundCommand_eq (command : Command) {timing : SleepTiming} (h : timing ≠ .inherit)
    (ms : Nat) (phase : Phase) :
    sleepAroundCommand alarm command timing ms phase =
      Run.sleepAroundCommand command timing ms phase := by
  rw [sleepAroundCommand, sleepAround_eq alarm h]
  rfl

theorem pictured_eq {rule : CaptureRule} (h : rule ≠ .inherit) (passed : Bool) :
    pictured alarm rule passed = pure (rule.applies passed) := by
  rw [pictured, if_neg h]

theorem reportCommand_eq (command : Command) (params : Json) (answer : Except Failure Response)
    {policy : StepPolicy} (h : policy.capture ≠ .inherit) :
    reportCommand alarm command params answer policy =
      Run.reportCommand command params answer policy := by
  have hreport : ∀ result resolution,
      commandReport alarm command params result resolution policy.capture =
        Run.commandReport command params result resolution policy.capture := by
    intro result resolution
    rw [commandReport, pictured_eq alarm h]
    rfl
  simp only [reportCommand, hreport, Run.reportCommand]

/-- What follows when the test has been noticed goes by the policy that was in force before. -/
theorem noticeTest_bind_congr {α : Type} {f g : StepPolicy → Run ω α}
    (h : ∀ p, p.IsSettled → f p = g p) (env : Surroundings ω) {r : Runner ω}
    (hr : r.context.policy.IsSettled) :
    (Run.noticeTest >>= fun _ => Run.policy >>= f) env r =
      (Run.noticeTest >>= fun _ => Run.policy >>= g) env r := by
  have hp : (Run.after Run.noticeTest env r).context = r.context :=
    (Run.silent_noticeTest env r).context
  show (Run.policy >>= f) env (Run.after Run.noticeTest env r) =
    (Run.policy >>= g) env (Run.after Run.noticeTest env r)
  generalize Run.after Run.noticeTest env r = noticed at hp ⊢
  show f noticed.context.policy env noticed = g noticed.context.policy env noticed
  rw [hp, h _ hr]

/-- Where the policy is settled the alarm is not heard. -/
theorem perform_eq {α : Type} (op : Operation α) (env : Surroundings ω) {r : Runner ω}
    (hr : r.context.policy.IsSettled) : perform alarm op env r = op.perform env r := by
  cases op with
  | execute command params =>
      refine noticeTest_bind_congr (fun p hp => ?_) env hr
      refine bind_congr fun outcome => ?_
      cases outcome with
      | error e => rfl
      | ok _ =>
          simp only [sleepAroundCommand_eq alarm command hp.1, reportCommand_eq alarm _ _ _ hp.2]
  | pause ms =>
      refine noticeTest_bind_congr (fun p hp => ?_) env hr
      simp only [sleepAround_eq alarm hp.1, pictured_eq alarm hp.2, pure_bind]
  | reportManualStep s =>
      refine noticeTest_bind_congr (fun p hp => ?_) env hr
      rw [pictured_eq alarm hp.2, pure_bind]
  | runAction a =>
      refine noticeTest_bind_congr (fun p hp => ?_) env hr
      refine bind_congr fun outcome => ?_
      cases outcome with
      | error e => rfl
      | ok _ =>
          simp only [sleepAround_eq alarm hp.1]
          refine bind_congr fun _ => bind_congr fun answer => ?_
          cases answer with
          | error e => rfl
          | ok answer =>
              simp only [reportAction, Run.reportAction, pictured_eq alarm hp.2, pure_bind]
  | _ => rfl

end Watch

/-! ## Code -/

/-- Test code that opens scopes and leaves them in any order, and waits. -/
inductive Code (ω : Type) : Type → Type 1 where
  | piece {α : Type} (a : Piece ω α) : Code ω α
  | bind {α β : Type} (m : Code ω β) (f : β → Code ω α) : Code ω α
  | enter (name : String) (kind : ScopeKind) : Code ω Unit
  | leave (name : String) : Code ω Unit
  | wait {α : Type} (timeout interval : Nat)
      (condition : Nat → Code ω (Except Failure (Option α))) : Code ω (Waited α)

namespace Code

variable {ω : Type}

/-- Runs code in which scopes may be left in any order. -/
def run {α : Type} : Code ω α → Run ω α
  | piece a => a.run
  | bind m f => m.run >>= fun b => (f b).run
  | enter name kind => kind.enter name
  | leave name => Run.leave name
  | wait timeout interval condition =>
      Run.waitUntil (fun polls => (condition polls).run) timeout interval

/-- The piece with the alarm in its operation. -/
def watchedPiece {α : Type} (alarm : Run ω Unit) : Piece ω α → Run ω α
  | .perform op _ => Watch.perform alarm op
  | a => a.run

/-- The run with the alarm in its operations, and with one that looks at the policy in force
before and after every piece, every scope that opens or closes and every wait. -/
def watched {α : Type} (alarm : Run ω Unit) : Code ω α → Run ω α
  | piece a => Run.guarded alarm (·.policy.IsSettled) (watchedPiece alarm a)
  | bind m f => watched alarm m >>= fun b => watched alarm (f b)
  | enter name kind => Run.guarded alarm (·.policy.IsSettled) (kind.enter name)
  | leave name => Run.guarded alarm (·.policy.IsSettled) (Run.leave name)
  | wait timeout interval condition => Run.guarded alarm (·.policy.IsSettled) <|
      Run.waitUntil (fun polls => watched alarm (condition polls)) timeout interval

end Code

/-! ## Settled runners -/

/-- The policy in force and each that comes back when a scope is left are settled, and the one in
force has been at every moment since then. -/
structure Runner.Settled {ω : Type} (since r : Runner ω) : Prop where
  context : r.context.policy.IsSettled
  scopes : ∀ s ∈ r.scopes, s.outer.policy.IsSettled
  moments : Within (fun g _ => g.context.policy.IsSettled) since r

namespace Run

variable {ω α : Type} {since : Runner ω}

open Runner (Settled)

theorem lasts_settled : Lasts (Settled since) := by
  intro r r' hs h
  refine ⟨?_, ?_, ?_⟩
  · rw [hs.context]
    exact h.context
  · rw [hs.scopes]
    exact h.scopes
  · obtain ⟨es, he, hp, hend⟩ := hs.moments
    refine Runner.Law.trans h.moments ⟨es, he, hp.mono fun g e hg => ?_, hend⟩
    rw [hg]
    exact h.context

/-- A change of context leaves the policy settled if it puts no other in force. -/
theorem settled_of_adjusted {r r' : Runner ω} (h : Settled since r)
    (ht : r'.trace = r.trace ++ [.adjusted r'.switches r'.context])
    (hc : r'.context.policy.IsSettled) (hs : ∀ s ∈ r'.scopes, s.outer.policy.IsSettled) :
    Settled since r' :=
  ⟨hc, hs, Runner.Law.trans h.moments ⟨_, ht, ⟨h.context, trivial⟩, rfl⟩⟩

theorem agree_settled_enter (name : String) (kind : ScopeKind) :
    Agree (Settled since) (Settled since) (kind.enter name) (kind.enter name) := by
  rw [kind.enter_eq]
  refine .of_after fun env r h => settled_of_adjusted h rfl ?_ ?_
  · cases kind with
    | policy p => exact h.context.within p
    | polling => exact h.context
  · exact List.forall_mem_append.2 ⟨h.scopes, List.forall_mem_singleton.2 h.context⟩

/-- Whatever scope is left, the context that comes back was settled when it was saved. -/
theorem agree_settled_leave (name : String) :
    Agree (Settled since) (Settled since) (leave name) (leave name) := by
  refine .of_after fun env r h => ?_
  cases hfind : r.scopes.find? fun s => s.name == name with
  | none =>
      rw [after_leave_none env hfind]
      exact settled_of_adjusted h rfl h.context h.scopes
  | some s =>
      rw [after_leave_some env hfind]
      refine settled_of_adjusted h rfl (h.scopes s (List.mem_of_find?_eq_some hfind)) ?_
      exact fun s' hs' => h.scopes s' (List.mem_of_mem_eraseP hs')

end Run

open Run Runner in
/-- The induction: between any two steps of the code the runner is settled. -/
theorem Code.agree_watched {ω α : Type} {since : Runner ω} (alarm : Run ω Unit) (t : Code ω α) :
    Agree (Settled since) (Settled since) t.run (t.watched alarm) := by
  have hguarded : ∀ {β : Type} {m m' : Run ω β}, Agree (Settled since) (Settled since) m m' →
      Agree (Settled since) (Settled since) m (guarded alarm (·.policy.IsSettled) m') :=
    agree_guarded alarm (fun _ h => h.context) (fun _ h => h.context)
  have hset : ∀ {c : StepContext}, c.policy.IsSettled →
      Agree (Settled since) (Settled since) (setContext c) (setContext c) := fun hc =>
    .of_after fun env r h => settled_of_adjusted h rfl hc h.scopes
  induction t with
  | piece a =>
      refine hguarded fun env r h => ⟨?_, lasts_settled _ _ (a.stays env r) h⟩
      cases a with
      | perform op hop => exact Watch.perform_eq alarm op env h.context
      | pure | get | read | setSwitches | submitStep => rfl
  | bind m f ihm ihf => exact .bind ihm ihf
  | enter name kind => exact hguarded (agree_settled_enter name kind)
  | leave name => exact hguarded (agree_settled_leave name)
  | wait timeout interval condition ih =>
      exact hguarded (.waitUntil lasts_settled (fun r h => hset h.context) ih
        (fun r h => hset h.context) _ _)

/-- Whatever scopes code opens with a new runner and in whatever order it leaves them, and whatever
the driver and the Agent answer: the policy in force is settled at every moment and at the end, and
no alarm is heard that would sound where it is not, or where a step would go by a policy that leaves
something open. -/
theorem Code.policy_settled {ω α : Type} (t : Code ω α) (env : Surroundings ω) (config : Config)
    (world : ω) :
    (∀ before e later, (Run.after t.run env (.ofConfig config world)).trace =
      before ++ e :: later → (before.foldl Regime.next
        (Runner.ofConfig config world).regime).context.policy.IsSettled) ∧
    (Run.after t.run env (.ofConfig config world)).context.policy.IsSettled ∧
    ∀ alarm, t.watched alarm env (.ofConfig config world) =
      t.run env (.ofConfig config world) := by
  have hstart : Runner.Settled (.ofConfig config world) (Runner.ofConfig config world) :=
    ⟨StepPolicy.isSettled_standard, List.forall_mem_nil _, Runner.Law.refl _⟩
  have hagree := fun alarm => t.agree_watched alarm env _ hstart
  obtain ⟨-, hend⟩ := hagree (pure ())
  refine ⟨fun before e later htrace => ?_, hend.context, fun alarm => (hagree alarm).1⟩
  obtain ⟨es, he, hthrough, -⟩ := hend.moments
  have hes : es = before ++ e :: later := he.symm.trans htrace
  rw [hes] at hthrough
  exact hthrough.at

end Courier
