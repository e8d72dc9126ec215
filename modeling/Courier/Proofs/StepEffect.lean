import Courier.Proofs.CommandEffect

/-!
# What telling a step does

A step is told by a pause, by hand, by the event of a test framework or by an addon action that
the Agent has executed. Each of these has something of its own to do before: sleeps, a call to
the driver, a call to the Agent. From then on they are one and the same. What they have to tell
is a step as test code could tell it by hand, with the outcome as the policy judges it where the
step is not by hand; whether a picture is taken, what leaves for the Agent and what is aside
afterwards depends on nothing else.

As for commands, all of it is written down before anything is run, and the runs are then gone
through piece by piece. The identifier of a step is left open. How many have been made is not
among the things a runner remembers for its reports.
-/

namespace Courier

open Desk (released)

/-! ## What there is to tell -/

/-- A call that may come to a step. -/
inductive StepCall where
  | pause (ms : Nat)
  | manual (s : ManualStep)
  | finished (description : String) (passed : Bool) (message : Option String)
  | action (a : AddonAction)

namespace StepCall

/-- What the call runs. -/
def run {ω : Type} : StepCall → Run ω Unit
  | pause ms => Run.pause ms
  | manual s => Run.reportManualStep s
  | finished description passed message => Run.onStepFinished description passed message
  | action a => do let _ ← Run.runAction a

/-- The outcome comes from the caller, and the policy has no say in it. -/
def isByHand : StepCall → Bool
  | manual _ | finished .. => true
  | pause _ | action _ => false

end StepCall

namespace StepPolicy

variable (p : StepPolicy)

/-- The outcome as the policy judges it. -/
def judge (raw : Bool) : Resolution := resolve raw p.invert p.alwaysPass

/-- The step that tells a pause. -/
def pauseStep (ms : Nat) : ManualStep :=
  ⟨"Pause for " ++ toString ms ++ "ms", (p.judge true).message, (p.judge true).passed, false,
    none, none, none⟩

/-- The parameters are told as they were before the results came in. -/
def actionStep (a : AddonAction) (answer : AddonAnswer) : ManualStep :=
  ⟨"Execute '" ++ a.className ++ "'", (p.judge answer.verdict.isPassed).message,
    (p.judge answer.verdict.isPassed).passed, false, a.locator.map Locator.criteria,
    some a.parameters, some (Run.resultsByName answer.fields)⟩

/-- What the caller of an action gets. -/
def actionResult (a : AddonAction) (answer : AddonAnswer) : Except Failure AddonAction :=
  if (p.judge answer.verdict.isPassed).passed then .ok (a.withOutputs answer.fields)
  else .error (.general ("Error occurred during addon action execution: " ++ answer.message))

end StepPolicy

/-- The report that leaves for the Agent, of whatever kind. -/
def Event.report? : Event → Option Report
  | .reported report => some report
  | _ => none

/-- The reports that have left for the Agent. -/
def Runner.sent {ω : Type} (r : Runner ω) : List Report := r.trace.filterMap Event.report?

/-! ## The course of a step -/

namespace Occasion

variable {ω : Type} (x : Occasion ω)

/-! ### Before the step -/

/-- What happens before the Agent is asked to execute an action. -/
def beforeAction : List Event := x.waited ++ x.policy.rest .before

/-- What the Agent answers to an action. -/
def reply (a : AddonAction) : Except Failure AddonAnswer :=
  (x.env.runAction a (x.env.worldAfter x.beforeAction x.runner.world)).1.answer

/-- The answer to an action that the Agent has executed. -/
def executed? (a : AddonAction) : Option AddonAnswer :=
  if x.refusal?.isSome then none else (x.reply a).toOption

/-- What happens before a step is told. -/
def opening : StepCall → List Event
  | .pause ms =>
      x.announcement ++ x.policy.rest .before ++ [.slept (timer ms)] ++ x.policy.rest .after
  | .manual _ | .finished .. => x.announcement
  | .action a => x.beforeAction ++ [.ranAction a] ++ x.policy.rest .after

/-- The driver is called for the implicit wait of an action. -/
def openingCalls : StepCall → List Drive
  | .action _ => x.wait?.toList
  | _ => []

/-- How the step has ended as it is, whatever the policy makes of it. -/
def raw? : StepCall → Option Bool
  | .pause _ => some true
  | .manual s => some s.passed
  | .finished _ passed _ => some passed
  | .action a => (x.executed? a).map fun answer => answer.verdict.isPassed

/-- The step there is to tell. -/
def step? : StepCall → Option ManualStep
  | .pause ms => some (x.policy.pauseStep ms)
  | .manual s => some s
  | .finished description passed message => some (.plain description (message.getD "") passed)
  | .action a => (x.executed? a).map (x.policy.actionStep a)

/-! ### The step -/

variable (opening : List Event) (s : ManualStep) (guid : String)

/-- A picture was asked for, or the rule in force has one taken of this outcome. -/
def wanted : Bool := s.screenshot || x.policy.capture.applies s.passed

/-- The call for a picture, if one is to be taken. -/
def picture? : Option Drive := pictureCall? x.env.session (x.wanted s)

/-- The picture, if it could be taken. -/
def picture : Option String := (x.picture? s).bind fun c =>
  pictureIn (x.env.answer c (x.env.worldAfter opening x.runner.world))

/-- The step as it is reported, with this identifier. -/
def report : StepReport where
  guid := guid
  description := s.description
  message := s.message
  passed := s.passed
  screenshot := x.picture opening s
  element := s.element
  inputs := s.inputs
  outputs := s.outputs

/-- What was aside leaves first, and then the step. -/
def leaving : List Report :=
  if x.runner.switches.disableReports then []
  else
    released x.runner.stash x.runner.switches.reportsCommands ++ [.step (x.report opening s guid)]

/-- What happens once the step is there to be told. -/
def telling : List Event :=
  if x.runner.switches.disableReports then []
  else
    (x.picture? s).toList.map Drive.event ++
      .built (.step (x.report opening s guid)) x.runner.context.polling ::
      .flushed x.runner.switches.reportsCommands :: (x.leaving opening s guid).map .reported

/-- The command that is aside when the step has been told. -/
def aside : Option CommandReport :=
  if x.runner.switches.disableReports then x.runner.stash else none

end Occasion

/-! ## The pieces -/

namespace Run

variable {ω α β : Type}

open Runner (Comes)

variable (env : Surroundings ω) (r : Runner ω)

theorem does_newGuid : Does env r newGuid [] r.stash (env.guid r.made) :=
  ⟨rfl, rfl, (List.append_nil _).symm, rfl⟩

theorem does_forM_note (f : β → Log.Entry) (bs : List β) :
    Does env r (bs.forM fun b => note (f b)) [] r.stash () := by
  induction bs generalizing r with
  | nil => exact does_pure ()
  | cons b bs ih => exact does_bind_same (does_note env r (f b)) fun r' _ => ih r'

/-- What is asked of the Agent is done, and what there is to say about the answer is no deed. -/
theorem does_ask {e : Event} {call : Surroundings ω → ω → Reply α × ω} (he : e.isDeed = true)
    (heffect : ∀ w, (call env w).2 = env.effect w e) :
    Does env r (ask e call) [e] r.stash (call env r.world).1.answer := by
  let asked : Runner ω := { r with trace := r.trace ++ [e], world := (call env r.world).2 }
  have hasked : Comes env [e] r.stash r asked := by
    show Comes env [e] r.stash r { r with trace := r.trace ++ [e], world := (call env r.world).2 }
    rw [heffect]
    exact .deed he r.clock
  have hnoted := (does_forM_note env asked id (call env r.world).1.notes).comes
  exact ⟨rfl, hasked.trans hnoted⟩

theorem does_callAction (a : AddonAction) :
    Does env r (callAction a) [.ranAction a] r.stash (env.runAction a r.world).1.answer :=
  does_ask env r rfl fun _ => rfl

theorem does_takeResults (a : AddonAction) (fields : List ResultField) :
    Does env r (takeResults a fields) [] r.stash (a.withOutputs fields) := by
  exact does_bind_same (does_forM_note env r _ _) fun r' _ => does_pure _

end Run

/-! ## The course is taken -/

namespace Occasion

variable {ω : Type} {x : Occasion ω} {r : Runner ω} {opening : List Event}

open Run
open Runner (Comes)

/-- This runner has told the step after this had happened. -/
def Tells (x : Occasion ω) (opening : List Event) (s : ManualStep) (r : Runner ω) : Prop :=
  ∃ guid, Comes x.env (opening ++ x.telling opening s guid) x.aside x.runner.noticed r

theorem tells_submitStep (h : Comes x.env opening x.runner.stash x.runner.noticed r)
    (s : ManualStep) (hon : x.runner.switches.disableReports = false) :
    x.Tells opening s (after (do
      let screenshot ← pictureIf (x.wanted s)
      let guid ← newGuid
      submitStep ⟨guid, s.description, s.message, s.passed, screenshot, s.element, s.inputs,
        s.outputs⟩) x.env r) := by
  have hpicture : Does x.env r (pictureIf (x.wanted s)) ((x.picture? s).toList.map Drive.event)
      r.stash (x.picture opening s) := by
    have hdoes := does_pictureIf x.env r (x.wanted s)
    rw [world_of_comes h] at hdoes
    exact hdoes
  refine comes_bind_same (Q := fun _ => x.Tells opening s) h hpicture fun r₁ h₁ => ?_
  have hguid := does_newGuid x.env r₁
  generalize x.env.guid r₁.made = guid at hguid
  refine comes_bind_same (Q := fun _ => x.Tells opening s) h₁ hguid fun r₂ h₂ => ?_
  have hsend := does_sendAfterStash x.env r₂ (.step (x.report opening s guid))
  rw [h₂.stash, switches_of_comes h₂, context_of_comes h₂] at hsend
  have hall := h₂.trans hsend.comes
  refine ⟨guid, ?_⟩
  rw [telling, leaving, aside, hon]
  rw [List.append_nil, List.append_assoc] at hall
  exact hall

/-- The step is told after whatever came before it, or reports are off and nothing is done. -/
theorem tells_reportStep (h : Comes x.env opening x.runner.stash x.runner.noticed r)
    (s : ManualStep) :
    x.Tells opening s (after (reportStep s.description s.message s.passed (x.wanted s) s.element
      s.inputs s.outputs) x.env r) := by
  have hlook : Does x.env r switches [] r.stash x.runner.switches := ⟨switches_of_comes h, .refl⟩
  unfold reportStep
  refine comes_bind_same (Q := fun _ => x.Tells opening s) h hlook fun r₁ h₁ => ?_
  rw [List.append_nil] at h₁
  cases hoff : x.runner.switches.disableReports with
  | false => exact tells_submitStep h₁ s hoff
  | true =>
      have hnoted := h₁.trans (does_note x.env r₁ (Log.debug ("Step [" ++ s.description ++
        "] - [" ++ outcomeWord s.passed ++ "]"))).comes
      rw [h₁.stash] at hnoted
      refine ⟨"", ?_⟩
      rw [telling, aside, hoff]
      exact hnoted

theorem tells_pause (ms : Nat) :
    x.Tells (x.opening (.pause ms)) (x.policy.pauseStep ms) (after (pause ms) x.env x.runner) := by
  unfold pause
  rw [after_bind]
  have h := comes_noticed (x := x)
  generalize after noticeTest x.env x.runner = r at h
  rw [after_bind, result_policy h]
  have hrest := fun r phase => does_sleepAround x.env r x.policy phase
  refine comes_bind_same (Q := fun _ => x.Tells _ _) h (hrest r .before) fun r₁ h₁ => ?_
  refine comes_bind_same (Q := fun _ => x.Tells _ _) h₁ (does_sleep x.env r₁ ms) fun r₂ h₂ => ?_
  refine comes_bind_same (Q := fun _ => x.Tells _ _) h₂ (hrest r₂ .after) fun r₃ h₃ => ?_
  exact tells_reportStep h₃ (x.policy.pauseStep ms)

theorem tells_reportManualStep (s : ManualStep) :
    x.Tells x.announcement s (after (reportManualStep s) x.env x.runner) := by
  unfold reportManualStep
  rw [after_bind]
  have h := comes_noticed (x := x)
  generalize after noticeTest x.env x.runner = r at h
  rw [after_bind, result_policy h]
  exact tells_reportStep h s

theorem Tells.idle {s : ManualStep} {α : Type} {m : Run ω α} {a : α} (h : x.Tells opening s r)
    (hm : Does x.env r m [] r.stash a) : x.Tells opening s (after m x.env r) := by
  obtain ⟨guid, hc⟩ := h
  have hall := hc.trans hm.comes
  rw [hc.stash, List.append_nil] at hall
  exact ⟨guid, hall⟩

/-- What comes of an action: the driver refuses to wait, the Agent does not answer, or the step
is told and its outcome decides what the caller gets. -/
theorem runAction_cases {a : AddonAction} {Q : Except Failure AddonAction → Runner ω → Prop}
    (hrefused : ∀ e r, x.refusal? = some e →
      Comes x.env x.waited x.runner.stash x.runner.noticed r → Q (.error e) r)
    (hunanswered : ∀ e r, x.refusal? = none → x.reply a = .error e →
      Comes x.env (x.beforeAction ++ [.ranAction a]) x.runner.stash x.runner.noticed r →
      Q (.error e) r)
    (htold : ∀ answer r, x.refusal? = none → x.reply a = .ok answer →
      x.Tells (x.opening (.action a)) (x.policy.actionStep a answer) r →
      Q (x.policy.actionResult a answer) r) :
    Q (result (runAction a) x.env x.runner) (after (runAction a) x.env x.runner) := by
  unfold runAction
  rw [result_bind, after_bind]
  have h := comes_noticed (x := x)
  generalize after noticeTest x.env x.runner = r at h
  rw [result_bind, after_bind, result_policy h]
  have hrest := fun r phase => does_sleepAround x.env r x.policy phase
  refine comes_bind_same (Q := Q) h (does_wait h) fun r₁ h₁ => ?_
  cases hrefusal : x.refusal? with
  | some e => exact hrefused e r₁ hrefusal h₁
  | none =>
      refine comes_bind_same (Q := Q) h₁ (hrest r₁ .before) fun r₂ h₂ => ?_
      have hcall : Does x.env r₂ (callAction a) [.ranAction a] r₂.stash (x.reply a) := by
        have hdoes := does_callAction x.env r₂ a
        rw [world_of_comes h₂] at hdoes
        exact hdoes
      refine comes_bind_same (Q := Q) h₂ hcall fun r₃ h₃ => ?_
      cases hreply : x.reply a with
      | error e => exact hunanswered e r₃ hrefusal hreply h₃
      | ok answer =>
          refine comes_bind_same (Q := Q) h₃ (hrest r₃ .after) fun r₄ h₄ => ?_
          have htells := tells_reportStep h₄ (x.policy.actionStep a answer)
          have hq := fun r => htold answer r hrefusal hreply
          unfold StepPolicy.actionResult at hq
          rw [result_bind, after_bind]
          generalize hr₅ : after (reportAction a answer _ _) x.env r₄ = r₅
          have htold₅ : x.Tells (x.opening (.action a)) (x.policy.actionStep a answer) r₅ := by
            rw [← hr₅]
            exact htells
          -- Whether the results are taken over is up to the outcome that was told.
          show Q
            (result (if (x.policy.judge answer.verdict.isPassed).passed then _ else _) x.env r₅)
            (after (if (x.policy.judge answer.verdict.isPassed).passed then _ else _) x.env r₅)
          split at hq
          · next hpassed =>
              rw [if_pos hpassed]
              have htake := does_takeResults x.env r₅ a answer.fields
              rw [result_bind, after_bind, htake.result]
              exact hq _ (htold₅.idle htake)
          · next hpassed =>
              rw [if_neg hpassed]
              exact hq _ htold₅

theorem executed?_eq_some {a : AddonAction} {answer : AddonAnswer} :
    x.executed? a = some answer ↔ x.refusal? = none ∧ x.reply a = .ok answer := by
  unfold executed?
  cases x.refusal? with
  | some e => simp
  | none => cases x.reply a <;> simp [Except.toOption]

theorem tells_run {call : StepCall} {s : ManualStep} (h : x.step? call = some s) :
    x.Tells (x.opening call) s (after call.run x.env x.runner) := by
  cases call with
  | pause ms =>
      cases h
      exact tells_pause ms
  | manual =>
      cases h
      exact tells_reportManualStep s
  | finished description passed message =>
      cases h
      exact tells_reportManualStep _
  | action a =>
      obtain ⟨answer, hexecuted, rfl⟩ := Option.map_eq_some_iff.1 h
      obtain ⟨hrefusal, hreply⟩ := executed?_eq_some.1 hexecuted
      refine runAction_cases (Q := fun _ => x.Tells _ _) ?_ ?_ ?_
      · intro e r hsome
        rw [hrefusal] at hsome
        cases hsome
      · intro e r _ herror
        rw [hreply] at herror
        cases herror
      · intro answer' r _ hok htells
        rw [hreply] at hok
        cases hok
        exact htells

/-! ## What is read off the course -/

/-- These reports leave, and the driver gets these calls. -/
structure Shows (es : List Event) (reports : List Report) (calls : List Drive) : Prop where
  sent : es.filterMap Event.report? = reports
  called : es.filterMap Event.call? = calls

theorem Shows.append {es es' : List Event} {reports reports' : List Report}
    {calls calls' : List Drive} (h : Shows es reports calls) (h' : Shows es' reports' calls') :
    Shows (es ++ es') (reports ++ reports') (calls ++ calls') := by
  constructor
  · rw [List.filterMap_append, h.sent, h'.sent]
  · rw [List.filterMap_append, h.called, h'.called]

theorem shows_announcement (x : Occasion ω) :
    Shows x.announcement (x.runner.testOver.toList.map .test) [] := by
  unfold announcement announced
  cases x.runner.testOver with
  | none => exact ⟨rfl, rfl⟩
  | some t => exact ⟨rfl, rfl⟩

theorem shows_rest (p : StepPolicy) (phase : Phase) : Shows (p.rest phase) [] [] := by
  unfold StepPolicy.rest
  split <;> exact ⟨rfl, rfl⟩

theorem shows_calls (calls : List Drive) : Shows (calls.map Drive.event) [] calls := by
  induction calls with
  | nil => exact ⟨rfl, rfl⟩
  | cons c calls ih => exact ⟨ih.sent, congrArg (c :: ·) ih.called⟩

theorem shows_reported (reports : List Report) : Shows (reports.map .reported) reports [] := by
  induction reports with
  | nil => exact ⟨rfl, rfl⟩
  | cons report reports ih => exact ⟨congrArg (report :: ·) ih.sent, ih.called⟩

theorem shows_waited (x : Occasion ω) :
    Shows x.waited (x.runner.testOver.toList.map .test) x.wait?.toList := by
  have h := (shows_announcement x).append (shows_calls x.wait?.toList)
  rw [List.append_nil] at h
  exact h

theorem shows_opening (x : Occasion ω) (call : StepCall) :
    Shows (x.opening call) (x.runner.testOver.toList.map .test) (x.openingCalls call) := by
  have hbefore := shows_rest x.policy .before
  have hafter := shows_rest x.policy .after
  cases call with
  | pause ms =>
      have hslept : Shows [.slept (timer ms)] [] [] := ⟨rfl, rfl⟩
      have h := (((shows_announcement x).append hbefore).append hslept).append hafter
      simp only [List.append_nil] at h
      exact h
  | manual | finished => exact shows_announcement x
  | action a =>
      have hran : Shows [.ranAction a] [] [] := ⟨rfl, rfl⟩
      have h := (((shows_waited x).append hbefore).append hran).append hafter
      simp only [List.append_nil] at h
      exact h

theorem shows_telling (x : Occasion ω) (opening : List Event) (s : ManualStep) (guid : String) :
    Shows (x.telling opening s guid) (x.leaving opening s guid)
      (if x.runner.switches.disableReports then [] else (x.picture? s).toList) := by
  unfold telling
  cases hoff : x.runner.switches.disableReports with
  | true =>
      unfold leaving
      rw [hoff]
      exact ⟨rfl, rfl⟩
  | false =>
      have hbuilt : Shows [.built (.step (x.report opening s guid)) x.runner.context.polling,
        .flushed x.runner.switches.reportsCommands] [] [] := ⟨rfl, rfl⟩
      have h := (shows_calls (x.picture? s).toList).append
        (hbuilt.append (shows_reported (x.leaving opening s guid)))
      simpa using h

theorem Shows.of_comes {es : List Event} {reports : List Report} {calls : List Drive}
    {aside : Option CommandReport} (h : Shows es reports calls)
    (hc : Comes x.env es aside x.runner.noticed r) :
    r.sent = x.runner.sent ++ reports ∧ r.calls = x.runner.calls ++ calls := by
  have hdeeds : r.deeds = x.runner.deeds ++ es := by rw [hc.deeds, Runner.noticed_deeds]
  constructor
  · rw [Runner.sent, Runner.sent, Runner.filterMap_trace _ fun _ => rfl,
      Runner.filterMap_trace _ fun _ => rfl, hdeeds, List.filterMap_append, h.sent]
  · rw [Runner.calls, Runner.calls, Runner.filterMap_trace _ fun _ => rfl,
      Runner.filterMap_trace _ fun _ => rfl, hdeeds, List.filterMap_append, h.called]

/-- Whatever comes to a step tells it in one way: what happens and in which order, which reports
leave, which calls the driver gets, what is aside afterwards and what becomes of the world. Only
the outcome is taken as it is from a step by hand, and judged by the policy from the others. -/
theorem step_effect {call : StepCall} {s : ManualStep} (h : x.step? call = some s) :
    ∃ guid raw,
      x.raw? call = some raw ∧
      s.passed = (if call.isByHand then raw else (x.policy.judge raw).passed) ∧
      (after call.run x.env x.runner).deeds =
        x.runner.deeds ++ (x.opening call ++ x.telling (x.opening call) s guid) ∧
      (after call.run x.env x.runner).sent =
        x.runner.sent ++ (x.runner.testOver.toList.map .test ++ x.leaving (x.opening call) s guid) ∧
      (after call.run x.env x.runner).calls = x.runner.calls ++ (x.openingCalls call ++
        if x.runner.switches.disableReports then [] else (x.picture? s).toList) ∧
      (after call.run x.env x.runner).memory = { x.runner.noticed.memory with stash := x.aside } ∧
      (after call.run x.env x.runner).world =
        x.env.worldAfter (x.opening call ++ x.telling (x.opening call) s guid) x.runner.world := by
  obtain ⟨guid, hc⟩ := tells_run h
  have hshows := (shows_opening x call).append (shows_telling x (x.opening call) s guid)
  obtain ⟨hsent, hcalls⟩ := hshows.of_comes hc
  obtain ⟨hmemory, hdeeds, hworld⟩ := hc
  rw [Runner.noticed_deeds] at hdeeds
  rw [Runner.noticed_world] at hworld
  have hraw : ∃ raw, x.raw? call = some raw ∧
      s.passed = (if call.isByHand then raw else (x.policy.judge raw).passed) := by
    cases call with
    | pause | manual | finished =>
        cases h
        exact ⟨_, rfl, rfl⟩
    | action a =>
        obtain ⟨answer, hexecuted, rfl⟩ := Option.map_eq_some_iff.1 h
        exact ⟨answer.verdict.isPassed, by rw [raw?, hexecuted, Option.map_some], rfl⟩
  obtain ⟨raw, hraw, hpassed⟩ := hraw
  exact ⟨guid, raw, hraw, hpassed, hdeeds, hsent, hcalls, hmemory, hworld⟩

/-- Surroundings in which actions fail and the screen cannot be pictured. -/
def failingSurroundings : Surroundings Unit :=
  Script.surroundings ⟨[], ["screenshot"], some ⟨.failed, "No such field", []⟩, ⟨.passed, "", none⟩⟩
    ⟨none, "session", .w3c, []⟩ fun _ => "step"

/-- The failing action is about to be executed. -/
def failingAction : Occasion Unit := ⟨failingSurroundings, .ofConfig .default ()⟩

/-- An action without parameters. -/
def signing : AddonAction := ⟨"guid", "Sign", [], none⟩

/-- The picture that cannot be taken is asked for once, and the step is told without it. -/
theorem step_effect_failingAction :
    ∃ s guid, failingAction.step? (.action signing) = some s ∧ s.passed = false ∧
      (after (StepCall.action signing).run failingAction.env failingAction.runner).sent =
        [.step ⟨guid, s.description, s.message, false, none, s.element, s.inputs, s.outputs⟩] ∧
      (after (StepCall.action signing).run failingAction.env failingAction.runner).calls =
        [⟨.picture, .screenshot, .object [("sessionId", .str "session")]⟩] := by
  have htold : failingAction.step? (.action signing) =
      some (failingAction.policy.actionStep signing ⟨.failed, "No such field", []⟩) := rfl
  obtain ⟨guid, raw, -, -, -, hsent, hcalls, -⟩ := step_effect htold
  exact ⟨_, guid, htold, rfl, hsent, hcalls⟩

end Occasion

end Courier
