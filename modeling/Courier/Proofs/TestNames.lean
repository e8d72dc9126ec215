import Courier.Proofs.TestReports
import Mathlib

/-!
# The tests that are reported by themselves

A name is set at one time and noticed at another, and what is reported when it is noticed is
the test before it. Over a whole run this comes to a fold over the names seen: the latest name
known is carried along, a name that is seen takes its place unless it is no name or the
same again, and the name that has given way is reported, if it is one and is not excluded.
At the end of the session the last name is reported as well.

Only the register of a runner matters for this: the names, what is excluded, and which tests
have been reported. Of all that is done after a name has been noticed, nothing touches the
register but a test reported by hand, and it adds just this test.
-/

namespace Courier

open Run

/-- The test that is reported. -/
def Event.test? : Event → Option TestReport
  | .reported (.test t) => some t
  | _ => none

/-- What the reports of tests depend on, and the tests that have been reported. -/
structure Register where
  switches : Switches
  excludedTests : List String
  latestTest : String
  currentTest : String
  tests : List TestReport

namespace Runner

variable {ω : Type} {r r' : Runner ω}

/-- What a runner knows about tests and their reports. -/
def register (r : Runner ω) : Register where
  switches := r.switches
  excludedTests := r.excludedTests
  latestTest := r.latestTest
  currentTest := r.currentTest
  tests := r.trace.filterMap Event.test?

/-- Nothing that has to do with tests is changed. -/
def Aloof (r r' : Runner ω) : Prop := r'.register = r.register

instance : Law (@Aloof ω) where
  refl _ := rfl
  trans h h' := h'.trans h

theorem Announces.register {t : Option TestReport} (h : r.Announces r' t) :
    r'.register = { r.register with tests := r.register.tests ++ t.toList } := by
  obtain ⟨hm, es, he, hp⟩ := h
  have hplain : es.filterMap Event.test? = [] := List.filterMap_eq_nil_iff.2 fun e hes => by
    have h := hp e hes
    cases e with
    | called | slept | ranAction | ranCodeblock | noted => rfl
    | built | flushed | reported | adjusted => cases h
  have hann : (announced r.context.polling t).filterMap Event.test? = t.toList := by
    cases t <;> rfl
  have htests : r'.register.tests = r.register.tests ++ t.toList := by
    show r'.trace.filterMap Event.test? = _
    rw [he, List.filterMap_append, List.filterMap_append, hplain, hann]
    rfl
  have hnames : r'.register = { r.register with tests := r'.register.tests } :=
    (congrArg (fun v : Runner Unit => Register.mk v.switches v.excludedTests v.latestTest
      v.currentTest r'.register.tests) hm :)
  rw [hnames, htests]

theorem Still.aloof (h : Still r r') : Aloof r r' := by
  have hr := h.announces.register
  rwa [Option.toList_none, List.append_nil] at hr

end Runner

namespace Run

variable {ω α : Type} (env : Surroundings ω) (r : Runner ω)

open Runner (Aloof)

/-! ## What leaves the register alone -/

theorem aloof_modifyGet {f : Runner ω → α × Runner ω} (h : ∀ r, (f r).2.register = r.register) :
    Obeys Aloof (modifyGet f : Run ω α) := fun _ r => h r

theorem aloof_emit {e : Event} (h : e.test? = none) : Obeys Aloof (emit e : Run ω Unit) := by
  refine aloof_modifyGet fun r => congrArg (Register.mk _ _ _ _) ?_
  show (r.trace ++ [e]).filterMap Event.test? = _
  rw [List.filterMap_append, List.filterMap_cons_none h, List.filterMap_nil, List.append_nil]

theorem aloof_deliver {x : Report} (h : (Event.reported x).test? = none) :
    Obeys Aloof (deliver x : Run ω Unit) :=
  .bind (aloof_emit h) fun _ => .bind .read fun _ => aloof_modifyGet fun _ => rfl

theorem aloof_build (x : Report) : Obeys Aloof (build x : Run ω Unit) :=
  .bind .get fun _ => aloof_emit rfl

theorem aloof_adjust {change : Runner ω → Runner ω} (h : ∀ r, (change r).register = r.register) :
    Obeys Aloof (adjust change : Run ω Unit) :=
  .bind (aloof_modifyGet h) fun _ => .bind .get fun _ => aloof_emit rfl

theorem aloof_still {m : Run ω α} (h : Obeys Runner.Still m) : Obeys Aloof m :=
  h.mono Runner.Still.aloof

theorem aloof_takeStash : Obeys Aloof (takeStash : Run ω _) :=
  .bind (aloof_still still_switches) fun _ => .bind (aloof_emit rfl) fun _ =>
    aloof_modifyGet fun _ => rfl

theorem aloof_clearStash : Obeys Aloof (clearStash : Run ω Unit) := by
  refine .bind aloof_takeStash fun stash => ?_
  cases stash with
  | none => exact .pure _
  | some report =>
      refine .bind (aloof_still still_switches) fun _ => ?_
      split
      · exact aloof_deliver rfl
      · exact .pure _

theorem aloof_submitCommand (report : CommandReport) :
    Obeys Aloof (submitCommand report : Run ω Unit) := by
  refine .bind (aloof_build _) fun _ => .bind .get fun _ => ?_
  dsimp only
  split
  · exact aloof_modifyGet fun _ => rfl
  · refine .bind aloof_takeStash fun stash => ?_
    cases stash with
    | none => exact aloof_deliver rfl
    | some earlier => exact .bind (aloof_deliver rfl) fun _ => aloof_deliver rfl

theorem aloof_reportCommand {command : Command} (h : command.isQuit = false) (params : Json)
    (answer : Except Failure Response) (policy : StepPolicy) :
    Obeys Aloof (reportCommand command params answer policy : Run ω Unit) := by
  unfold reportCommand
  rw [h]
  generalize outcome answer = told
  obtain ⟨told, passed⟩ := told
  refine .bind (aloof_still still_switches) fun _ => ?_
  split
  · exact .bind (aloof_still (still_commandReport _ _ _ _ _)) fun _ => aloof_submitCommand _
  · exact aloof_still (still_note _)

theorem aloof_submitStep (report : StepReport) : Obeys Aloof (submitStep report : Run ω Unit) :=
  .bind (aloof_build _) fun _ => .bind aloof_clearStash fun _ => aloof_deliver rfl

theorem aloof_reportStep (description message : String) (passed pictured : Bool)
    (element : Option SearchCriteria) (inputs outputs : Option Object) :
    Obeys Aloof (reportStep description message passed pictured element inputs outputs :
      Run ω Unit) := by
  refine .bind (aloof_still still_switches) fun _ => ?_
  split
  · exact aloof_still (still_note _)
  · refine .bind (aloof_still (still_pictureIf _)) fun _ => ?_
    refine .bind (aloof_still still_newGuid) fun _ => ?_
    exact aloof_submitStep _

end Run

/-! ## What is noticed -/

namespace Register

/-- Tests are reported, and by themselves. -/
structure IsOpen (g : Register) : Prop where
  reports : g.switches.disableReports = false
  tests : g.switches.disableAutoTestReports = false

/-- The report of the latest test known, if it is to be reported. -/
def due (g : Register) : List TestReport :=
  if g.latestTest = Config.unnamedTest ∨ g.latestTest ∈ g.excludedTests then []
  else [⟨g.latestTest, true, none⟩]

/-- These tests have been reported as well. -/
def reported (g : Register) (ts : List TestReport) : Register := { g with tests := g.tests ++ ts }

/-- The current test has been given this name. -/
def named (g : Register) (name : String) : Register := { g with currentTest := name }

/-- The register once the name of the running test has been looked at. -/
def noticed (g : Register) : Register :=
  if g.currentTest = g.latestTest ∨ g.currentTest = Config.unnamedTest then g
  else { g.reported g.due with latestTest := g.currentTest }

variable (g : Register)

@[simp] theorem reported_nil : g.reported [] = g :=
  congrArg (Register.mk _ _ _ _) (List.append_nil _)

@[simp] theorem currentTest_noticed : g.noticed.currentTest = g.currentTest := by
  unfold noticed
  split <;> rfl

@[simp] theorem switches_noticed : g.noticed.switches = g.switches := by
  unfold noticed
  split <;> rfl

theorem IsOpen.of_switches {g g' : Register} (h : g.IsOpen) (hs : g'.switches = g.switches) :
    g'.IsOpen :=
  ⟨(congrArg Switches.disableReports hs).trans h.reports,
    (congrArg Switches.disableAutoTestReports hs).trans h.tests⟩

end Register

namespace Run

variable {ω α : Type} (env : Surroundings ω) {r : Runner ω}

theorem testDue_eq_due (h : r.register.IsOpen) : r.testDue.toList = r.register.due := by
  have hoff : ¬ r.switches.disableReports = true := (Bool.eq_false_iff.1 h.reports :)
  rw [Runner.testDue, Register.due]
  by_cases hn : r.latestTest = Config.unnamedTest
  · rw [if_pos (.inl hn), if_pos (.inl hn)]
    rfl
  by_cases hx : r.latestTest ∈ r.excludedTests
  · rw [if_pos (.inr (.inr hx)), if_pos (.inr hx)]
    rfl
  · rw [if_neg (by simp [hn, hoff, hx]), if_neg (by simp [hn, hx, Runner.register])]
    rfl

theorem register_reportTest (h : r.register.IsOpen) :
    (after reportTest env r).register = r.register.reported r.register.due := by
  rw [(reportTest_announces env r).register, testDue_eq_due h]
  rfl

theorem testChanged_iff : r.testChanged = true ↔
    ¬ (r.register.currentTest = r.register.latestTest ∨
      r.register.currentTest = Config.unnamedTest) := by
  simp [Runner.testChanged, Runner.register]

theorem register_noticeTest (h : r.register.IsOpen) :
    (after noticeTest env r).register = r.register.noticed := by
  have hauto : r.switches.disableAutoTestReports = false := h.tests
  rw [after_noticeTest, hauto, Register.noticed]
  by_cases hc : r.register.currentTest = r.register.latestTest ∨
      r.register.currentTest = Config.unnamedTest
  · rw [if_neg fun hr => testChanged_iff.1 hr hc, if_pos hc]
  · rw [if_pos (testChanged_iff.2 hc), if_neg hc]
    exact congrArg (fun g : Register => { g with latestTest := g.currentTest })
      (register_reportTest env h)

theorem register_sendTest (t : TestReport) :
    (after (sendAfterStash (.test t)) env r).register = r.register.reported [t] := by
  have hbefore : Obeys Runner.Aloof (build (.test t) >>= fun _ => clearStash : Run ω Unit) :=
    .bind (aloof_build _) fun _ => aloof_clearStash
  have hsend : ∀ r : Runner ω,
      (after (deliver (.test t)) env r).register = r.register.reported [t] :=
    fun r => congrArg (Register.mk _ _ _ _) List.filterMap_append
  exact (hsend _).trans (congrArg (Register.reported · [t]) (hbefore env r))

theorem register_reportManualTest (h : r.register.IsOpen) (name : Option String) (passed : Bool)
    (message : Option String) : ∃ t,
    (after (reportManualTest name passed message) env r).register =
      r.register.noticed.reported [t] := by
  obtain ⟨r', hs, hafter⟩ := reportManualTest_spec name passed message env r
  have hnoticed := register_noticeTest env h
  have hon : (after noticeTest env r).switches.disableReports = false := by
    have hsw := congrArg Register.switches hnoticed
    rw [Register.switches_noticed] at hsw
    exact (congrArg Switches.disableReports hsw).trans h.reports
  rw [hafter, if_neg (Bool.eq_false_iff.1 hon), register_sendTest, hs.aloof, hnoticed]
  exact ⟨_, rfl⟩

end Run

/-! ## Acts -/

namespace Operation

variable {ω α : Type}

/-- The operation is none of those that report a test as passed on request, leave tests out or
end the session. -/
def IsUsual : Operation α → Prop
  | reportTest | excludeTests _ => False
  | execute command _ => command.isQuit = false
  | _ => True

/-- The name of the current test after an operation. -/
def nameAfter (name : String) : Operation α → String
  | setCurrentTest name => name
  | _ => name

/-- Of the tests reported in the course of the operation those it is no request for; a request
is met last. -/
def automatic (ts : List TestReport) : Operation α → List TestReport
  | reportManualTest .. => ts.dropLast
  | _ => ts

/-- What an operation comes to for the register: it looks, it adds what it is a request for,
and it names. -/
theorem register_perform (op : Operation α) (hop : op.IsUsual) (env : Surroundings ω)
    {r : Runner ω} (h : r.register.IsOpen) : ∃ asked,
      (after op.perform env r).register =
        ((if op.looks then r.register.noticed else r.register).reported asked).named
          (op.nameAfter r.currentTest) ∧
      ∀ ts, op.automatic (ts ++ asked) = ts := by
  have haloof : Obeys Runner.Aloof (op.perform : Run ω α) → (after op.perform env r).register =
      (r.register.reported []).named r.currentTest := fun hm => by
    rw [Register.reported_nil]
    exact hm env r
  have hnoticing : Noticing Runner.Aloof (op.perform : Run ω α) →
      (after op.perform env r).register =
      (r.register.noticed.reported []).named r.currentTest := fun hm => by
    obtain ⟨rest, hperform, hrest⟩ := hm
    rw [hperform, after_bind, Register.reported_nil]
    refine (hrest env _).trans ((register_noticeTest env h).trans ?_)
    exact congrArg r.register.noticed.named r.register.currentTest_noticed
  have hnil : ∀ ts : List TestReport, ts ++ [] = ts := List.append_nil
  cases op with
  | note => exact ⟨[], haloof (aloof_still (still_note _)), hnil⟩
  | sleep => exact ⟨[], haloof (aloof_still (still_sleep _)), hnil⟩
  | setContext | enterPolicy | enterPolling =>
      exact ⟨[], haloof (aloof_adjust fun _ => rfl), hnil⟩
  | execute =>
      exact ⟨[], hnoticing (noticing_execute aloof_still (aloof_reportCommand hop _)), hnil⟩
  | executeInternal => exact ⟨[], haloof (aloof_still (still_drive _ _ _)), hnil⟩
  | clearStash => exact ⟨[], haloof aloof_clearStash, hnil⟩
  | pause => exact ⟨[], hnoticing (noticing_pause aloof_still aloof_reportStep _), hnil⟩
  | takePicture => exact ⟨[], haloof (aloof_still (still_takePicture _)), hnil⟩
  | noticeTest => exact ⟨[], hnoticing ⟨Pure.pure (), rfl, .pure _⟩, hnil⟩
  | reportTest | excludeTests => exact hop.elim
  | setCurrentTest name =>
      refine ⟨[], ?_, hnil⟩
      rw [Register.reported_nil]
      rfl
  | leave =>
      refine ⟨[], haloof (aloof_adjust fun r => ?_), hnil⟩
      split <;> rfl
  | setImplicitWait => exact ⟨[], haloof (aloof_still (still_setImplicitWait _)), hnil⟩
  | sleepAround => exact ⟨[], haloof (aloof_still (still_sleepAround _ _ _)), hnil⟩
  | sleepAroundCommand => exact ⟨[], haloof (aloof_still (still_sleepAroundCommand _ _ _ _)), hnil⟩
  | redact => exact ⟨[], haloof (aloof_still (still_redact _ _)), hnil⟩
  | reportManualStep =>
      exact ⟨[], hnoticing (noticing_reportManualStep aloof_still aloof_reportStep _), hnil⟩
  | reportManualTest name passed message =>
      obtain ⟨t, ht⟩ := register_reportManualTest env h name passed message
      refine ⟨[t], ht.trans ?_, fun ts => List.dropLast_concat⟩
      exact congrArg (r.register.noticed.reported [t]).named r.register.currentTest_noticed
  | runAction => exact ⟨[], hnoticing (noticing_runAction aloof_still aloof_reportStep _), hnil⟩
  | executeCodeblock => exact ⟨[], haloof (aloof_still (still_executeCodeblock _ _ _ _)), hnil⟩
  | runCodeblock => exact ⟨[], haloof (aloof_still (still_runCodeblock _ _)), hnil⟩

end Operation

/-! ## Names that follow one another -/

namespace Register

variable (g : Register) (seen : List String)

/-- The tests that are reported if these names are seen, the last of them at the end. -/
def follows : List TestReport :=
  (((seen.filter (· ≠ Config.unnamedTest)).destutter' (· ≠ ·) g.latestTest).filter fun n =>
    n ≠ Config.unnamedTest ∧ n ∉ g.excludedTests).map fun n => ⟨n, true, none⟩

theorem filter_latest (names : List String) :
    ((g.latestTest :: names).filter fun n =>
      n ≠ Config.unnamedTest ∧ n ∉ g.excludedTests).map (fun n => (⟨n, true, none⟩ : TestReport)) =
    g.due ++ (names.filter fun n => n ≠ Config.unnamedTest ∧ n ∉ g.excludedTests).map fun n =>
      ⟨n, true, none⟩ := by
  rw [due]
  by_cases h : g.latestTest = Config.unnamedTest ∨ g.latestTest ∈ g.excludedTests
  · rw [if_pos h, List.filter_cons_of_neg (by simpa [← or_iff_not_imp_left] using h)]
    rfl
  · rw [if_neg h, List.filter_cons_of_pos (by simpa [not_or] using h)]
    rfl

theorem dropWhile_unnamed {names : List String} (hn : ∀ n ∈ names, n ≠ Config.unnamedTest)
    (name : String) : (names.destutter' (· ≠ ·) name).dropWhile (· = Config.unnamedTest) =
      (names.destutter' (· ≠ ·) name).filter (· ≠ Config.unnamedTest) := by
  -- Only the first name can be none, so none is left once it is dropped.
  induction names generalizing name with
  | nil => by_cases h : name = Config.unnamedTest <;> simp [h]
  | cons n names ih =>
      obtain ⟨-, hnames⟩ := List.forall_mem_cons.1 hn
      by_cases hsame : name ≠ n
      · have hall : ∀ n' ∈ names.destutter' (· ≠ ·) n, n' ≠ Config.unnamedTest :=
          fun n' hmem => hn n' ((List.destutter'_sublist _ _ n).subset hmem)
        rw [List.destutter'_cons_pos (h := hsame)]
        by_cases h : name = Config.unnamedTest
        · rw [List.dropWhile_cons_of_pos (by simpa using h),
            List.filter_cons_of_neg (by simpa using h)]
          exact ih hnames n
        · rw [List.dropWhile_cons_of_neg (by simpa using h),
            List.filter_cons_of_pos (by simpa using h),
            List.filter_eq_self.2 (by simpa using hall)]
      · rw [List.destutter'_cons_neg (h := hsame)]
        exact ih hnames name

theorem follows_nil : g.follows [] = g.due := by
  have h := g.filter_latest []
  rwa [List.filter_nil, List.map_nil, List.append_nil] at h

theorem tests_noticed : ∃ added, g.noticed.tests = g.tests ++ added ∧
    g.follows (g.currentTest :: seen) = added ++ g.noticed.follows seen := by
  unfold noticed
  by_cases hc : g.currentTest = g.latestTest ∨ g.currentTest = Config.unnamedTest
  · rw [if_pos hc]
    refine ⟨[], (List.append_nil _).symm, ?_⟩
    rw [List.nil_append, follows, follows]
    by_cases hn : g.currentTest = Config.unnamedTest
    · rw [List.filter_cons_of_neg (by simpa using hn)]
    · have hl : ¬ g.latestTest ≠ g.currentTest := not_not.2 (hc.resolve_right hn).symm
      rw [List.filter_cons_of_pos (by simpa using hn), List.destutter'_cons_neg (h := hl)]
  · rw [if_neg hc]
    obtain ⟨hl, hn⟩ := not_or.1 hc
    refine ⟨g.due, rfl, ?_⟩
    rw [follows, List.filter_cons_of_pos (by simpa using hn),
      List.destutter'_cons_pos (h := Ne.symm hl)]
    exact g.filter_latest _

end Register

/-! ## Runs -/

/-- An operation of whatever type. -/
abbrev Act := Σ α : Type, Operation α

/-- The names that are current when the acts look, if they begin with this one. -/
def namesSeen (name : String) : List Act → List String
  | [] => []
  | a :: acts => (if a.2.looks then [name] else []) ++ namesSeen (a.2.nameAfter name) acts

namespace Run

variable {ω : Type} (env : Surroundings ω) {r : Runner ω}

/-- Performs these operations one after the other. -/
def performAll : List Act → Run ω Unit
  | [] => return
  | a :: acts => do
      let _ ← a.2.perform
      performAll acts

/-- The tests that are reported in the course of the acts without a request. -/
def automaticTests : List Act → Runner ω → List TestReport
  | [], _ => []
  | a :: acts, r =>
      a.2.automatic ((after a.2.perform env r).register.tests.drop r.register.tests.length) ++
        automaticTests acts (after a.2.perform env r)

theorem register_reportQuit (h : r.register.IsOpen) :
    (after reportQuit env r).register = r.register.reported r.register.due := by
  have hclear : (after clearStash env r).register = r.register := aloof_clearStash env r
  have hquit : after reportQuit env r =
      after (if !(after clearStash env r).switches.disableAutoTestReports then reportTest
        else pure ()) env (after clearStash env r) := rfl
  rw [← hclear] at h ⊢
  have hauto : (after clearStash env r).switches.disableAutoTestReports = false := h.tests
  rw [hquit, hauto]
  exact register_reportTest env h

/-- At the end of the session the last test is reported, unless the driver cannot be told the
implicit wait. -/
theorem register_quit (h : r.register.IsOpen) (params : Json)
    (hwait : result (setImplicitWait (after noticeTest env r).context.policy.implicitWait) env
      (after noticeTest env r) = .ok ()) :
    (after (execute .quit params) env r).register =
      r.register.noticed.reported r.register.noticed.due := by
  have hnoticed := register_noticeTest env h
  generalize hr₁ : after noticeTest env r = r₁ at hwait hnoticed
  have hbefore : Obeys Runner.Aloof (setImplicitWait r₁.context.policy.implicitWait >>= fun _ =>
      drive .request .quit params : Run ω _) :=
    .bind (aloof_still (still_setImplicitWait _)) fun _ => aloof_still (still_drive _ _ _)
  have hopen : (after (setImplicitWait r₁.context.policy.implicitWait >>= fun _ =>
      drive .request .quit params) env r₁).register.IsOpen := by
    rw [hbefore env r₁, hnoticed]
    exact h.of_switches r.register.switches_noticed
  have hend := register_reportQuit env hopen
  rw [hbefore env r₁, hnoticed] at hend
  unfold execute
  rw [after_bind, after_bind, hr₁]
  show (after (setImplicitWait r₁.context.policy.implicitWait >>= _) env r₁).register = _
  rw [after_bind, hwait]
  exact hend

theorem automaticTests_eq_follows {acts : List Act} (hacts : ∀ a ∈ acts, a.2.IsUsual)
    (h : r.register.IsOpen) (params : Json)
    (hwait : result (setImplicitWait (after noticeTest env
        (after (performAll acts) env r)).context.policy.implicitWait) env
      (after noticeTest env (after (performAll acts) env r)) = .ok ()) :
    automaticTests env (acts ++ [⟨_, .execute .quit params⟩]) r =
      r.register.follows (namesSeen r.currentTest (acts ++ [⟨_, .execute .quit params⟩])) := by
  -- At each act the names still to be seen are read from the register of the moment, and what
  -- the act reports is what `follows` loses when its name is taken over.
  induction acts generalizing r with
  | nil =>
      obtain ⟨added, hadded, hfollows⟩ := r.register.tests_noticed []
      have hquit := congrArg Register.tests (register_quit env h params hwait)
      show
        ((after (execute .quit params) env r).register.tests.drop r.register.tests.length) ++ [] =
        r.register.follows [r.register.currentTest]
      rw [hquit, hfollows, Register.follows_nil, List.append_nil]
      show (r.register.noticed.tests ++ r.register.noticed.due).drop _ = _
      rw [hadded, List.append_assoc, List.drop_left]
  | cons a acts ih =>
      obtain ⟨ha, hacts⟩ := List.forall_mem_cons.1 hacts
      obtain ⟨asked, hregister, hasked⟩ := a.2.register_perform ha env h
      have hopen : (after a.2.perform env r).register.IsOpen := by
        refine h.of_switches ((congrArg Register.switches hregister).trans ?_)
        show (if a.2.looks then r.register.noticed else r.register).switches = _
        split
        · exact r.register.switches_noticed
        · rfl
      have hrest := ih hacts hopen hwait
      have hcurrent : (after a.2.perform env r).currentTest = a.2.nameAfter r.currentTest :=
        congrArg Register.currentTest hregister
      show a.2.automatic ((after a.2.perform env r).register.tests.drop r.register.tests.length) ++
        automaticTests env (acts ++ [⟨_, .execute .quit params⟩]) (after a.2.perform env r) =
        r.register.follows ((if a.2.looks then [r.currentTest] else []) ++
          namesSeen (a.2.nameAfter r.currentTest) (acts ++ [⟨_, .execute .quit params⟩]))
      rw [hrest, hcurrent, hregister]
      generalize namesSeen (a.2.nameAfter r.currentTest) _ = seen
      cases a.2.looks with
      | false =>
          show a.2.automatic ((r.register.tests ++ asked).drop _) ++ r.register.follows seen = _
          rw [List.drop_left]
          exact congrArg (· ++ r.register.follows seen) (hasked [])
      | true =>
          obtain ⟨added, hadded, hfollows⟩ := r.register.tests_noticed seen
          show a.2.automatic ((r.register.noticed.tests ++ asked).drop _) ++
            r.register.noticed.follows seen = r.register.follows (r.register.currentTest :: seen)
          rw [hadded, List.append_assoc, List.drop_left, hasked, hfollows]

/-- Whatever the driver answers, the tests reported without a request are those whose names
follow one another where operations look, but for tests without a name and excluded ones. -/
theorem automaticTests_names {acts : List Act} (hacts : ∀ a ∈ acts, a.2.IsUsual) {name : String}
    (hlatest : r.latestTest = name) (hcurrent : r.currentTest = name)
    (hreports : r.switches.disableReports = false)
    (hauto : r.switches.disableAutoTestReports = false) (params : Json)
    (hwait : result (setImplicitWait (after noticeTest env
        (after (performAll acts) env r)).context.policy.implicitWait) env
      (after noticeTest env (after (performAll acts) env r)) = .ok ()) :
    let whole := acts ++ [⟨_, .execute .quit params⟩]
    (automaticTests env whole r).map TestReport.name =
      (((name :: (namesSeen name whole).filter (· ≠ Config.unnamedTest)).destutter
        (· ≠ ·)).dropWhile (· = Config.unnamedTest)).filter (· ∉ r.excludedTests) ∧
    ∀ t ∈ automaticTests env whole r, t.passed = true ∧ t.name ≠ Config.unnamedTest := by
  intro whole
  have htests : automaticTests env whole r = r.register.follows (namesSeen r.currentTest whole) :=
    automaticTests_eq_follows env hacts ⟨hreports, hauto⟩ params hwait
  have hseen : ∀ n ∈ (namesSeen name whole).filter (· ≠ Config.unnamedTest),
      n ≠ Config.unnamedTest :=
    fun n hn => by simpa using (List.mem_filter.1 hn).2
  have hname : r.register.latestTest = name := hlatest
  rw [htests, hcurrent, Register.follows, hname]
  constructor
  · rw [List.map_map, List.destutter_cons', Register.dropWhile_unnamed hseen, List.filter_filter]
    refine (List.map_id _).trans (List.filter_congr fun n _ => ?_)
    rw [Bool.decide_and, Bool.and_comm]
    rfl
  · intro t ht
    obtain ⟨n, hn, rfl⟩ := List.mem_map.1 ht
    exact ⟨rfl, (of_decide_eq_true (List.mem_filter.1 hn).2).1⟩

/-- Three tests, one of them twice, with names set that are never seen or are none, a test
reported by hand, and one that is left out. -/
def threeTests : List Act :=
  [⟨_, .setCurrentTest "never seen"⟩, ⟨_, .setCurrentTest "A"⟩,
    ⟨_, .execute (.other "getTitle") .null⟩, ⟨_, .pause 10⟩,
    ⟨_, .setCurrentTest Config.unnamedTest⟩, ⟨_, .execute (.other "getTitle") .null⟩,
    ⟨_, .setCurrentTest "B"⟩, ⟨_, .reportManualTest (some "by hand") false none⟩,
    ⟨_, .setCurrentTest "left out"⟩, ⟨_, .reportManualStep (.plain "a step" "" true)⟩,
    ⟨_, .setCurrentTest "A"⟩]

theorem isUsual_threeTests : ∀ a ∈ threeTests, a.2.IsUsual := by
  simp [threeTests, Operation.IsUsual, Command.isQuit]

/-- A runner that reports no test called `left out`. -/
def choosyRunner : Runner Unit := { Runner.ofConfig .default () with excludedTests := ["left out"] }

theorem automaticTests_names_threeTests :
    let whole := threeTests ++ [⟨_, .execute .quit .null⟩]
    let last := after noticeTest plainSurroundings
      (after (performAll threeTests) plainSurroundings choosyRunner)
    ((∀ a ∈ threeTests, a.2.IsUsual) ∧ choosyRunner.latestTest = Config.unnamedTest ∧
      choosyRunner.currentTest = Config.unnamedTest ∧
      choosyRunner.switches.disableReports = false ∧
      choosyRunner.switches.disableAutoTestReports = false ∧
      result (setImplicitWait last.context.policy.implicitWait) plainSurroundings last = .ok ()) ∧
    ((automaticTests plainSurroundings whole choosyRunner).map TestReport.name =
        (((Config.unnamedTest :: (namesSeen Config.unnamedTest whole).filter
          (· ≠ Config.unnamedTest)).destutter (· ≠ ·)).dropWhile (· = Config.unnamedTest)).filter
            (· ∉ choosyRunner.excludedTests) ∧
      ∀ t ∈ automaticTests plainSurroundings whole choosyRunner,
        t.passed = true ∧ t.name ≠ Config.unnamedTest) ∧
    (automaticTests plainSurroundings whole choosyRunner).map TestReport.name =
      ["A", "B", "A"] := by
  have hwait : ∀ r : Runner Unit, r.context.policy.implicitWait = -1 →
      result (setImplicitWait r.context.policy.implicitWait) plainSurroundings r = .ok () := by
    intro r hr
    rw [hr]
    rfl
  have hlast := hwait (after noticeTest plainSurroundings
    (after (performAll threeTests) plainSurroundings choosyRunner)) (by cbv)
  exact ⟨⟨isUsual_threeTests, rfl, rfl, rfl, rfl, hlast⟩,
    automaticTests_names plainSurroundings isUsual_threeTests rfl rfl rfl rfl .null hlast, by cbv⟩

end Run

end Courier
