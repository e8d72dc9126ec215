import Courier.Proofs.Masking
import Courier.Proofs.TestNames
import Mathlib

/-!
# Tests and what was put aside before them

A test that is reported by hand, or at the end of the session, gives what was put aside its
turn before it leaves. A test that is found to be over does not: it leaves as soon as it has
been put together, and a command of a wait that is still aside then arrives after the report
of the test it belongs to.

So the reports of a run are in order at every test if and only if nothing is aside whenever
a test leaves at once. Between these moments there is nothing to go wrong: at any other test
the desk is empty.
-/

namespace Courier

open Run
open Desk (Tale asideReports released)

/-- Whenever a test leaves, all that was put together before it and has not given way to
another report has left. -/
def InTime (es : List Event) : Prop :=
  ∀ before t later, es = before ++ .reported (.test t) :: later →
    before.filterMap Event.arrival? =
      ((ledger before).filter fun e => e.fate ≠ .superseded).map Entry.report

/-! ## What is aside when a test leaves -/

/-- After these events a test can leave: it has just been put together, or the desk is empty. -/
def Desk.Ready (aside : Option CommandReport) (before : List Event) (t : TestReport) : Prop :=
  (∃ sooner polled aside', before = sooner ++ [.built (.test t) polled] ∧
      Tale (.idle aside) sooner (.idle aside')) ∨
    Tale (.idle aside) before (.idle none)

theorem eq_of_announced {polled : Bool} {t : Option TestReport} {t' : TestReport}
    {mid later : List Event} (h : announced polled t = mid ++ .reported (.test t') :: later) :
    mid = [.built (.test t') polled] := by
  cases t with
  | none => cases mid <;> cases h
  | some x =>
      cases mid with
      | nil => cases h
      | cons e mid =>
          obtain ⟨rfl, h⟩ := List.cons.inj h
          cases mid with
          | nil =>
              cases h
              rfl
          | cons e' mid =>
              obtain ⟨-, h⟩ := List.cons.inj h
              cases mid <;> cases h

namespace Runner

variable {ω : Type} {r r' : Runner ω}

/-- What has happened is a tale in which tests leave when they can. -/
def Punctual (r r' : Runner ω) : Prop :=
  ∃ es, r'.trace = r.trace ++ es ∧ Tale (.idle r.stash) es (.idle r'.stash) ∧
    ∀ before t later, es = before ++ .reported (.test t) :: later → Desk.Ready r.stash before t

instance : Law (@Punctual ω) where
  refl r := by
    refine ⟨[], (List.append_nil _).symm, .nil _, fun before t later h => ?_⟩
    cases before <;> cases h
  trans h h' := by
    obtain ⟨es, he, ht, hready⟩ := h
    obtain ⟨es', he', ht', hready'⟩ := h'
    refine ⟨es ++ es', by rw [he', he, List.append_assoc], ht.append ht', ?_⟩
    intro before t later h
    rcases cases_of_append_eq h with ⟨mid, hes⟩ | ⟨mid, rfl, hes'⟩
    · exact hready before t mid hes
    · rcases hready' mid t later hes' with ⟨sooner, polled, aside', rfl, hs⟩ | hempty
      · exact .inl ⟨es ++ sooner, polled, aside', (List.append_assoc _ _ _).symm, ht.append hs⟩
      · exact .inr (ht.append hempty)

theorem Told.punctual (h : Told r r') (ht : r'.register.tests = r.register.tests) :
    Punctual r r' := by
  obtain ⟨es, he, htale, -⟩ := h
  refine ⟨es, he, htale, fun before t later hes => ?_⟩
  have hnone : es.filterMap Event.test? = [] := by
    have hall : r.trace.filterMap Event.test? ++ es.filterMap Event.test? =
        r.trace.filterMap Event.test? := by
      rw [← List.filterMap_append, ← he]
      exact ht
    simpa using hall
  rw [hes, List.filterMap_append, List.append_eq_nil_iff] at hnone
  cases hnone.2

theorem Announces.punctual {t : Option TestReport} (h : r.Announces r' t) : Punctual r r' := by
  obtain ⟨hm, es, he, hp⟩ := h
  have hquiet : ∀ e ∈ es, e.isQuiet = true := fun e hes => by
    have h := hp e hes
    cases e with
    | called | slept | ranAction | ranCodeblock | noted => rfl
    | built | flushed | reported | adjusted => cases h
  have hann : ∀ e ∈ announced r.context.polling t, e.isQuiet = true := by
    cases t with
    | none => exact List.forall_mem_nil _
    | some x => simp [announced, Event.isQuiet, Report.isTest]
  have hstash : r'.stash = r.stash := (congrArg (fun v : Runner Unit => v.stash) hm :)
  refine ⟨_, he, ?_, fun before t' later hes => ?_⟩
  · rw [hstash]
    exact (Tale.quiet _ hquiet).append (.quiet _ hann)
  · rcases cases_of_append_eq hes with ⟨mid, rfl⟩ | ⟨mid, rfl, hmid⟩
    · cases hp _ (List.mem_append_right _ List.mem_cons_self)
    · rw [eq_of_announced hmid]
      exact .inl ⟨es, _, r.stash, rfl, .quiet _ hquiet⟩

end Runner

namespace Run

variable {ω : Type} {hand : ByHand}

open Runner (Punctual)

theorem punctual_noticeTest : Obeys Punctual (noticeTest : Run ω Unit) := by
  intro env r
  obtain ⟨r₁, h, hafter⟩ := noticeTest_spec env r
  rw [hafter]
  split
  · exact h.punctual
  · exact h.punctual

theorem punctual_reportTest : Obeys Punctual (reportTest : Run ω Unit) :=
  fun env r => (reportTest_announces env r).punctual

theorem punctual_clearStash : Obeys Punctual (clearStash : Run ω Unit) := fun env r =>
  (told_clearStash env r).punctual (congrArg Register.tests (aloof_clearStash env r))

theorem punctual_reportCommand (command : Command) (params : Json)
    (answer : Except Failure Response) (policy : StepPolicy) :
    Obeys Punctual (reportCommand command params answer policy : Run ω Unit) := by
  cases hquit : command.isQuit with
  | false =>
      exact fun env r => (told_reportCommand command params answer policy env r).punctual
        (congrArg Register.tests (aloof_reportCommand hquit params answer policy env r))
  | true =>
      unfold reportCommand
      rw [hquit]
      refine .bind punctual_clearStash fun _ => fun env r => ?_
      show Punctual r
        (after (if !r.switches.disableAutoTestReports then reportTest else pure ()) env r)
      split
      · exact punctual_reportTest env r
      · exact Runner.Law.refl r

theorem punctual_sendTest (t : TestReport) (env : Surroundings ω) (r : Runner ω) :
    Punctual r (after (sendAfterStash (.test t)) env r) := by
  obtain ⟨hs, -, htrace⟩ := sendAfterStash_spec (.test t) env r
  have hbefore : Tale (.idle r.stash) (.built (.test t) r.context.polling ::
      .flushed r.switches.reportsCommands ::
        (released r.stash r.switches.reportsCommands).map .reported) (.idle none) :=
    .cons (.quiet _ rfl) (.clear _ _)
  rw [List.map_append, ← List.cons_append, ← List.cons_append] at htrace
  -- No test is among what was aside, so the only one that leaves is the last of the events.
  refine ⟨_, htrace, ?_, fun before t' later hes => ?_⟩
  · rw [hs]
    exact hbefore.append (.cons (.quiet none rfl) (.nil _))
  · rcases cases_of_append_eq hes with ⟨mid, hfirst⟩ | ⟨mid, rfl, hlast⟩
    · have hmem : Event.reported (.test t') ∈ before ++ .reported (.test t') :: mid :=
        List.mem_append_right _ List.mem_cons_self
      rw [← hfirst] at hmem
      simp only [List.mem_cons, List.mem_map, reduceCtorEq, false_or] at hmem
      obtain ⟨x, hx, heq⟩ := hmem
      rw [Event.reported.inj heq] at hx
      cases Desk.isTest_of_mem_released hx
    · cases mid with
      | nil =>
          rw [List.append_nil]
          exact .inr hbefore
      | cons e mid =>
          obtain ⟨-, hlast⟩ := List.cons.inj hlast
          cases mid <;> cases hlast

theorem parts_punctual : Parts hand (@Punctual ω) where
  still h := fun env r =>
    (h.silent.told env r).punctual (congrArg Register.tests (aloof_still h env r))
  adjust {change} h := fun env r => (told_adjust h env r).punctual (by
    show ((change r).trace ++ [_]).filterMap Event.test? = r.trace.filterMap Event.test?
    rw [(h r).1, List.filterMap_append]
    exact List.append_nil _)
  setCurrentTest name := fun env r => ((silent_setCurrentTest name).told env r).punctual rfl
  excludeTests names := fun env r => ((silent_excludeTests names).told env r).punctual rfl
  noticeTest := punctual_noticeTest
  clearStash := punctual_clearStash
  reportCommand := punctual_reportCommand
  reportStep := fun d m p pic e i o => fun env r =>
    (rules_told.reportStep d m p pic e i o env r).punctual
      (congrArg Register.tests (aloof_reportStep d m p pic e i o env r))
  submitStep {report} _ := fun env r => (told_submitStep report env r).punctual
    (congrArg Register.tests (aloof_submitStep report env r))
  reportTest _ := punctual_reportTest
  reportManualTest {name passed message} _ := fun env r => by
    obtain ⟨r', hs, hafter⟩ := reportManualTest_spec name passed message env r
    have hnoticed := punctual_noticeTest env r
    rw [hafter]
    refine Runner.Law.trans hnoticed (Runner.Law.trans hs.announces.punctual ?_)
    split
    · exact Runner.Law.refl r'
    · exact punctual_sendTest _ env r'

end Run

/-! ## While commands are reported -/

/-- Commands are reported after the event if they were before. -/
def Event.sparesCommands : Event → Bool
  | .adjusted s _ => s.reportsCommands
  | _ => true

section Flushes

variable {g : Regime} {es : List Event}

theorem Regime.Governs.allowed (hg : g.Governs es) (h₀ : g.switches.reportsCommands = true)
    (hon : ∀ e ∈ es, e.sparesCommands = true) :
    ∀ allowed, .flushed allowed ∈ es → allowed = true := by
  induction es generalizing g with
  | nil => exact fun _ h => absurd h List.not_mem_nil
  | cons e es ih =>
      intro allowed hmem
      obtain ⟨he, hes⟩ := List.forall_mem_cons.1 hon
      have hnext : (g.next e).switches.reportsCommands = true := by
        cases e with
        | adjusted => exact he
        | called | slept | built | flushed | reported | ranAction | ranCodeblock | noted => exact h₀
      rcases List.mem_cons.1 hmem with rfl | hmem
      · exact hg.1.trans h₀
      · exact ih hg.2 hnext hes allowed hmem

theorem Fate.ofAside_ne_discarded (h : ∀ allowed, .flushed allowed ∈ es → allowed = true) :
    Fate.ofAside es ≠ .discarded := by
  induction es with
  | nil => exact Fate.noConfusion
  | cons e es ih =>
      have hes := ih fun allowed hmem => h allowed (List.mem_cons_of_mem _ hmem)
      cases e with
      | built x polled =>
          cases x with
          | command c =>
              cases polled with
              | true => exact Fate.noConfusion
              | false => exact hes
          | step | test => exact hes
      | flushed allowed =>
          rw [h allowed List.mem_cons_self]
          exact Fate.noConfusion
      | called | slept | reported | adjusted | ranAction | ranCodeblock | noted => exact hes

theorem fate_ne_discarded (h : ∀ allowed, .flushed allowed ∈ es → allowed = true) :
    ∀ entry ∈ ledger es, entry.fate ≠ .discarded := by
  induction es with
  | nil => exact List.forall_mem_nil _
  | cons e es ih =>
      have hlater : ∀ allowed, .flushed allowed ∈ es → allowed = true :=
        fun allowed hmem => h allowed (List.mem_cons_of_mem _ hmem)
      cases e with
      | built x polled =>
          cases x with
          | command c =>
              refine List.forall_mem_cons.2 ⟨?_, ih hlater⟩
              cases polled with
              | true => exact Fate.ofAside_ne_discarded hlater
              | false => exact Fate.noConfusion
          | step s => exact List.forall_mem_cons.2 ⟨Fate.noConfusion, ih hlater⟩
          | test => exact ih hlater
      | called | slept | flushed | reported | adjusted | ranAction | ranCodeblock | noted =>
          exact ih hlater

/-- If nothing is thrown away, all that has not given way has left, but for what is kept. -/
theorem arrivals_iff {aside : Option CommandReport} (ht : Tale (.idle none) es (.idle aside))
    (h : ∀ allowed, .flushed allowed ∈ es → allowed = true) :
    es.filterMap Event.arrival? =
      ((ledger es).filter fun e => e.fate ≠ .superseded).map Entry.report ↔ aside = none := by
  have hne := fate_ne_discarded h
  obtain ⟨harrivals, hkept⟩ := ht.fates
  rw [Desk.arriving, Desk.released_none, List.nil_append] at harrivals
  rw [Desk.staying, Desk.released_none, List.nil_append] at hkept
  rw [harrivals, fated]
  constructor
  · intro hsame
    have hsub : ((ledger es).filter fun e => e.fate = .delivered).Sublist
        ((ledger es).filter fun e => e.fate ≠ .superseded) :=
      List.monotone_filter_right _ fun e he => by simp [of_decide_eq_true he]
    have heq := hsub.eq_of_length (by simpa using congrArg List.length hsame)
    cases aside with
    | none => rfl
    | some c =>
        -- What is kept has not given way, but has not left either.
        have hmem : Report.command c ∈ fated .kept es := hkept ▸ List.mem_singleton_self _
        obtain ⟨entry, hentry, -⟩ := List.mem_map.1 hmem
        obtain ⟨hledger, hfate⟩ := List.mem_filter.1 hentry
        have hdelivered : entry ∈ (ledger es).filter fun e => e.fate = .delivered := by
          rw [heq]
          exact List.mem_filter.2 ⟨hledger, by simp [of_decide_eq_true hfate]⟩
        have hboth := (of_decide_eq_true hfate).symm.trans
          (of_decide_eq_true (List.mem_filter.1 hdelivered).2)
        cases hboth
  · rintro rfl
    have hnone : ∀ entry ∈ ledger es, entry.fate ≠ .kept := fun entry hmem hfate => by
      have hentry : entry.report ∈ fated .kept es :=
        List.mem_map_of_mem (List.mem_filter.2 ⟨hmem, decide_eq_true hfate⟩)
      rw [← hkept] at hentry
      cases hentry
    refine congrArg (List.map Entry.report) (List.filter_congr fun entry hmem => ?_)
    have hd := hne entry hmem
    have hk := hnone entry hmem
    cases hfate : entry.fate with
    | delivered | superseded => rfl
    | discarded => exact absurd hfate hd
    | kept => exact absurd hfate hk

end Flushes

/-! ## The exact condition -/

namespace Desk

variable {before sooner : List Event} {t : TestReport} {polled : Bool}
  {aside : Option CommandReport}

theorem kept_eq_nil_iff (h : Tale (.idle none) before (.idle aside)) :
    fated .kept before = [] ↔ aside = none := by
  have hkept := h.fates.2
  rw [staying, released_none, List.nil_append] at hkept
  rw [← hkept]
  cases aside with
  | none => exact iff_of_true rfl rfl
  | some c => exact iff_of_false (List.cons_ne_nil _ _) (Option.some_ne_none c)

theorem Tale.before_test
    (h : Tale (.idle none) (sooner ++ [.built (.test t) polled]) (.idle aside)) :
    Tale (.idle none) sooner (.idle aside) := by
  obtain ⟨d, hd, h⟩ := h.of_append
  cases h with
  | cons he h =>
      cases h
      cases he
      exact hd

theorem Ready.tale (h : Ready none before t) : ∃ aside, Tale (.idle none) before (.idle aside) := by
  rcases h with ⟨sooner, polled, aside, rfl, hs⟩ | hempty
  · exact ⟨aside, hs.append (.cons (.quiet aside rfl) (.nil _))⟩
  · exact ⟨none, hempty⟩

end Desk

/-- The reports are in time if and only if nothing is aside whenever a test leaves as soon as it
has been put together. -/
theorem inTime_iff_of_ready {es : List Event}
    (hready : ∀ before t later, es = before ++ .reported (.test t) :: later →
      Desk.Ready none before t)
    (hflush : ∀ allowed, .flushed allowed ∈ es → allowed = true) :
    InTime es ↔ ∀ sooner t polled later,
      es = sooner ++ .built (.test t) polled :: .reported (.test t) :: later →
        fated .kept sooner = [] := by
  have hflushed : ∀ {before t later}, es = before ++ .reported (.test t) :: later →
      ∀ allowed, .flushed allowed ∈ before → allowed = true := fun hes allowed hmem =>
    hflush allowed (hes ▸ List.mem_append_left _ hmem)
  constructor
  · intro h sooner t polled later hes
    have hes' : es = (sooner ++ [.built (.test t) polled]) ++ .reported (.test t) :: later := by
      rw [hes, List.append_assoc]
      rfl
    obtain ⟨aside, htale⟩ := (hready _ t later hes').tale
    have hempty := (arrivals_iff htale (hflushed hes')).1 (h _ t later hes')
    exact (Desk.kept_eq_nil_iff htale.before_test).2 hempty
  · intro h before t later hes
    rcases hready before t later hes with ⟨sooner, polled, aside, rfl, hs⟩ | hempty
    · have hkept := h sooner t polled later (by rw [hes, List.append_assoc]; rfl)
      have haside := (Desk.kept_eq_nil_iff hs).1 hkept
      exact (arrivals_iff (hs.append (.cons (.quiet aside rfl) (.nil _))) (hflushed hes)).2 haside
    · exact (arrivals_iff hempty (hflushed hes)).2 rfl

open Run in
/-- While commands are reported, the reports of a run are in time at every test if and only if
nothing is aside whenever a test is found to be over or reported as passed on request. -/
theorem ProgramWith.inTime_iff {ω α : Type} {hand : ByHand} {m : Run ω α} (h : ProgramWith hand m)
    (env : Surroundings ω) {r : Runner ω} (htrace : r.trace = []) (hstash : r.stash = none)
    (hcommands : r.switches.reportsCommands = true)
    (hon : ∀ e ∈ (after m env r).trace, e.sparesCommands = true) :
    InTime (after m env r).trace ↔ ∀ sooner t polled later,
      (after m env r).trace = sooner ++ .built (.test t) polled :: .reported (.test t) :: later →
        fated .kept sooner = [] := by
  obtain ⟨es, he, -, hready⟩ := h.obeys parts_punctual env r
  obtain ⟨es', he', -, hgoverns, -⟩ := h.obeys (rules_told.parts told_reportCommand hand) env r
  rw [htrace, List.nil_append] at he he'
  rw [hstash] at hready
  rw [he] at he' hon ⊢
  rw [← he'] at hgoverns
  exact inTime_iff_of_ready hready (hgoverns.allowed hcommands hon)

namespace Run

/-- In a wait under one test a command is executed, then something is done, and then a command
is executed under another test. -/
def acrossTests (between : Run Unit Unit) : Run Unit Unit := do
  setCurrentTest "A"
  let _ ← waitUntil (fun _ => do
    let _ ← execute (.other "getTitle") .null
    return .ok (some ())) 1000 100
  between
  setCurrentTest "B"
  let _ ← execute (.other "click") .null

theorem programWith_acrossTests {hand : ByHand} {between : Run Unit Unit}
    (h : ProgramWith hand between) : ProgramWith hand (acrossTests between) := by
  have hexecute : ∀ name, ProgramWith hand (execute (.other name) .null : Run Unit _) :=
    fun name => .perform (.execute (.other name) .null) fun _ => False.elim
  refine .bind (.perform (.setCurrentTest "A") fun _ => False.elim) fun _ => ?_
  refine .bind (.waitUntil _ _ fun _ => .bind (hexecute _) fun _ => .pure _) fun _ => ?_
  refine .bind h fun _ => .bind (.perform (.setCurrentTest "B") fun _ => False.elim) fun _ => ?_
  exact .bind (hexecute _) fun _ => .pure _

/-- The runner at the end of a run across two tests, with this between them. -/
def endAcross (between : Run Unit Unit) : Runner Unit :=
  after (acrossTests between) plainSurroundings (.ofConfig .default ())

/-- The command that was put aside leaves after the test under which it was executed. -/
theorem not_inTime_acrossTests :
    ProgramWith ⟨fun _ => False, fun _ => False⟩ (acrossTests (pure ())) ∧
    (Runner.ofConfig .default ()).switches.reportsCommands = true ∧
    (∀ e ∈ (endAcross (pure ())).trace, e.sparesCommands = true) ∧
    ¬ InTime (endAcross (pure ())).trace := by
  refine ⟨programWith_acrossTests (.pure ()), rfl, List.all_eq_true.1 (by cbv), fun h => ?_⟩
  have hlost := congrArg List.length
    (h ((endAcross (pure ())).trace.take 5) ⟨"A", true, none⟩ ((endAcross (pure ())).trace.drop 6)
      (by cbv))
  exact absurd hlost (by cbv)

/-- With the stash cleared between the tests all leaves in time. -/
theorem inTime_iff_acrossTests :
    (ProgramWith ⟨fun _ => False, fun _ => False⟩ (acrossTests clearStash) ∧
      (Runner.ofConfig .default ()).trace = [] ∧ (Runner.ofConfig .default ()).stash = none ∧
      (Runner.ofConfig .default ()).switches.reportsCommands = true ∧
      ∀ e ∈ (endAcross clearStash).trace, e.sparesCommands = true) ∧
    (InTime (endAcross clearStash).trace ↔ ∀ sooner t polled later,
      (endAcross clearStash).trace =
          sooner ++ .built (.test t) polled :: .reported (.test t) :: later →
        fated .kept sooner = []) ∧
    (endAcross clearStash).trace.filterMap
      (fun e => (e.arrival?.map Report.kind).or (e.test?.map fun _ => .test)) =
      [.command, .test, .command] := by
  have hprogram : ProgramWith ⟨fun _ => False, fun _ => False⟩ (acrossTests clearStash) :=
    programWith_acrossTests (.perform .clearStash fun _ => False.elim)
  have hon : ∀ e ∈ (endAcross clearStash).trace, e.sparesCommands = true :=
    List.all_eq_true.1 (by cbv)
  exact ⟨⟨hprogram, rfl, rfl, rfl, hon⟩,
    ProgramWith.inTime_iff hprogram plainSurroundings rfl rfl rfl hon, by cbv⟩

end Run

end Courier
