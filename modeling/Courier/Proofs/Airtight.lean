import Courier.Proofs.TestReports
import Mathlib

/-!
# What is switched off does not leave

Each report passes a switch of its own on its way out, and not all of them at the same
moment: a test is held back before its report is put together, a command both before that
and when it has been put aside and comes to its turn. What can be said of all of them is
said of the moment at which a report leaves. The changes of the switches are events, so a
trace tells what was switched off then, whatever was switched on when the report was put
together.

A step that is handed in leaves even then, and a test that is asked for leaves although
automatic reports are off. Nothing else gets past a switch, whatever test code does and
whatever its waits do at each poll.
-/

namespace Courier

open Desk (released)

namespace Regime

/-- Each of these events is as it should be under the regime of its moment. -/
def Throughout (P : Regime → Event → Prop) (g : Regime) : List Event → Prop
  | [] => True
  | e :: es => P g e ∧ (g.next e).Throughout P es

variable {P : Regime → Event → Prop} {g : Regime} {es es' : List Event}

theorem Throughout.append (h : g.Throughout P es) (h' : (es.foldl next g).Throughout P es') :
    g.Throughout P (es ++ es') := by
  induction es generalizing g with
  | nil => exact h'
  | cons e es ih => exact ⟨h.1, ih h.2 h'⟩

theorem Throughout.at {before later : List Event} {e : Event}
    (h : g.Throughout P (before ++ e :: later)) : P (before.foldl next g) e := by
  induction before generalizing g with
  | nil => exact h.1
  | cons e' before ih => exact ih h.2

theorem Throughout.mono {Q : Regime → Event → Prop} (h : g.Throughout P es)
    (hPQ : ∀ g e, P g e → Q g e) : g.Throughout Q es := by
  induction es generalizing g with
  | nil => exact trivial
  | cons e es ih => exact ⟨hPQ g e h.1, ih h.2⟩

theorem next_of_not_adjusts {e : Event} (h : e.isAdjustment = false) : g.next e = g := by
  cases e with
  | adjusted => cases h
  | called | slept | built | flushed | reported | ranAction | ranCodeblock | noted => rfl

theorem throughout_of_steady (h : ∀ e ∈ es, e.isAdjustment = false ∧ P g e) :
    g.Throughout P es ∧ es.foldl next g = g := by
  induction es with
  | nil => exact ⟨trivial, rfl⟩
  | cons e es ih =>
      obtain ⟨⟨hadj, hp⟩, hes⟩ := List.forall_mem_cons.1 h
      obtain ⟨hthrough, hend⟩ := ih hes
      rw [Throughout, List.foldl_cons, next_of_not_adjusts hadj]
      exact ⟨⟨hp, hthrough⟩, hend⟩

/-- What leaves under this regime is switched on, or has been requested. -/
def Permits (hand : ByHand) (g : Regime) : Event → Prop
  | .reported (.command _) =>
      g.switches.disableReports = false ∧ g.switches.disableCommandReports = false
  | .reported (.step s) => g.switches.disableReports = false ∨ hand.steps s
  | .reported (.test t) =>
      g.switches.disableReports = false ∧
        (g.switches.disableAutoTestReports = false ∨ hand.tests t)
  | _ => True

end Regime

theorem Switches.reportsCommands_iff {s : Switches} :
    s.reportsCommands = true ↔ s.disableReports = false ∧ s.disableCommandReports = false := by
  simp [Switches.reportsCommands]

namespace Runner

variable {ω : Type} {r r' : Runner ω}

/-- Each of the events that have been added is as it should be, and the switches and the
context are as the events have it. -/
def Within (P : Regime → Event → Prop) (r r' : Runner ω) : Prop :=
  ∃ es, r'.trace = r.trace ++ es ∧ r.regime.Throughout P es ∧
    es.foldl Regime.next r.regime = r'.regime

variable {P : Regime → Event → Prop}

instance : Law (@Within ω P) where
  refl r := ⟨[], (List.append_nil _).symm, trivial, rfl⟩
  trans h h' := by
    obtain ⟨es, he, hp, hr⟩ := h
    obtain ⟨es', he', hp', hr'⟩ := h'
    refine ⟨es ++ es', by rw [he', he, List.append_assoc], hp.append ?_, ?_⟩
    · rw [hr]
      exact hp'
    · rw [List.foldl_append, hr, hr']

theorem within_of_steady {es : List Event} (he : r'.trace = r.trace ++ es)
    (hr : r'.regime = r.regime) (h : ∀ e ∈ es, e.isAdjustment = false ∧ P r.regime e) :
    Within P r r' := by
  obtain ⟨hes, hend⟩ := Regime.throughout_of_steady h
  exact ⟨es, he, hes, hend.trans hr.symm⟩

theorem regime_of_memory (h : r'.memory = r.memory) : r'.regime = r.regime :=
  (congrArg (fun v : Runner Unit => v.regime) h :)

variable {hand : ByHand}

theorem Still.within (h : Still r r') : Within (Regime.Permits hand) r r' := by
  obtain ⟨es, he, hp⟩ := h.trace
  refine within_of_steady he (regime_of_memory h.memory) fun e hmem => ?_
  have hplain := hp e hmem
  cases e with
  | called | slept | ranAction | ranCodeblock | noted => exact ⟨rfl, trivial⟩
  | built | flushed | reported | adjusted => cases hplain

theorem eq_of_testDue {t : TestReport} (h : r.testDue = some t) :
    t = ⟨r.latestTest, true, none⟩ ∧ r.latestTest ≠ Config.unnamedTest ∧
      r.switches.disableReports = false ∧ r.latestTest ∉ r.excludedTests := by
  unfold testDue at h
  split at h
  · cases h
  · next hn =>
      obtain ⟨hname, hd, hx⟩ : r.latestTest ≠ Config.unnamedTest ∧
          ¬ r.switches.disableReports = true ∧ r.latestTest ∉ r.excludedTests := by
        simpa [not_or] using hn
      exact ⟨(Option.some.inj h).symm, hname, by simpa using hd, hx⟩

theorem Announces.within {t : Option TestReport} (h : r.Announces r' t)
    (ht : ∀ x ∈ t, r.testDue = some x ∧
      (r.switches.disableAutoTestReports = false ∨ hand.tests x)) :
    Within (Regime.Permits hand) r r' := by
  obtain ⟨hm, es, he, hp⟩ := h
  obtain ⟨es₁, he₁, hes₁, hend₁⟩ :
      Within (Regime.Permits hand) r { r with trace := r.trace ++ es } :=
    Still.within ⟨rfl, es, rfl, hp⟩
  have hes : es₁ = es := List.append_cancel_left he₁.symm
  subst hes
  have hann : r.regime.Throughout (Regime.Permits hand) (announced r.context.polling t) ∧
      (announced r.context.polling t).foldl Regime.next r.regime = r.regime := by
    cases t with
    | none => exact ⟨trivial, rfl⟩
    | some x =>
        obtain ⟨hdue, hreq⟩ := ht x rfl
        obtain ⟨-, -, hon, -⟩ := eq_of_testDue hdue
        exact ⟨⟨trivial, ⟨hon, hreq⟩, trivial⟩, rfl⟩
  refine ⟨_, he, hes₁.append ?_, ?_⟩
  · rw [hend₁]
    exact hann.1
  · rw [List.foldl_append, hend₁]
    exact hann.2.trans (regime_of_memory hm).symm

end Runner

namespace Run

variable {ω : Type} {hand : ByHand} (env : Surroundings ω) (r : Runner ω)

open Runner (Within Still)
open Regime (Permits)

theorem within_modify {f : Runner ω → Runner ω} {P : Regime → Event → Prop}
    (h : ∀ r, (f r).trace = r.trace ∧ (f r).regime = r.regime) :
    Obeys (Within P) (modify f : Run ω Unit) :=
  fun _ r => ⟨[], (h r).1.trans (List.append_nil _).symm, trivial, (h r).2.symm⟩

theorem within_adjust {change : Runner ω → Runner ω}
    (h : ∀ r, (change r).trace = r.trace ∧ (change r).stash = r.stash) :
    Obeys (Within (Permits hand)) (adjust change : Run ω Unit) :=
  fun _ r => ⟨[.adjusted (change r).switches (change r).context],
    congrArg (· ++ _) (h r).1, ⟨trivial, trivial⟩, rfl⟩

theorem within_reportTest (h : r.switches.disableAutoTestReports = false ∨
    ∀ x, r.testDue = some x → hand.tests x) :
    Within (Permits hand) r (after reportTest env r) :=
  (reportTest_announces env r).within fun x hx => ⟨hx, h.imp_right fun h => h x hx⟩

theorem within_noticeTest : Obeys (Within (Permits hand)) (noticeTest : Run ω Unit) := by
  intro env r
  obtain ⟨r₁, h, hafter⟩ := noticeTest_spec env r
  have hwithin : Within (Permits hand) r r₁ := h.within fun x hx => by
    obtain ⟨hon, hdue⟩ : (r.testChanged && !r.switches.disableAutoTestReports) = true ∧
        r.testDue = some x := by simpa [Runner.testOver] using hx
    exact ⟨hdue, .inl (by simpa using (Bool.and_eq_true_iff.1 hon).2)⟩
  rw [hafter]
  split
  · exact hwithin
  · exact hwithin

/-! ## What is put aside -/

/-- Of what was aside nothing leaves but a command, and only while commands are reported. -/
theorem permits_released {x : Report}
    (h : x ∈ released r.stash r.switches.reportsCommands) :
    r.regime.Permits hand (.reported x) := by
  cases hc : r.switches.reportsCommands with
  | false =>
      rw [hc] at h
      cases h
  | true =>
      rw [hc] at h
      cases hs : r.stash with
      | none =>
          rw [hs] at h
          cases h
      | some c =>
          rw [hs] at h
          rw [List.mem_singleton.1 h]
          exact Switches.reportsCommands_iff.1 hc

theorem within_clearStash : Obeys (Within (Permits hand)) (clearStash : Run ω Unit) := by
  intro env r
  obtain ⟨-, hr, ht⟩ := clearStash_spec env r
  refine Runner.within_of_steady ht hr (List.forall_mem_cons.2 ⟨⟨rfl, trivial⟩, ?_⟩)
  exact List.forall_mem_map.2 fun x hx => ⟨rfl, permits_released r hx⟩

theorem within_sendAfterStash {x : Report} (hx : r.regime.Permits hand (.reported x)) :
    Within (Permits hand) r (after (sendAfterStash x) env r) := by
  obtain ⟨-, hr, ht⟩ := sendAfterStash_spec x env r
  refine Runner.within_of_steady ht hr ?_
  refine List.forall_mem_cons.2 ⟨⟨rfl, trivial⟩, List.forall_mem_cons.2 ⟨⟨rfl, trivial⟩, ?_⟩⟩
  refine List.forall_mem_map.2 (List.forall_mem_append.2 ⟨fun y hy => ?_, ?_⟩)
  · exact ⟨rfl, permits_released r hy⟩
  · exact List.forall_mem_singleton.2 ⟨rfl, hx⟩

theorem within_submitCommand (report : CommandReport)
    (h : r.switches.reportsCommands = true) :
    Within (Permits hand) r (after (submitCommand report) env r) := by
  cases hp : r.context.polling with
  | true =>
      rw [after_submitCommand_polling report env hp]
      exact ⟨[.built (.command report) true], rfl, ⟨trivial, trivial⟩, rfl⟩
  | false =>
      rw [after_submitCommand report env h hp]
      exact within_sendAfterStash env r (Switches.reportsCommands_iff.1 h)

/-! ## The parts of operations -/

theorem within_reportCommand (command : Command) (params : Json)
    (answer : Except Failure Response) (policy : StepPolicy) :
    Obeys (Within (Permits hand)) (reportCommand command params answer policy : Run ω Unit) := by
  unfold reportCommand
  split
  · -- The end of the session.
    refine .bind within_clearStash fun _ => fun env r => ?_
    show Within _ r (after
      (if !r.switches.disableAutoTestReports then reportTest else pure ()) env r)
    split
    · next hauto => exact within_reportTest env r (.inl (by simpa using hauto))
    · exact Runner.Law.refl r
  · generalize outcome answer = told
    obtain ⟨told, passed⟩ := told
    intro env r
    show Within _ r (after (if r.switches.reportsCommands then _ else _) env r)
    cases hr : r.switches.reportsCommands with
    | false => exact (still_note _ env r).within
    | true =>
        -- What the report is put together of leaves the switches as they are.
        have hs := still_commandReport command params told
          (resolve passed policy.invert policy.alwaysPass) policy.capture env r
        have hr' :=
          (congrArg (fun v : Runner Unit => v.switches.reportsCommands) hs.memory :).trans hr
        exact Runner.Law.trans hs.within (within_submitCommand env _ _ hr')

theorem within_reportStep (description message : String) (passed pictured : Bool)
    (element : Option SearchCriteria) (inputs outputs : Option Object) :
    Obeys (Within (Permits hand)) (reportStep description message passed pictured element inputs
      outputs : Run ω Unit) := by
  intro env r
  show Within _ r (after (if r.switches.disableReports then _ else _) env r)
  cases hd : r.switches.disableReports with
  | true => exact (still_note _ env r).within
  | false =>
      have hs := Runner.Law.trans (still_pictureIf pictured env r)
        (still_newGuid env (after (pictureIf pictured) env r))
      refine Runner.Law.trans hs.within (within_sendAfterStash env _ (.inl ?_))
      exact (congrArg (fun v : Runner Unit => v.switches.disableReports) hs.memory :).trans hd

theorem within_reportManualTest {name : Option String} {passed : Bool} {message : Option String}
    (h : ∀ t, (Operation.reportManualTest name passed message).AsksFor t → hand.tests t) :
    Obeys (Within (Permits hand)) (reportManualTest name passed message : Run ω Unit) := by
  intro env r
  obtain ⟨r', hs, hafter⟩ := reportManualTest_spec name passed message env r
  rw [hafter]
  refine Runner.Law.trans (within_noticeTest env r) (Runner.Law.trans hs.within ?_)
  split
  · exact Runner.Law.refl r'
  · next hon =>
      have hsw := (congrArg (fun v : Runner Unit => v.switches.disableReports) hs.memory :)
      refine within_sendAfterStash env r'
        ⟨hsw.trans (Bool.eq_false_iff.2 hon), .inr (h _ ⟨?_, rfl, rfl⟩)⟩
      rintro n rfl
      rfl

theorem parts_within : Parts hand (@Within ω (Permits hand)) where
  still h := fun env r => (h env r).within
  adjust := within_adjust
  setCurrentTest _ := within_modify fun _ => ⟨rfl, rfl⟩
  excludeTests _ := within_modify fun _ => ⟨rfl, rfl⟩
  noticeTest := within_noticeTest
  clearStash := within_clearStash
  reportCommand := within_reportCommand
  reportStep := within_reportStep
  submitStep hs := fun env r => within_sendAfterStash env r (.inr hs)
  reportTest h := fun env r => within_reportTest env r (.inr fun x hx => by
    obtain ⟨rfl, -⟩ := Runner.eq_of_testDue hx
    exact h _ ⟨rfl, rfl⟩)
  reportManualTest := within_reportManualTest

end Run

/-! ## Programs -/

/-- No report in these events has got past a switch that was off, if these are requested. -/
structure Airtight (hand : ByHand) (g : Regime) (es : List Event) : Prop where
  /-- While reports are off nothing leaves but a step that is handed in. -/
  reports : ∀ before x later, es = before ++ .reported x :: later →
    (before.foldl Regime.next g).switches.disableReports = true → ∃ s, x = .step s ∧ hand.steps s
  /-- While reports or those of commands are off no command leaves, whenever it was put aside. -/
  commands : ∀ before c later, es = before ++ .reported (.command c) :: later →
    (before.foldl Regime.next g).switches.disableReports = false ∧
      (before.foldl Regime.next g).switches.disableCommandReports = false
  /-- While automatic reports are off no test leaves but one that is asked for. -/
  tests : ∀ before t later, es = before ++ .reported (.test t) :: later →
    (before.foldl Regime.next g).switches.disableAutoTestReports = true → hand.tests t

theorem Airtight.of_throughout {hand : ByHand} {g : Regime} {es : List Event}
    (h : g.Throughout (Regime.Permits hand) es) : Airtight hand g es where
  reports before x later hes hoff := by
    rw [hes] at h
    have hpermits := h.at
    generalize before.foldl Regime.next g = now at hoff hpermits
    cases x with
    | command c => exact absurd (hpermits.1.symm.trans hoff) (by decide)
    | step s =>
        rcases hpermits with hon | hs
        · exact absurd (hon.symm.trans hoff) (by decide)
        · exact ⟨s, rfl, hs⟩
    | test t => exact absurd (hpermits.1.symm.trans hoff) (by decide)
  commands before c later hes := by
    rw [hes] at h
    exact h.at
  tests before t later hes hoff := by
    rw [hes] at h
    obtain ⟨-, hpermits⟩ := h.at
    exact hpermits.resolve_left fun hon => absurd (hon.symm.trans hoff) (by decide)

open Run in
/-- Nothing gets past a switch, whatever a program does, whatever was aside before it and
whatever the driver and the Agent answer. -/
theorem ProgramWith.airtight {ω α : Type} {hand : ByHand} {m : Run ω α} (h : ProgramWith hand m)
    (env : Surroundings ω) (r : Runner ω) :
    ∃ es, (after m env r).trace = r.trace ++ es ∧ Airtight hand r.regime es ∧
      es.foldl Regime.next r.regime = (after m env r).regime := by
  obtain ⟨es, he, hes, hr⟩ := h.obeys parts_within env r
  exact ⟨es, he, .of_throughout hes, hr⟩

namespace Run

variable {ω : Type} (s : StepReport)

/-- A command of a wait is put aside; then reports go off, another command and a step are
executed, and a step is handed in. -/
def mutedStep : Run ω Unit := do
  let _ ← waitUntil (fun _ => do
    let _ ← execute (.other "getTitle") .null
    return .ok (some ())) 1000 100
  setSwitches fun s => { s with disableReports := true }
  let _ ← execute (.other "click") .null
  reportManualStep (.plain "The title is there" "" true)
  submitStep s

theorem programWith_mutedStep :
    ProgramWith ⟨(· = s), fun _ => False⟩ (mutedStep s : Run ω Unit) := by
  have hexecute : ∀ name, ProgramWith ⟨(· = s), fun _ => False⟩
      (execute (.other name) .null : Run ω _) :=
    fun name => .perform (.execute (.other name) .null) fun _ => id
  refine .bind (.waitUntil _ _ fun _ => .bind (hexecute _) fun _ => .pure _) fun _ => ?_
  refine .bind (.setSwitches _) fun _ => .bind (hexecute _) fun _ => ?_
  refine .bind (.perform (.reportManualStep (.plain "The title is there" "" true)) fun _ => id)
    fun _ => ?_
  exact .submitStep rfl

/-- Of these only the step that is handed in leaves. -/
theorem airtight_mutedStep :
    let s : StepReport := ⟨"step", "By hand", "", true, none, none, none, none⟩
    let r := Runner.ofConfig .default ()
    let r' := after (mutedStep s) plainSurroundings r
    ProgramWith ⟨(· = s), fun _ => False⟩ (mutedStep s : Run Unit Unit) ∧
    (∃ es, r'.trace = r.trace ++ es ∧ Airtight ⟨(· = s), fun _ => False⟩ r.regime es ∧
      es.foldl Regime.next r.regime = r'.regime) ∧
    r'.trace.filterMap (fun e => e.building?.map Report.kind) = [.command, .step] ∧
    r'.trace.filterMap (fun e => e.arrival?.map Report.kind) = [.step] :=
  ⟨programWith_mutedStep _, ProgramWith.airtight (programWith_mutedStep _) _ _, by cbv, by cbv⟩

end Run
end Courier
