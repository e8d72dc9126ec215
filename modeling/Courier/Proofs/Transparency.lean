import Courier.Proofs.TestReports
import Courier.Proofs.TwinRuns
import Mathlib

/-!
# Reporting is transparent

Test code does not notice whether anything is reported. Two runs go through the same
operations, and what is held back from the reports may differ from the beginning and at
every moment later. They take different branches wherever a switch is looked at; the one
puts a report together, asks for a picture and probes a field, the other notes a line.

All of this stays out of view: of a runner test code can see the names of the test, the
context, the open scopes, the time, and what it has had the driver do. A branch that depends
on a switch leaves the view as it is, and whatever it does to the world of driver and Agent
must not change their answers. The rest is done alike in both runs.
-/

namespace Courier

open Run

/-! ## What is in view -/

/-- What was asked of the driver, other than for the sake of a report. -/
def Event.demand? : Event → Option (Command × Json)
  | .called .request command params | .called .timing command params => some (command, params)
  | _ => none

/-- What test code can see of a runner. -/
structure View where
  latestTest : String
  currentTest : String
  context : StepContext
  scopes : List Scope
  clock : Nat
  demands : List (Command × Json)

namespace Runner

variable {ω : Type}

/-- What the caller can see of a runner. -/
def view (r : Runner ω) : View where
  latestTest := r.latestTest
  currentTest := r.currentTest
  context := r.context
  scopes := r.scopes
  clock := r.clock
  demands := r.trace.filterMap Event.demand?

theorem view_event (r : Runner ω) (e : Event) : ({ r with trace := r.trace ++ [e] }).view =
    { r.view with demands := r.view.demands ++ e.demand?.toList } := by
  have hsingle : [e].filterMap Event.demand? = e.demand?.toList := by
    cases h : e.demand? with
    | none => exact List.filterMap_cons_none h
    | some d => exact List.filterMap_cons_some h
  exact congrArg (View.mk _ _ _ _ _) (List.filterMap_append.trans (congrArg _ hsingle))

end Runner

/-- What can become of a world while test code asks for nothing: the driver is called and the
Agent is told things. -/
inductive Surroundings.Wanders {ω : Type} (env : Surroundings ω) : ω → ω → Prop where
  | refl (w : ω) : Wanders env w w
  | drive {w w' : ω} (command : Command) (params : Json) : Wanders env w w' →
      Wanders env w (env.drive command params w').2
  | report {w w' : ω} (x : Report) : Wanders env w w' → Wanders env w (env.report x w')

theorem Surroundings.Wanders.trans {ω : Type} {env : Surroundings ω} {w w' w'' : ω}
    (h : env.Wanders w w') (h' : env.Wanders w' w'') : env.Wanders w w'' := by
  induction h' with
  | refl => exact h
  | drive command params _ ih => exact .drive command params ih
  | report x _ ih => exact .report x ih

namespace Run

variable {ω α β : Type} {env : Surroundings ω}

/-- The run leaves everything in view as it is. -/
def Unseen (env : Surroundings ω) (m : Run ω α) : Prop :=
  ∀ r, (after m env r).view = r.view ∧ env.Wanders r.world (after m env r).world

/-! ## What is out of view -/

namespace Unseen

theorem pure (a : α) : Unseen env (Pure.pure a : Run ω α) := fun r => ⟨rfl, .refl r.world⟩

theorem bind {m : Run ω α} {f : α → Run ω β} (hm : Unseen env m) (hf : ∀ a, Unseen env (f a)) :
    Unseen env (m >>= f) := by
  intro r
  obtain ⟨hv, hw⟩ := hm r
  obtain ⟨hv', hw'⟩ := hf (result m env r) (after m env r)
  exact ⟨hv'.trans hv, hw.trans hw'⟩

theorem get : Unseen env (MonadState.get : Run ω (Runner ω)) := fun r => ⟨rfl, .refl r.world⟩

theorem read : Unseen env (MonadReader.read : Run ω (Surroundings ω)) :=
  fun r => ⟨rfl, .refl r.world⟩

theorem ite {c : Prop} [Decidable c] {m n : Run ω α} (hm : Unseen env m) (hn : Unseen env n) :
    Unseen env (if c then m else n) := by
  split
  · exact hm
  · exact hn

theorem modifyGet {f : Runner ω → α × Runner ω}
    (h : ∀ r, (f r).2.view = r.view ∧ (f r).2.world = r.world) :
    Unseen env (modifyGet f : Run ω α) := by
  intro r
  obtain ⟨hv, hw⟩ := h r
  refine ⟨hv, ?_⟩
  show env.Wanders r.world (f r).2.world
  rw [hw]
  exact .refl _

end Unseen

theorem unseen_emit {e : Event} (h : e.demand? = none) : Unseen env (emit e : Run ω Unit) := by
  refine .modifyGet fun r => ⟨(r.view_event e).trans ?_, rfl⟩
  rw [h]
  exact congrArg (View.mk _ _ _ _ _) (List.append_nil _)

theorem unseen_note (e : Log.Entry) : Unseen env (note e : Run ω Unit) := unseen_emit rfl

theorem unseen_switches : Unseen env (switches : Run ω Switches) := .bind .get fun _ => .pure _

theorem unseen_drive {purpose : Purpose} {command : Command} {params : Json}
    (h : (Event.called purpose command params).demand? = none) :
    Unseen env (drive purpose command params : Run ω _) := by
  intro r
  obtain ⟨hv, -⟩ := @unseen_emit ω env _ h r
  exact ⟨hv, .drive command params (.refl r.world)⟩

theorem unseen_deliver (x : Report) : Unseen env (deliver x : Run ω Unit) := by
  intro r
  obtain ⟨hv, -⟩ := @unseen_emit ω env (.reported x) rfl r
  exact ⟨hv, .report x (.refl r.world)⟩

theorem unseen_build (x : Report) : Unseen env (build x : Run ω Unit) :=
  .bind .get fun _ => unseen_emit rfl

theorem unseen_newGuid : Unseen env (newGuid : Run ω String) :=
  .bind .read fun _ => .modifyGet fun _ => ⟨rfl, rfl⟩

theorem unseen_takeStash : Unseen env (takeStash : Run ω _) :=
  .bind unseen_switches fun _ => .bind (unseen_emit rfl) fun _ => .modifyGet fun _ => ⟨rfl, rfl⟩

theorem unseen_clearStash : Unseen env (clearStash : Run ω Unit) := by
  refine .bind unseen_takeStash fun stash => ?_
  cases stash with
  | none => exact .pure _
  | some report => exact .bind unseen_switches fun _ => .ite (unseen_deliver _) (.pure _)

theorem unseen_sendAfterStash (x : Report) : Unseen env (sendAfterStash x : Run ω Unit) :=
  .bind (unseen_build _) fun _ => .bind unseen_clearStash fun _ => unseen_deliver _

theorem unseen_submitCommand (report : CommandReport) :
    Unseen env (submitCommand report : Run ω Unit) := by
  refine .bind (unseen_build _) fun _ => .bind .get fun _ => ?_
  refine .ite (.modifyGet fun _ => ⟨rfl, rfl⟩) (.bind unseen_takeStash fun stash => ?_)
  cases stash with
  | none => exact unseen_deliver _
  | some earlier => exact .bind (unseen_deliver _) fun _ => unseen_deliver _

theorem unseen_pictureIf (wanted : Bool) : Unseen env (pictureIf wanted : Run ω _) := by
  refine .ite (.bind .read fun _ => .bind (unseen_drive rfl) fun answer => ?_) (.pure _)
  cases answer with
  | ok response => exact .ite (.bind (unseen_note _) fun _ => .pure _) (.pure _)
  | error e => exact .bind (unseen_note _) fun _ => .pure _

theorem unseen_redact (command : Command) (params : Json) :
    Unseen env (redact command params : Run ω Json) := by
  refine .ite (.pure _) (.bind (.bind .read fun _ => .bind (unseen_drive rfl) fun answer => ?_)
    fun _ => .ite (.bind (unseen_note _) fun _ => .pure _) (.pure _))
  cases answer with
  | ok response => exact .pure _
  | error e => exact .bind (unseen_note _) fun _ => .pure _

theorem unseen_commandReport (command : Command) (params result : Json) (resolution : Resolution)
    (capture : CaptureRule) :
    Unseen env (commandReport command params result resolution capture : Run ω _) := by
  have hrest : ∀ shown, Unseen env (pictureIf (capture.applies resolution.passed) >>= fun picture =>
      (pure ⟨command, shown, result, resolution.passed, some resolution.message, picture⟩ :
        Run ω CommandReport)) :=
    fun _ => .bind (unseen_pictureIf _) fun _ => .pure _
  exact .bind unseen_switches fun _ =>
    .ite (.bind (.pure _) hrest) (.bind (unseen_redact _ _) hrest)

theorem unseen_reportTest : Unseen env (reportTest : Run ω Unit) := by
  refine .bind .get fun _ => .ite (.pure _) (.ite (unseen_note _) (.ite (unseen_note _) ?_))
  exact .bind (unseen_build _) fun _ => unseen_deliver _

theorem unseen_reportCommand (command : Command) (params : Json)
    (answer : Except Failure Response) (policy : StepPolicy) :
    Unseen env (reportCommand command params answer policy : Run ω Unit) := by
  unfold reportCommand
  refine .ite (.bind unseen_clearStash fun _ => .bind unseen_switches fun _ =>
    .ite unseen_reportTest (.pure _)) ?_
  generalize outcome answer = told
  obtain ⟨told, passed⟩ := told
  refine .bind unseen_switches fun _ => .ite ?_ (unseen_note _)
  exact .bind (unseen_commandReport _ _ _ _ _) fun _ => unseen_submitCommand _

theorem unseen_reportStep (description message : String) (passed pictured : Bool)
    (element : Option SearchCriteria) (inputs outputs : Option Object) :
    Unseen env (reportStep description message passed pictured element inputs outputs :
      Run ω Unit) :=
  .bind unseen_switches fun _ => .ite (unseen_note _) <|
    .bind (unseen_pictureIf _) fun _ => .bind unseen_newGuid fun _ => unseen_sendAfterStash _

theorem unseen_adjust {change : Runner ω → Runner ω}
    (h : ∀ r, (change r).view = r.view ∧ (change r).world = r.world) :
    Unseen env (adjust change : Run ω Unit) :=
  .bind (.modifyGet h) fun _ => .bind .get fun _ => unseen_emit rfl

/-- That a test is over is seen by the name of the latest test alone. -/
theorem noticeTest_unseen (env : Surroundings ω) (r : Runner ω) :
    ∃ r', r'.view = r.view ∧ env.Wanders r.world r'.world ∧
      after noticeTest env r = if r.testChanged then r'.caughtUp else r' := by
  rw [after_noticeTest]
  cases r.testChanged with
  | false => exact ⟨r, rfl, .refl _, rfl⟩
  | true =>
      cases r.switches.disableAutoTestReports with
      | true => exact ⟨r, rfl, .refl _, rfl⟩
      | false =>
          obtain ⟨hv, hw⟩ := @unseen_reportTest ω env r
          exact ⟨_, hv, hw, rfl⟩

end Run

/-! ## What both runs do alike -/

/-- Whatever is driven or reported in the one run alone, the worlds stay the same for all that
calls can tell. -/
structure Twinning.Indifferent {ω₁ ω₂ : Type} (T : Twinning ω₁ ω₂) : Prop where
  drive_first : ∀ {w₁ w₂} c p, T.Same w₁ w₂ → T.Same (T.first.drive c p w₁).2 w₂
  drive_second : ∀ {w₁ w₂} c p, T.Same w₁ w₂ → T.Same w₁ (T.second.drive c p w₂).2
  report_first : ∀ {w₁ w₂} x, T.Same w₁ w₂ → T.Same (T.first.report x w₁) w₂
  report_second : ∀ {w₁ w₂} x, T.Same w₁ w₂ → T.Same w₁ (T.second.report x w₂)

namespace Twinning

variable {ω₁ ω₂ α : Type} {T : Twinning ω₁ ω₂} {w₁ w₁' : ω₁} {w₂ w₂' : ω₂}

theorem Indifferent.same (hT : T.Indifferent) (h : T.Same w₁ w₂) (h₁ : T.first.Wanders w₁ w₁')
    (h₂ : T.second.Wanders w₂ w₂') : T.Same w₁' w₂' := by
  have hleft : T.Same w₁' w₂ := by
    induction h₁ with
    | refl => exact h
    | drive c p _ ih => exact hT.drive_first c p ih
    | report x _ ih => exact hT.report_first x ih
  induction h₂ with
  | refl => exact hleft
  | drive c p _ ih => exact hT.drive_second c p ih
  | report x _ ih => exact hT.report_second x ih

variable (T) in
/-- Test code sees the same of both runners, and calls are answered alike. -/
def Akin (r₁ : Runner ω₁) (r₂ : Runner ω₂) : Prop :=
  r₁.view = r₂.view ∧ T.Same r₁.world r₂.world

theorem keeps_of_unseen {m₁ : Run ω₁ Unit} {m₂ : Run ω₂ Unit} (hT : T.Indifferent)
    (h₁ : Unseen T.first m₁) (h₂ : Unseen T.second m₂) :
    Keeps T.Akin T.first T.second m₁ m₂ := by
  intro r₁ r₂ ⟨hv, hs⟩
  obtain ⟨hv₁, hw₁⟩ := h₁ r₁
  obtain ⟨hv₂, hw₂⟩ := h₂ r₂
  exact ⟨rfl, hv₁.trans (hv.trans hv₂.symm), hT.same hs hw₁ hw₂⟩

/-- What is in view is changed by what is in view. -/
theorem keeps_modify {c₁ : Runner ω₁ → Runner ω₁} {c₂ : Runner ω₂ → Runner ω₂} (g : View → View)
    (h₁ : ∀ r, (c₁ r).view = g r.view ∧ (c₁ r).world = r.world)
    (h₂ : ∀ r, (c₂ r).view = g r.view ∧ (c₂ r).world = r.world) :
    Keeps T.Akin T.first T.second (modify c₁) (modify c₂) := by
  intro r₁ r₂ ⟨hv, hs⟩
  refine ⟨rfl, ?_, ?_⟩
  · exact (h₁ r₁).1.trans ((congrArg g hv).trans (h₂ r₂).1.symm)
  · show T.Same (c₁ r₁).world (c₂ r₂).world
    rw [(h₁ r₁).2, (h₂ r₂).2]
    exact hs

variable (hT : T.Indifferent)

include hT

theorem keeps_note (e : Log.Entry) : Keeps T.Akin T.first T.second (note e) (note e) :=
  keeps_of_unseen hT (unseen_note e) (unseen_note e)

theorem keeps_adjust {c₁ : Runner ω₁ → Runner ω₁} {c₂ : Runner ω₂ → Runner ω₂} (g : View → View)
    (h₁ : ∀ r, (c₁ r).view = g r.view ∧ (c₁ r).world = r.world)
    (h₂ : ∀ r, (c₂ r).view = g r.view ∧ (c₂ r).world = r.world) :
    Keeps T.Akin T.first T.second (adjust c₁) (adjust c₂) :=
  .bind (keeps_modify g h₁ h₂) fun _ => .get_bind fun _ _ _ =>
    keeps_of_unseen hT (unseen_emit rfl) (unseen_emit rfl)

theorem keeps_leave (name : String) : Keeps T.Akin T.first T.second (leave name) (leave name) := by
  refine keeps_adjust hT (fun v => (v.scopes.find? fun s => s.name == name).elim v fun s =>
    { v with context := s.outer, scopes := v.scopes.eraseP fun s => s.name == name })
    (fun r => ?_) (fun r => ?_)
  all_goals
    dsimp only [Runner.view]
    cases r.scopes.find? fun s => s.name == name <;> exact ⟨rfl, rfl⟩

omit hT in
theorem keeps_emit (e : Event) : Keeps T.Akin T.first T.second (emit e) (emit e) :=
  keeps_modify (fun v => { v with demands := v.demands ++ e.demand?.toList })
    (fun r => ⟨r.view_event e, rfl⟩) (fun r => ⟨r.view_event e, rfl⟩)

omit hT in
theorem keeps_sleep (ms : Nat) : Keeps T.Akin T.first T.second (sleep ms) (sleep ms) :=
  .bind (keeps_emit _) fun _ =>
    keeps_modify (fun v => { v with clock := v.clock + timer ms }) (fun _ => ⟨rfl, rfl⟩)
      (fun _ => ⟨rfl, rfl⟩)

omit hT in
theorem keeps_drive (purpose : Purpose) (command : Command) (params : Json) :
    Keeps T.Akin T.first T.second (drive purpose command params)
      (drive purpose command params) := by
  refine .bind (keeps_emit _) fun _ => .read_bind ?_
  intro r₁ r₂ ⟨hv, hs⟩
  exact ⟨(T.drive_first _ _ _).trans (T.drive_second _ _ _).symm, hv, T.drive_same _ _ _ hs⟩

theorem keeps_noticeTest : Keeps T.Akin T.first T.second noticeTest noticeTest := by
  intro r₁ r₂ ⟨hv, hs⟩
  obtain ⟨r₁', hv₁, hw₁, h₁⟩ := noticeTest_unseen T.first r₁
  obtain ⟨r₂', hv₂, hw₂, h₂⟩ := noticeTest_unseen T.second r₂
  have hview : r₁'.view = r₂'.view := hv₁.trans (hv.trans hv₂.symm)
  have hchanged : r₁.testChanged = r₂.testChanged :=
    congrArg
      (fun v : View => v.currentTest != v.latestTest && v.currentTest != Config.unnamedTest) hv
  refine ⟨rfl, ?_⟩
  rw [h₁, h₂, hchanged]
  cases r₂.testChanged with
  | false => exact ⟨hview, hT.same hs hw₁ hw₂⟩
  | true =>
      have hcaught := congrArg (fun v : View => { v with latestTest := v.currentTest }) hview
      exact ⟨hcaught, hT.same hs hw₁ hw₂⟩

theorem keeps_reportManualTest (name : Option String) (passed : Bool) (message : Option String) :
    Keeps T.Akin T.first T.second (reportManualTest name passed message)
      (reportManualTest name passed message) := by
  refine .bind (keeps_noticeTest hT) fun _ => keeps_of_unseen hT ?_ ?_
  all_goals
    refine .bind .get fun _ => .ite (unseen_note _) (.ite (.bind (unseen_note _) fun _ => ?_) ?_)
    all_goals exact unseen_sendAfterStash _

theorem keepsParts_akin : KeepsParts T.Akin T.first T.second where
  session := T.session
  context ha := (congrArg View.context ha.1 :)
  clock ha := (congrArg View.clock ha.1 :)
  note := keeps_note hT
  sleep := keeps_sleep
  drive := keeps_drive
  callAction a := .ask (keeps_emit _) (keeps_note hT) fun _ _ ha =>
    (T.runAction_same a ha.2).imp_right fun hs => ⟨ha.1, hs⟩
  callCodeblock guid body := .ask (keeps_emit _) (keeps_note hT) fun _ _ ha =>
    (T.runCodeblock_same guid body ha.2).imp_right fun hs => ⟨ha.1, hs⟩
  setContext c := keeps_adjust hT (fun v => { v with context := c }) (fun _ => ⟨rfl, rfl⟩)
    (fun _ => ⟨rfl, rfl⟩)
  enter name change := keeps_adjust hT (fun v =>
      { v with context := change v.context, scopes := v.scopes ++ [⟨name, v.context⟩] })
    (fun _ => ⟨rfl, rfl⟩) (fun _ => ⟨rfl, rfl⟩)
  leave := keeps_leave hT
  setCurrentTest name := keeps_modify (fun v => { v with currentTest := name })
    (fun _ => ⟨rfl, rfl⟩) (fun _ => ⟨rfl, rfl⟩)
  excludeTests _ := keeps_modify id (fun _ => ⟨rfl, rfl⟩) (fun _ => ⟨rfl, rfl⟩)
  noticeTest := keeps_noticeTest hT
  clearStash := keeps_of_unseen hT unseen_clearStash unseen_clearStash
  reportTest := keeps_of_unseen hT unseen_reportTest unseen_reportTest
  reportCommand _ _ _ _ := keeps_of_unseen hT (unseen_reportCommand _ _ _ _)
    (unseen_reportCommand _ _ _ _)
  reportStep _ _ _ _ _ _ _ := keeps_of_unseen hT (unseen_reportStep _ _ _ _ _ _ _)
    (unseen_reportStep _ _ _ _ _ _ _)
  reportManualTest := keeps_reportManualTest hT

end Twinning

/-! ## Transparency -/

namespace Twinning

variable {ω₁ ω₂ α : Type} {T : Twinning ω₁ ω₂} {m₁ : Run ω₁ α} {m₂ : Run ω₂ α} {r₁ : Runner ω₁}
  {r₂ : Runner ω₂}

/-- Two programs that go through the same operations. What is held back from the reports may
differ from any moment on, and so may the tests that are left out. -/
inductive Paired : {α : Type} → Run ω₁ α → Run ω₂ α → Prop where
  | pure {α : Type} (a : α) : Paired (Pure.pure a) (Pure.pure a)
  | bind {α β : Type} {m₁ : Run ω₁ α} {m₂ : Run ω₂ α} {f₁ : α → Run ω₁ β} {f₂ : α → Run ω₂ β} :
      Paired m₁ m₂ → (∀ a, Paired (f₁ a) (f₂ a)) → Paired (m₁ >>= f₁) (m₂ >>= f₂)
  /-- What is in view may be looked at. -/
  | look {α : Type} (f : View → α) :
      Paired (do return f (← MonadState.get).view) (do return f (← MonadState.get).view)
  | perform {α : Type} (op : Operation α) : Paired op.perform op.perform
  | setSwitches (change₁ change₂ : Switches → Switches) :
      Paired (setSwitches change₁) (setSwitches change₂)
  | excludeTests (names₁ names₂ : List String) : Paired (excludeTests names₁) (excludeTests names₂)
  | submitStep (report : StepReport) : Paired (submitStep report) (submitStep report)
  | waitUntil {α : Type} {c₁ : Condition ω₁ α} {c₂ : Condition ω₂ α} (timeout interval : Nat) :
      (∀ n, Paired (c₁ n) (c₂ n)) →
      Paired (waitUntil c₁ timeout interval) (waitUntil c₂ timeout interval)

theorem Paired.keeps (hT : T.Indifferent) (h : Paired m₁ m₂) :
    Keeps T.Akin T.first T.second m₁ m₂ := by
  induction h with
  | pure => exact .pure _
  | bind _ _ ihm ihf => exact .bind ihm ihf
  | look f => exact fun r₁ r₂ ha => ⟨congrArg f ha.1, ha⟩
  | perform op => exact (keepsParts_akin hT).perform op
  | setSwitches =>
      exact keeps_of_unseen hT (unseen_adjust fun _ => ⟨rfl, rfl⟩)
        (unseen_adjust fun _ => ⟨rfl, rfl⟩)
  | excludeTests =>
      exact keeps_of_unseen hT (.modifyGet fun _ => ⟨rfl, rfl⟩) (.modifyGet fun _ => ⟨rfl, rfl⟩)
  | submitStep => exact keeps_of_unseen hT (unseen_sendAfterStash _) (unseen_sendAfterStash _)
  | waitUntil _ _ _ ih => exact (keepsParts_akin hT).waitUntil ih _ _

/-- What the one run does next and what the other does. -/
structure Turn (ω₁ ω₂ : Type) where
  Outcome : Type
  first : Run ω₁ Outcome
  second : Run ω₂ Outcome
  paired : Paired first second

variable (T) in
/-- Turn by turn, both runs return the same, go by the same clock, know the same test and have
asked the driver for the same. -/
def Transparent : List (Turn ω₁ ω₂) → Runner ω₁ → Runner ω₂ → Prop
  | [], _, _ => True
  | turn :: turns, r₁, r₂ =>
      result turn.first T.first r₁ = result turn.second T.second r₂ ∧
      (after turn.first T.first r₁).clock = (after turn.second T.second r₂).clock ∧
      (after turn.first T.first r₁).latestTest = (after turn.second T.second r₂).latestTest ∧
      (after turn.first T.first r₁).trace.filterMap Event.demand? =
        (after turn.second T.second r₂).trace.filterMap Event.demand? ∧
      Transparent turns (after turn.first T.first r₁) (after turn.second T.second r₂)

theorem Akin.transparent_turns (hT : T.Indifferent) (turns : List (Turn ω₁ ω₂))
    (ha : T.Akin r₁ r₂) : T.Transparent turns r₁ r₂ := by
  induction turns generalizing r₁ r₂ with
  | nil => trivial
  | cons turn turns ih =>
      obtain ⟨hresult, ha'⟩ := turn.paired.keeps hT r₁ r₂ ha
      exact ⟨hresult, (congrArg View.clock ha'.1 :), (congrArg View.latestTest ha'.1 :),
        (congrArg View.demands ha'.1 :), ih ha'⟩

/-! ## What a command returns -/

variable (T) in
/-- The driver's answer to a command, or the failure to set the implicit wait before it. -/
def answerTo (command : Command) (wait : Int) : Except Failure Response :=
  if wait ≤ 0 then T.respond command.name
  else (T.respond (implicitWaitCall T.first.session wait).1.name).bind fun _ =>
    T.respond command.name

theorem result_setImplicitWait (wait : Int) (r : Runner ω₁) :
    result (setImplicitWait wait) T.first r = if wait ≤ 0 then .ok () else
      (T.respond (implicitWaitCall T.first.session wait).1.name).map fun _ => () := by
  unfold setImplicitWait
  split
  · rfl
  · have hread : ∀ r', result (read : Run ω₁ _) T.first r' = T.first := fun _ => rfl
    have hanswer : ∀ params r',
        result (drive .timing (implicitWaitCall T.first.session wait).1 params) T.first r' =
          T.respond (implicitWaitCall T.first.session wait).1.name :=
      fun _ r' => T.drive_first _ _ r'.world
    rw [result_bind, result_bind, hread]
    dsimp only
    rw [result_bind, hanswer]
    cases T.respond (implicitWaitCall T.first.session wait).1.name <;> rfl

theorem result_execute (command : Command) (params : Json) (r : Runner ω₁) :
    result (execute command params) T.first r =
      T.answerTo command r.context.policy.implicitWait := by
  have hpolicy : result policy T.first (after noticeTest T.first r) = r.context.policy := by
    obtain ⟨r', hv, -, hafter⟩ := noticeTest_unseen T.first r
    show (after noticeTest T.first r).context.policy = _
    rw [hafter]
    split <;> exact (congrArg (fun v : View => v.context.policy) hv :)
  have hrest : ∀ policy r', result (do
      sleepAroundCommand command policy.sleepTiming policy.sleep .before
      let answer ← drive .request command params
      sleepAroundCommand command policy.sleepTiming policy.sleep .after
      reportCommand command params answer policy
      return answer) T.first r' = T.respond command.name := by
    intro policy r'
    rw [result_bind, result_bind, result_bind, result_bind, result_pure]
    exact T.drive_first _ _ _
  unfold execute
  rw [result_bind, result_bind, hpolicy, result_bind, result_setImplicitWait, answerTo]
  generalize r.context.policy = policy
  by_cases hwait : policy.implicitWait ≤ 0
  · rw [if_pos hwait, if_pos hwait]
    exact hrest _ _
  · rw [if_neg hwait, if_neg hwait]
    cases T.respond (implicitWaitCall T.first.session policy.implicitWait).1.name with
    | error e => rfl
    | ok response => exact hrest _ _

/-- Surroundings in which everything passes, twice. -/
def plainTwins : Twinning Unit Unit where
  first := plainSurroundings
  second := plainSurroundings
  respond _ := .ok (.ok .null)
  Same _ _ := True
  session := rfl
  drive_first _ _ _ := rfl
  drive_second _ _ _ := rfl
  drive_same _ _ _ _ := trivial
  report_same _ _ := trivial
  runAction_same _ _ := ⟨rfl, trivial⟩
  runCodeblock_same _ _ _ := ⟨rfl, trivial⟩

theorem indifferent_plainTwins : plainTwins.Indifferent :=
  ⟨fun _ _ _ => trivial, fun _ _ _ => trivial, fun _ _ => trivial, fun _ _ => trivial⟩

/-- The parameters with which `me` is typed into an element. -/
def typedName : Json := .obj [("id", .str "el-1"), ("text", .str "me")]

/-- Another test begins, and a wait of two polls types a name in each. -/
def typeTwice (change : Switches → Switches) : Run Unit Nat := do
  setCurrentTest "Sign in"
  setSwitches change
  let waited ← waitUntil (fun polls => do
    let _ ← execute .sendKeysToElement typedName
    return .ok (if polls = 1 then some () else none)) 1000 100
  return waited.polls

theorem paired_typeTwice (change₁ change₂ : Switches → Switches) :
    Paired (typeTwice change₁) (typeTwice change₂) := by
  have htype : Paired (execute .sendKeysToElement typedName : Run Unit _)
      (execute .sendKeysToElement typedName : Run Unit _) :=
    .perform (.execute .sendKeysToElement typedName)
  refine .bind (.perform (.setCurrentTest "Sign in")) fun _ => .bind (.setSwitches _ _) fun _ => ?_
  exact .bind (.waitUntil _ _ fun _ => .bind htype fun _ => .pure _) fun _ => .pure _

end Twinning
end Courier
