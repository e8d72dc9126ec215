import Courier.Proofs.PairedRuns
import Courier.Proofs.StashLaw

/-!
# The clock of a runner

Time passes for a runner only when it sleeps, so that its clock never goes back whatever a
program does. Being no law about reports, this does not follow from stillness: a still run may
well take time. It is shown of what runs are made of one by one. For everything in between it
comes from pairs of runs, as the statement that a run is related to itself by the relation
that has the clock at some time or later.
-/

namespace Courier

/-- No time is taken back. -/
def Runner.Later {ω : Type} (r r' : Runner ω) : Prop := r.clock ≤ r'.clock

namespace Run

variable {ω α : Type}

open Runner (Later)

instance : Runner.Law (@Later ω) where
  refl r := Nat.le_refl r.clock
  trans h h' := Nat.le_trans h h'

/-! ## What runs are made of -/

theorem later_emit (e : Event) : Obeys Later (emit e : Run ω Unit) :=
  fun _ r => Nat.le_refl r.clock

theorem later_modifyGet {f : Runner ω → α × Runner ω} (h : ∀ r, (f r).2.clock = r.clock) :
    Obeys Later (modifyGet f : Run ω α) := by
  intro env r
  show r.clock ≤ (f r).2.clock
  rw [h r]

theorem later_adjust {change : Runner ω → Runner ω} (h : ∀ r, (change r).clock = r.clock) :
    Obeys Later (adjust change : Run ω Unit) := by
  intro env r
  show r.clock ≤ (change r).clock
  rw [h r]

theorem later_sleep (ms : Nat) : Obeys Later (sleep ms : Run ω Unit) :=
  fun _ r => Nat.le_add_right r.clock (timer ms)

theorem later_drive (purpose : Purpose) (command : Command) (params : Json) :
    Obeys Later (drive purpose command params : Run ω _) :=
  fun _ r => Nat.le_refl r.clock

theorem later_build (x : Report) : Obeys Later (build x : Run ω Unit) :=
  fun _ r => Nat.le_refl r.clock

theorem later_deliver (x : Report) : Obeys Later (deliver x : Run ω Unit) :=
  fun _ r => Nat.le_refl r.clock

theorem later_newGuid : Obeys Later (newGuid : Run ω String) :=
  fun _ r => Nat.le_refl r.clock

theorem later_switches : Obeys Later (switches : Run ω Switches) :=
  fun _ r => Nat.le_refl r.clock

theorem later_ask {β : Type} {e : Event} (call : Surroundings ω → ω → Reply β × ω) :
    Obeys Later (ask e call) := by
  refine .bind (later_emit e) fun _ => .bind .read fun env => ?_
  refine .bind (later_modifyGet fun _ => rfl) fun reply => ?_
  exact .bind (.forM (fun e => later_emit (.noted e)) _) fun _ => .pure _

/-! ## The stash and the tests -/

theorem later_takeStash : Obeys Later (takeStash : Run ω (Option CommandReport)) :=
  fun _ r => Nat.le_refl r.clock

theorem later_clearStash : Obeys Later (clearStash : Run ω Unit) := by
  refine .bind later_takeStash fun stash => ?_
  cases stash with
  | none => exact .pure _
  | some report =>
      refine .bind later_switches fun sw => ?_
      split
      · exact later_deliver _
      · exact .pure _

theorem later_sendAfterStash (x : Report) : Obeys Later (sendAfterStash x : Run ω Unit) :=
  .bind (later_build x) fun _ => .bind later_clearStash fun _ => later_deliver x

theorem later_submitCommand (report : CommandReport) :
    Obeys Later (submitCommand report : Run ω Unit) := by
  refine .bind (later_build _) fun _ => .bind .get fun r => ?_
  dsimp only
  split
  · exact later_modifyGet fun _ => rfl
  · refine .bind later_takeStash fun stash => ?_
    cases stash with
    | none => exact later_deliver _
    | some earlier => exact .bind (later_deliver _) fun _ => later_deliver _

theorem later_reportTest : Obeys Later (reportTest : Run ω Unit) := by
  refine .bind .get fun r => ?_
  dsimp only
  split
  · exact .pure _
  · split
    · exact later_emit _
    · split
      · exact later_emit _
      · exact .bind (later_build _) fun _ => later_deliver _

theorem later_noticeTest : Obeys Later (noticeTest : Run ω Unit) := by
  have hrest : Obeys Later (modify fun r => { r with latestTest := r.currentTest } : Run ω Unit) :=
    later_modifyGet fun _ => rfl
  refine .bind .get fun r => ?_
  dsimp only
  split
  · split
    · exact .bind later_reportTest fun _ => hrest
    · exact hrest
  · exact .pure _

/-! ## A run beside itself -/

/-- The same runner twice, at this time or later. -/
def SameFrom (start : Nat) (r r' : Runner ω) : Prop := r = r' ∧ start ≤ r.clock

theorem Obeys.sameFrom {m : Run ω α} (h : Obeys Later m) (start : Nat) (env : Surroundings ω) :
    Keeps (SameFrom start) env env m m := by
  rintro r _ ⟨rfl, hr⟩
  exact ⟨rfl, rfl, Nat.le_trans hr (h env r)⟩

theorem later_of_sameFrom {m : Run ω α}
    (h : ∀ start env, Keeps (SameFrom start) env env m m) : Obeys Later m := by
  intro env r
  obtain ⟨-, -, hle⟩ := h r.clock env r r ⟨rfl, Nat.le_refl r.clock⟩
  exact hle

theorem keepsCalls_sameFrom (start : Nat) (env : Surroundings ω) :
    KeepsCalls (SameFrom start) env env where
  session := rfl
  context h := congrArg Runner.context h.1
  clock h := congrArg Runner.clock h.1
  note e := (later_emit (.noted e)).sameFrom start env
  sleep ms := (later_sleep ms).sameFrom start env
  drive purpose command params := (later_drive purpose command params).sameFrom start env
  callAction a := (later_ask fun env => env.runAction a).sameFrom start env
  callCodeblock guid body := (later_ask fun env => env.runCodeblock guid body).sameFrom start env

theorem later_pictureIf (wanted : Bool) : Obeys Later (pictureIf wanted : Run ω _) :=
  later_of_sameFrom fun start env => (keepsCalls_sameFrom start env).pictureIf wanted

theorem later_redact (command : Command) (params : Json) :
    Obeys Later (redact command params : Run ω Json) :=
  later_of_sameFrom fun start env => (keepsCalls_sameFrom start env).redact command params

/-! ## Reports -/

theorem later_commandReport (command : Command) (params result : Json) (resolution : Resolution)
    (capture : CaptureRule) :
    Obeys Later (commandReport command params result resolution capture : Run ω _) := by
  refine .bind later_switches fun sw => ?_
  dsimp only
  split
  · exact .bind (.pure _) fun _ => .bind (later_pictureIf _) fun _ => .pure _
  · exact .bind (later_redact _ _) fun _ => .bind (later_pictureIf _) fun _ => .pure _

theorem later_reportCommand (command : Command) (params : Json)
    (answer : Except Failure Response) (policy : StepPolicy) :
    Obeys Later (reportCommand command params answer policy : Run ω Unit) := by
  unfold reportCommand
  split
  · refine .bind later_clearStash fun _ => .bind later_switches fun sw => ?_
    split
    · exact later_reportTest
    · exact .pure _
  · generalize outcome answer = told
    obtain ⟨told, passed⟩ := told
    refine .bind later_switches fun sw => ?_
    split
    · exact .bind (later_commandReport _ _ _ _ _) fun _ => later_submitCommand _
    · exact later_emit _

theorem later_reportStep (description message : String) (passed pictured : Bool)
    (element : Option SearchCriteria) (inputs outputs : Option Object) :
    Obeys Later
      (reportStep description message passed pictured element inputs outputs : Run ω Unit) := by
  refine .bind later_switches fun sw => ?_
  split
  · exact later_emit _
  · exact .bind (later_pictureIf _) fun _ => .bind later_newGuid fun _ => later_sendAfterStash _

theorem later_reportManualTest (name : Option String) (passed : Bool)
    (message : Option String) :
    Obeys Later (reportManualTest name passed message : Run ω Unit) := by
  refine .bind later_noticeTest fun _ => .bind .get fun r => ?_
  dsimp only
  split
  · exact later_emit _
  · split
    · exact .bind (later_emit _) fun _ => later_sendAfterStash _
    · exact later_sendAfterStash _

/-! ## Programs -/

theorem later_setContext (c : StepContext) : Obeys Later (setContext c : Run ω Unit) :=
  later_adjust fun _ => rfl

theorem later_enter (name : String) (change : StepContext → StepContext) :
    Obeys Later (enter name change : Run ω Unit) := later_adjust fun _ => rfl

theorem later_leave (name : String) : Obeys Later (leave name : Run ω Unit) := by
  refine later_adjust fun r => ?_
  split <;> rfl

theorem keepsParts_sameFrom (start : Nat) (env : Surroundings ω) :
    KeepsParts (SameFrom start) env env where
  toKeepsCalls := keepsCalls_sameFrom start env
  setContext c := (later_setContext c).sameFrom start env
  enter name change := (later_enter name change).sameFrom start env
  leave name := (later_leave name).sameFrom start env
  setCurrentTest _ := (later_modifyGet fun _ => rfl).sameFrom start env
  excludeTests _ := (later_modifyGet fun _ => rfl).sameFrom start env
  noticeTest := later_noticeTest.sameFrom start env
  clearStash := later_clearStash.sameFrom start env
  reportTest := later_reportTest.sameFrom start env
  reportCommand command params answer policy :=
    (later_reportCommand command params answer policy).sameFrom start env
  reportStep description message passed pictured element inputs outputs :=
    (later_reportStep description message passed pictured element inputs outputs).sameFrom
      start env
  reportManualTest name passed message :=
    (later_reportManualTest name passed message).sameFrom start env

theorem later_perform (op : Operation α) : Obeys Later (op.perform : Run ω α) :=
  later_of_sameFrom fun start env => (keepsParts_sameFrom start env).perform op

/-- No program turns the clock back. -/
theorem Program.later {m : Run ω α} (h : Program m) : Obeys Later m := by
  induction h with
  | pure => exact .pure _
  | bind _ _ ihm ihf => exact .bind ihm ihf
  | get => exact .get
  | read => exact .read
  | sleep ms => exact later_sleep ms
  | execute command params => exact later_perform (.execute command params)
  | executeInternal => exact later_drive _ _ _
  | submitStep report => exact later_sendAfterStash (.step report)
  | clearStash => exact later_clearStash
  | pause ms => exact later_perform (.pause ms)
  | takePicture purpose => exact later_perform (.takePicture purpose)
  | noticeTest => exact later_noticeTest
  | reportTest => exact later_reportTest
  | setCurrentTest | excludeTests => exact later_modifyGet fun _ => rfl
  | setSwitches | enterPolicy | enterPolling => exact later_adjust fun _ => rfl
  | leave name => exact later_leave name
  | setImplicitWait ms => exact later_perform (.setImplicitWait ms)
  | sleepAround timing ms phase => exact later_perform (.sleepAround timing ms phase)
  | sleepAroundCommand command timing ms phase =>
      exact later_perform (.sleepAroundCommand command timing ms phase)
  | redact command params => exact later_redact command params
  | reportManualStep s => exact later_perform (.reportManualStep s)
  | reportManualTest name passed message => exact later_reportManualTest name passed message
  | runAction a => exact later_perform (.runAction a)
  | executeCodeblock timeout guid entries l =>
      exact later_perform (.executeCodeblock timeout guid entries l)
  | runCodeblock timeout c => exact later_perform (.runCodeblock timeout c)
  | waitUntil timeout interval _ ih =>
      exact .waitUntil later_setContext (fun e => later_emit (.noted e)) later_sleep ih _ _

end Run
end Courier
