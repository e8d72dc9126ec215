import Courier.Runner.Addon
import Courier.Runner.Codeblocks
import Courier.Runner.Execute
import Courier.Runner.Steps
import Courier.Runner.Wait

/-!
# Programs over a runner

Test code calls the operations of a runner in any order, looks at what they return and
at the runner itself, and goes on accordingly. `Program` is all that can be written
this way, the conditions of waits included. What holds of all programs is shown one
operation at a time: a law is a relation between the runner before and the runner
after that can be skipped and chained, and a program obeys it if its operations do.

Most of what happens inside an operation has nothing to do with reports. Driving,
sleeping and taking pictures leave alone what has been put aside and what is reported:
they are still, and this is the strongest law there is, shown here once for all of them.
Reporting a test is not still, but silent as far as commands and steps go. What silence
leads to any other law has only to be shown of the few operations that are not silent.
-/

namespace Courier

namespace Runner

variable {ω : Type}

/-- A relation between a runner before and after. Doing nothing obeys it, and so does
doing one thing that obeys it after another. -/
class Law (R : Runner ω → Runner ω → Prop) : Prop where
  refl : ∀ r, R r r
  trans : ∀ {r s t}, R r s → R s t → R r t

end Runner

namespace Run

variable {ω α β : Type} {R : Runner ω → Runner ω → Prop}

/-- What a run returns that has begun with this runner. -/
def result (m : Run ω α) (env : Surroundings ω) (r : Runner ω) : α := (m env r).1

/-- The runner after a run that has begun with this one. -/
def after (m : Run ω α) (env : Surroundings ω) (r : Runner ω) : Runner ω := (m env r).2

section Results

variable {m : Run ω α} {f : α → Run ω β} (env : Surroundings ω) (r : Runner ω)

theorem result_bind : result (m >>= f) env r = result (f (result m env r)) env (after m env r) :=
  rfl

theorem after_bind : after (m >>= f) env r = after (f (result m env r)) env (after m env r) := rfl

@[simp] theorem result_pure (a : α) : result (Pure.pure a : Run ω α) env r = a := rfl

@[simp] theorem after_pure (a : α) : after (Pure.pure a : Run ω α) env r = r := rfl

@[simp] theorem result_get : result (MonadState.get : Run ω (Runner ω)) env r = r := rfl

@[simp] theorem after_get : after (MonadState.get : Run ω (Runner ω)) env r = r := rfl

@[simp] theorem result_read : result (MonadReader.read : Run ω (Surroundings ω)) env r = env := rfl

@[simp] theorem after_read : after (MonadReader.read : Run ω (Surroundings ω)) env r = r := rfl

@[simp] theorem result_switches : result (switches : Run ω Switches) env r = r.switches := rfl

@[simp] theorem after_switches : after (switches : Run ω Switches) env r = r := rfl

end Results

/-- Whatever the surroundings are, the runner afterwards is as the law has it. -/
def Obeys (R : Runner ω → Runner ω → Prop) (m : Run ω α) : Prop :=
  ∀ env r, R r (after m env r)

namespace Obeys

variable [Runner.Law R]

theorem pure (a : α) : Obeys R (Pure.pure a : Run ω α) := fun _ r => Runner.Law.refl r

theorem get : Obeys R (MonadState.get : Run ω (Runner ω)) := fun _ r => Runner.Law.refl r

theorem read : Obeys R (MonadReader.read : Run ω (Surroundings ω)) :=
  fun _ r => Runner.Law.refl r

theorem bind {m : Run ω α} {f : α → Run ω β} (hm : Obeys R m) (hf : ∀ a, Obeys R (f a)) :
    Obeys R (m >>= f) :=
  fun env r => Runner.Law.trans (hm env r) (hf _ env _)

theorem forM {f : β → Run ω Unit} (hf : ∀ b, Obeys R (f b)) (bs : List β) :
    Obeys R (bs.forM f) := by
  induction bs with
  | nil => exact pure ()
  | cons b bs ih => exact bind (hf b) fun _ => ih

end Obeys

theorem Obeys.mono {R' : Runner ω → Runner ω → Prop} {m : Run ω α} (h : Obeys R m)
    (hRR : ∀ {r r'}, R r r' → R' r r') : Obeys R' m :=
  fun env r => hRR (h env r)

/-! ## Waits -/

section Waits

variable [Runner.Law R]

theorem Obeys.inside (hset : ∀ c, Obeys R (setContext c)) {change : StepContext → StepContext}
    {body : Run ω α} (hb : Obeys R body) : Obeys R (inside change body) :=
  .bind .get fun _ => .bind (hset _) fun _ => .bind hb fun _ => .bind (hset _) fun _ => .pure _

theorem Obeys.pollUntil (hnote : ∀ e, Obeys R (note e : Run ω Unit))
    (hsleep : ∀ ms, Obeys R (sleep ms : Run ω Unit)) {condition : Condition ω α}
    (hc : ∀ n, Obeys R (condition n)) (timeout interval deadline polls : Nat)
    (last : Option Failure) (further : Nat) :
    Obeys R (pollUntil condition timeout interval deadline polls last further) := by
  induction further generalizing polls last with
  | zero =>
      unfold Run.pollUntil
      refine .bind (hc polls) fun answer => ?_
      rcases answer with e | _ | a
      · exact .bind (hnote _) fun _ => .bind (.pure _) fun _ => .bind .get fun _ => .pure _
      · exact .bind (.pure _) fun _ => .bind .get fun _ => .pure _
      · exact .pure _
  | succ further ih =>
      have hrest : ∀ last : Option Failure, Obeys R (do
          let now := (← MonadState.get).clock
          if deadline < now + interval then return ⟨.error (timeUp timeout last), polls + 1⟩
          else
            Run.sleep interval
            Run.pollUntil condition timeout interval deadline (polls + 1) last further) := by
        intro last
        refine .bind .get fun r => ?_
        dsimp only
        split
        · exact .pure _
        · exact .bind (hsleep _) fun _ => ih _ _
      unfold Run.pollUntil
      refine .bind (hc polls) fun answer => ?_
      rcases answer with e | _ | a
      · exact .bind (hnote _) fun _ => .bind (.pure _) hrest
      · exact .bind (.pure _) hrest
      · exact .pure _

/-- A wait obeys what all its polls obey. -/
theorem Obeys.waitUntil (hset : ∀ c, Obeys R (setContext c))
    (hnote : ∀ e, Obeys R (note e : Run ω Unit))
    (hsleep : ∀ ms, Obeys R (sleep ms : Run ω Unit)) {condition : Condition ω α}
    (hc : ∀ n, Obeys R (condition n)) (timeout interval : Nat) :
    Obeys R (waitUntil condition timeout interval) :=
  .inside hset (.bind .get fun _ => .pollUntil hnote hsleep hc _ _ _ _ _ _)

end Waits

/-! ## Programs -/

/-- What can be written with the operations of a runner. The events of a test framework
are among them: each is one of these under another name. -/
inductive Program : {α : Type} → Run ω α → Prop where
  | pure {α : Type} (a : α) : Program (Pure.pure a)
  | bind {α β : Type} {m : Run ω α} {f : α → Run ω β} : Program m → (∀ a, Program (f a)) →
      Program (m >>= f)
  | get : Program MonadState.get
  | read : Program MonadReader.read
  | sleep (ms : Nat) : Program (sleep ms)
  | execute (command : Command) (params : Json) : Program (execute command params)
  | executeInternal (command : Command) (params : Json) :
      Program (executeInternal command params)
  | submitStep (report : StepReport) : Program (submitStep report)
  | clearStash : Program clearStash
  | pause (ms : Nat) : Program (pause ms)
  | takePicture (purpose : Purpose) : Program (takePicture purpose)
  | noticeTest : Program noticeTest
  | reportTest : Program reportTest
  | setCurrentTest (name : String) : Program (setCurrentTest name)
  | setSwitches (change : Switches → Switches) : Program (setSwitches change)
  | excludeTests (names : List String) : Program (excludeTests names)
  | enterPolicy (name : String) (p : StepPolicy) : Program (enterPolicy name p)
  | enterPolling (name : String) : Program (enterPolling name)
  | leave (name : String) : Program (leave name)
  | setImplicitWait (ms : Int) : Program (setImplicitWait ms)
  | sleepAround (timing : SleepTiming) (ms : Nat) (phase : Phase) :
      Program (sleepAround timing ms phase)
  | sleepAroundCommand (command : Command) (timing : SleepTiming) (ms : Nat) (phase : Phase) :
      Program (sleepAroundCommand command timing ms phase)
  | redact (command : Command) (params : Json) : Program (redact command params)
  | reportManualStep (s : ManualStep) : Program (reportManualStep s)
  | reportManualTest (name : Option String) (passed : Bool) (message : Option String) :
      Program (reportManualTest name passed message)
  | runAction (a : AddonAction) : Program (runAction a)
  | executeCodeblock (timeout : Nat) (guid : String) (entries : Object) (l : Option Locator) :
      Program (executeCodeblock timeout guid entries l)
  | runCodeblock (timeout : Nat) (c : Codeblock) : Program (runCodeblock timeout c)
  | waitUntil {α : Type} {condition : Condition ω α} (timeout interval : Nat) :
      (∀ n, Program (condition n)) → Program (waitUntil condition timeout interval)

/-! ## What is still and what is silent -/

end Run

/-- The event concerns no report. -/
def Event.isPlain : Event → Bool
  | .called .. | .slept _ | .ranAction _ | .ranCodeblock .. | .noted _ => true
  | .built .. | .flushed _ | .reported _ | .adjusted .. => false

/-- What a runner remembers for its reports. -/
def Runner.memory {ω : Type} (r : Runner ω) : Runner Unit where
  switches := r.switches
  stash := r.stash
  latestTest := r.latestTest
  currentTest := r.currentTest
  excludedTests := r.excludedTests
  context := r.context
  scopes := r.scopes
  clock := 0
  made := 0
  trace := []
  world := ()

/-- Nothing has happened that concerns any report. -/
structure Runner.Still {ω : Type} (r r' : Runner ω) : Prop where
  memory : r'.memory = r.memory
  trace : ∃ es, r'.trace = r.trace ++ es ∧ ∀ e ∈ es, e.isPlain = true

namespace Run

variable {ω α β : Type}

open Runner (Still)

instance : Runner.Law (@Still ω) where
  refl r := ⟨rfl, [], (List.append_nil _).symm, List.forall_mem_nil _⟩
  trans h h' := by
    obtain ⟨es, he, hp⟩ := h.trace
    obtain ⟨es', he', hp'⟩ := h'.trace
    refine ⟨h'.memory.trans h.memory, es ++ es', ?_, ?_⟩
    · rw [he', he, List.append_assoc]
    · exact List.forall_mem_append.2 ⟨hp, hp'⟩

theorem still_modifyGet {f : Runner ω → α × Runner ω}
    (h : ∀ r, (f r).2.memory = r.memory ∧ (f r).2.trace = r.trace) :
    Obeys Still (modifyGet f : Run ω α) := by
  intro env r
  obtain ⟨hm, ht⟩ := h r
  exact ⟨hm, [], ht.trans (List.append_nil _).symm, List.forall_mem_nil _⟩

theorem still_emit {e : Event} (h : e.isPlain = true) : Obeys Still (emit e : Run ω Unit) :=
  fun _ _ => ⟨rfl, [e], rfl, List.forall_mem_singleton.2 h⟩

theorem still_note (e : Log.Entry) : Obeys Still (note e : Run ω Unit) := still_emit rfl

theorem still_sleep (ms : Nat) : Obeys Still (sleep ms : Run ω Unit) :=
  .bind (still_emit rfl) fun _ => still_modifyGet fun _ => ⟨rfl, rfl⟩

theorem still_drive (purpose : Purpose) (command : Command) (params : Json) :
    Obeys Still (drive purpose command params : Run ω _) := by
  refine .bind (still_emit rfl) fun _ => ?_
  refine .bind .read fun env => ?_
  exact still_modifyGet fun _ => ⟨rfl, rfl⟩

theorem still_ask {e : Event} (h : e.isPlain = true) (call : Surroundings ω → ω → Reply β × ω) :
    Obeys Still (ask e call) := by
  refine .bind (still_emit h) fun _ => .bind .read fun env => ?_
  refine .bind (still_modifyGet fun _ => ⟨rfl, rfl⟩) fun reply => ?_
  exact .bind (.forM still_note _) fun _ => .pure _

theorem still_callAction (a : AddonAction) : Obeys Still (callAction a : Run ω _) :=
  still_ask rfl fun env => env.runAction a

theorem still_callCodeblock (guid : String) (body : Json) :
    Obeys Still (callCodeblock guid body : Run ω _) :=
  still_ask rfl fun env => env.runCodeblock guid body

theorem still_newGuid : Obeys Still (newGuid : Run ω String) := by
  refine .bind .read fun env => ?_
  exact still_modifyGet fun _ => ⟨rfl, rfl⟩

theorem still_policy : Obeys Still (policy : Run ω StepPolicy) :=
  .bind .get fun _ => .pure _

theorem still_switches : Obeys Still (switches : Run ω Switches) :=
  .bind .get fun _ => .pure _

theorem still_takePicture (purpose : Purpose) : Obeys Still (takePicture purpose : Run ω _) := by
  refine .bind .read fun env => ?_
  refine .bind (still_drive _ _ _) fun answer => ?_
  cases answer with
  | ok response =>
      dsimp only
      split
      · exact .bind (still_note _) fun _ => .pure _
      · exact .pure _
  | error e => exact .bind (still_note _) fun _ => .pure _

theorem still_pictureIf (wanted : Bool) : Obeys Still (pictureIf wanted : Run ω _) := by
  cases wanted with
  | true => exact still_takePicture _
  | false => exact .pure _

theorem still_holdsSecret (element : Json) : Obeys Still (holdsSecret element : Run ω _) := by
  refine .bind .read fun env => ?_
  refine .bind (still_drive _ _ _) fun answer => ?_
  cases answer with
  | ok response => exact .pure _
  | error e => exact .bind (still_note _) fun _ => .pure _

theorem still_redact (command : Command) (params : Json) :
    Obeys Still (redact command params : Run ω _) := by
  unfold redact
  split
  · exact .pure _
  · refine .bind (still_holdsSecret _) fun secret => ?_
    cases secret with
    | true => exact .bind (still_note _) fun _ => .pure _
    | false => exact .pure _

theorem still_commandReport (command : Command) (params result : Json)
    (resolution : Resolution) (capture : CaptureRule) :
    Obeys Still (commandReport command params result resolution capture : Run ω _) := by
  have hrest : ∀ params, Obeys Still
      (pictureIf (capture.applies resolution.passed) >>= fun picture =>
        (pure ⟨command, params, result, resolution.passed, some resolution.message, picture⟩ :
          Run ω CommandReport)) :=
    fun params => .bind (still_pictureIf _) fun _ => .pure _
  refine .bind still_switches fun sw => ?_
  dsimp only
  split
  · exact .bind (.pure _) hrest
  · exact .bind (still_redact _ _) hrest

theorem still_setImplicitWait (ms : Int) : Obeys Still (setImplicitWait ms : Run ω _) := by
  unfold setImplicitWait
  split
  · exact .pure _
  · refine .bind (still_note _) fun _ => .bind .read fun env => ?_
    refine .bind (still_drive _ _ _) fun answer => ?_
    cases answer <;> exact .pure _

theorem still_sleepAround (timing : SleepTiming) (ms : Nat) (phase : Phase) :
    Obeys Still (sleepAround timing ms phase : Run ω Unit) := by
  unfold sleepAround
  split
  · exact .bind (still_note _) fun _ => still_sleep _
  · exact .pure _

theorem still_sleepAroundCommand (command : Command) (timing : SleepTiming) (ms : Nat)
    (phase : Phase) : Obeys Still (sleepAroundCommand command timing ms phase : Run ω Unit) := by
  unfold sleepAroundCommand
  split
  · exact still_sleepAround _ _ _
  · exact .pure _

theorem still_takeResults (a : AddonAction) (fields : List ResultField) :
    Obeys Still (takeResults a fields : Run ω _) :=
  .bind (.forM (fun _ => still_note _) _) fun _ => .pure _

theorem still_executeCodeblock (timeout : Nat) (guid : String) (entries : Object)
    (l : Option Locator) : Obeys Still (executeCodeblock timeout guid entries l : Run ω _) := by
  refine .bind (still_callCodeblock _ _) fun reply => ?_
  cases reply with
  | error e => exact .pure _
  | ok answer =>
      dsimp only
      split
      · exact .bind (still_note _) fun _ => .pure _
      · exact .pure _

theorem still_runCodeblock (timeout : Nat) (c : Codeblock) :
    Obeys Still (runCodeblock timeout c : Run ω _) := by
  refine .bind (still_executeCodeblock _ _ _ _) fun reply => ?_
  cases reply <;> exact .pure _

/-! ## After the test has been noticed -/

/-- The run looks at the name of the running test before anything else, and obeys the law from
then on. -/
def Noticing (R : Runner ω → Runner ω → Prop) (m : Run ω α) : Prop :=
  ∃ rest : Run ω α, m = (noticeTest >>= fun _ => rest) ∧ Obeys R rest

section Noticing

variable {R : Runner ω → Runner ω → Prop} [Runner.Law R]

theorem Noticing.obeys {m : Run ω α} (h : Noticing R m) (hn : Obeys R noticeTest) : Obeys R m := by
  obtain ⟨rest, rfl, hrest⟩ := h
  exact .bind hn fun _ => hrest

variable (hstill : ∀ {α : Type} {m : Run ω α}, Obeys Still m → Obeys R m)

include hstill

theorem noticing_execute {command : Command} {params : Json}
    (hreport : ∀ answer policy, Obeys R (reportCommand command params answer policy)) :
    Noticing R (execute command params) := by
  refine ⟨_, rfl, .bind (hstill still_policy) fun policy => ?_⟩
  refine .bind (hstill (still_setImplicitWait _)) fun wait => ?_
  cases wait with
  | error e => exact .pure _
  | ok _ =>
      refine .bind (hstill (still_sleepAroundCommand _ _ _ _)) fun _ => ?_
      refine .bind (hstill (still_drive _ _ _)) fun answer => ?_
      refine .bind (hstill (still_sleepAroundCommand _ _ _ _)) fun _ => ?_
      exact .bind (hreport _ _) fun _ => .pure _

variable (hstep : ∀ description message passed pictured element inputs outputs,
  Obeys R (reportStep description message passed pictured element inputs outputs))

include hstep

theorem noticing_pause (ms : Nat) : Noticing R (pause ms) := by
  refine ⟨_, rfl, .bind (hstill still_policy) fun policy => ?_⟩
  refine .bind (hstill (still_sleepAround _ _ _)) fun _ => ?_
  refine .bind (hstill (still_sleep _)) fun _ => ?_
  exact .bind (hstill (still_sleepAround _ _ _)) fun _ => hstep _ _ _ _ _ _ _

theorem noticing_reportManualStep (s : ManualStep) : Noticing R (reportManualStep s) :=
  ⟨_, rfl, .bind (hstill still_policy) fun _ => hstep _ _ _ _ _ _ _⟩

theorem noticing_runAction (a : AddonAction) : Noticing R (runAction a) := by
  refine ⟨_, rfl, .bind (hstill still_policy) fun policy => ?_⟩
  refine .bind (hstill (still_setImplicitWait _)) fun wait => ?_
  cases wait with
  | error e => exact .pure _
  | ok _ =>
      refine .bind (hstill (still_sleepAround _ _ _)) fun _ => ?_
      refine .bind (hstill (still_callAction _)) fun reply => ?_
      cases reply with
      | error e => exact .pure _
      | ok answer =>
          refine .bind (hstill (still_sleepAround _ _ _)) fun _ => ?_
          refine .bind (hstep _ _ _ _ _ _ _) fun _ => ?_
          split
          · exact .bind (hstill (still_takeResults _ _)) fun _ => .pure _
          · exact .pure _

end Noticing

end Run

/-- The report is of a test. -/
def Report.isTest : Report → Bool
  | .test _ => true
  | _ => false

/-- The event tells nothing about the reports of commands and steps. -/
def Event.isQuiet : Event → Bool
  | .built r _ | .reported r => r.isTest
  | .flushed _ => false
  | _ => true

/-- The event changes what steps and reports go by. -/
def Event.isAdjustment : Event → Bool
  | .adjusted .. => true
  | _ => false

/-- Nothing has happened that concerns the reports of commands and steps. -/
structure Runner.Silent {ω : Type} (r r' : Runner ω) : Prop where
  stash : r'.stash = r.stash
  switches : r'.switches = r.switches
  context : r'.context = r.context
  scopes : r'.scopes = r.scopes
  trace : ∃ es, r'.trace = r.trace ++ es ∧
    ∀ e ∈ es, e.isQuiet = true ∧ e.isAdjustment = false

namespace Run

variable {ω α β : Type}

open Runner (Silent)

instance : Runner.Law (@Silent ω) where
  refl r := ⟨rfl, rfl, rfl, rfl, [], (List.append_nil _).symm, List.forall_mem_nil _⟩
  trans h h' := by
    obtain ⟨es, he, hq⟩ := h.trace
    obtain ⟨es', he', hq'⟩ := h'.trace
    refine ⟨h'.stash.trans h.stash, h'.switches.trans h.switches, h'.context.trans h.context,
      h'.scopes.trans h.scopes, es ++ es', ?_, ?_⟩
    · rw [he', he, List.append_assoc]
    · intro e hm
      rcases List.mem_append.1 hm with hm | hm
      · exact hq e hm
      · exact hq' e hm

theorem silent_of_still {r r' : Runner ω} (h : Runner.Still r r') : Silent r r' := by
  obtain ⟨hm, es, he, hp⟩ := h
  refine ⟨(congrArg Runner.stash hm :), (congrArg Runner.switches hm :),
    (congrArg Runner.context hm :), (congrArg Runner.scopes hm :), es, he, fun e hes => ?_⟩
  have h := hp e hes
  cases e with
  | called | slept | ranAction | ranCodeblock | noted => exact ⟨rfl, rfl⟩
  | built | flushed | reported | adjusted => cases h

/-- What is still is silent. -/
theorem Obeys.silent {m : Run ω α} (h : Obeys Runner.Still m) : Obeys Silent m :=
  h.mono silent_of_still

/-- What changes neither the trace nor what the reports go by is silent. -/
theorem silent_modifyGet {f : Runner ω → α × Runner ω}
    (h : ∀ r, (f r).2.stash = r.stash ∧ (f r).2.switches = r.switches ∧
      (f r).2.context = r.context ∧ (f r).2.scopes = r.scopes ∧ (f r).2.trace = r.trace) :
    Obeys Silent (modifyGet f : Run ω α) := by
  intro env r
  obtain ⟨hst, hsw, hc, hsc, ht⟩ := h r
  exact ⟨hst, hsw, hc, hsc, [], ht.trans (List.append_nil _).symm, List.forall_mem_nil _⟩

theorem silent_emit {e : Event} (hq : e.isQuiet = true) (ha : e.isAdjustment = false) :
    Obeys Silent (emit e : Run ω Unit) := by
  intro env r
  refine ⟨rfl, rfl, rfl, rfl, [e], rfl, fun e' hm => ?_⟩
  rw [List.mem_singleton.1 hm]
  exact ⟨hq, ha⟩

theorem silent_setCurrentTest (name : String) :
    Obeys Silent (setCurrentTest name : Run ω Unit) :=
  silent_modifyGet fun _ => ⟨rfl, rfl, rfl, rfl, rfl⟩

theorem silent_excludeTests (names : List String) :
    Obeys Silent (excludeTests names : Run ω Unit) :=
  silent_modifyGet fun _ => ⟨rfl, rfl, rfl, rfl, rfl⟩

theorem silent_build_test (t : TestReport) : Obeys Silent (build (.test t) : Run ω Unit) :=
  .bind .get fun _ => silent_emit rfl rfl

theorem silent_deliver_test (t : TestReport) : Obeys Silent (deliver (.test t) : Run ω Unit) := by
  refine .bind (silent_emit rfl rfl) fun _ => .bind .read fun env => ?_
  exact silent_modifyGet fun _ => ⟨rfl, rfl, rfl, rfl, rfl⟩

theorem silent_reportTest : Obeys Silent (reportTest : Run ω Unit) := by
  refine .bind .get fun r => ?_
  dsimp only
  split
  · exact .pure _
  · split
    · exact (still_note _).silent
    · split
      · exact (still_note _).silent
      · exact .bind (silent_build_test _) fun _ => silent_deliver_test _

theorem silent_noticeTest : Obeys Silent (noticeTest : Run ω Unit) := by
  have hrest : Obeys Silent (modify fun r => { r with latestTest := r.currentTest } : Run ω Unit) :=
    silent_modifyGet fun _ => ⟨rfl, rfl, rfl, rfl, rfl⟩
  refine .bind .get fun r => ?_
  dsimp only
  split
  · split
    · exact .bind silent_reportTest fun _ => hrest
    · exact hrest
  · exact .pure _

/-! ## What is not silent -/

/-- What a law has to be shown of. Whatever else a program does is silent or made of these. -/
structure Rules (R : Runner ω → Runner ω → Prop) : Prop where
  silent : ∀ {α : Type} {m : Run ω α}, Obeys Silent m → Obeys R m
  adjust : ∀ {change : Runner ω → Runner ω},
    (∀ r, (change r).trace = r.trace ∧ (change r).stash = r.stash) → Obeys R (adjust change)
  clearStash : Obeys R clearStash
  submitStep : ∀ report, Obeys R (submitStep report)
  execute : ∀ command params, Obeys R (execute command params)

namespace Rules

variable {R : Runner ω → Runner ω → Prop} (h : Rules R)

include h

theorem still {m : Run ω α} (hm : Obeys Runner.Still m) : Obeys R m := h.silent hm.silent

theorem setContext (c : StepContext) : Obeys R (setContext c) := h.adjust fun _ => ⟨rfl, rfl⟩

theorem leave (name : String) : Obeys R (leave name) := by
  refine h.adjust fun r => ?_
  split <;> exact ⟨rfl, rfl⟩

variable [Runner.Law R]

theorem reportStep (description message : String) (passed pictured : Bool)
    (element : Option SearchCriteria) (inputs outputs : Option Object) :
    Obeys R (reportStep description message passed pictured element inputs outputs) := by
  refine .bind (h.still still_switches) fun sw => ?_
  split
  · exact h.still (still_note _)
  · refine .bind (h.still (still_pictureIf _)) fun picture => ?_
    exact .bind (h.still still_newGuid) fun guid => h.submitStep _

theorem reportManualTest (name : Option String) (passed : Bool) (message : Option String) :
    Obeys R (reportManualTest name passed message) := by
  have hsend : ∀ t, Obeys R (do
      build (.test t)
      Run.clearStash
      deliver (.test t)) := fun t =>
    .bind (h.silent (silent_build_test t)) fun _ => .bind h.clearStash fun _ =>
      h.silent (silent_deliver_test t)
  refine .bind (h.silent silent_noticeTest) fun _ => .bind .get fun r => ?_
  dsimp only
  split
  · exact h.still (still_note _)
  · split
    · exact .bind (h.still (still_note _)) fun _ => hsend _
    · exact hsend _

/-- What notices the running test is silent until it has noticed it. -/
theorem noticing {m : Run ω α} (hm : Noticing R m) : Obeys R m :=
  hm.obeys (h.silent silent_noticeTest)

end Rules

/-- A program obeys a law that the operations do that are not silent. -/
theorem Program.obeys {R : Runner ω → Runner ω → Prop} [Runner.Law R] (hR : Rules R)
    {m : Run ω α} (h : Program m) : Obeys R m := by
  induction h with
  | pure => exact .pure _
  | bind _ _ ihm ihf => exact .bind ihm ihf
  | get => exact .get
  | read => exact .read
  | sleep => exact hR.still (still_sleep _)
  | execute => exact hR.execute _ _
  | executeInternal => exact hR.still (still_drive _ _ _)
  | submitStep => exact hR.submitStep _
  | clearStash => exact hR.clearStash
  | pause => exact hR.noticing (noticing_pause hR.still hR.reportStep _)
  | takePicture => exact hR.still (still_takePicture _)
  | noticeTest => exact hR.silent silent_noticeTest
  | reportTest => exact hR.silent silent_reportTest
  | setCurrentTest => exact hR.silent (silent_setCurrentTest _)
  | excludeTests => exact hR.silent (silent_excludeTests _)
  | setSwitches | enterPolicy | enterPolling => exact hR.adjust fun _ => ⟨rfl, rfl⟩
  | leave => exact hR.leave _
  | setImplicitWait => exact hR.still (still_setImplicitWait _)
  | sleepAround => exact hR.still (still_sleepAround _ _ _)
  | sleepAroundCommand => exact hR.still (still_sleepAroundCommand _ _ _ _)
  | redact => exact hR.still (still_redact _ _)
  | reportManualStep => exact hR.noticing (noticing_reportManualStep hR.still hR.reportStep _)
  | reportManualTest => exact hR.reportManualTest _ _ _
  | runAction => exact hR.noticing (noticing_runAction hR.still hR.reportStep _)
  | executeCodeblock => exact hR.still (still_executeCodeblock _ _ _ _)
  | runCodeblock => exact hR.still (still_runCodeblock _ _)
  | waitUntil _ _ _ ih =>
      exact .waitUntil hR.setContext (fun _ => hR.still (still_note _))
        (fun _ => hR.still (still_sleep _)) ih _ _

end Run
end Courier
