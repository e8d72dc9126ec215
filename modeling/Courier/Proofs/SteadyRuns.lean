import Courier.Proofs.Airtight
import Courier.Proofs.PairedRuns

/-!
# Steady runs

What steps and reports go by is changed by a handful of operations and by nothing else. All
other operations are steady: switches, context and open scopes are afterwards what they were,
and no event says otherwise in between. A piece is a steady operation or a change of switches,
and goes on in one context from its first event to its last.

The second half is about two runs that are to be the same run as long as the runner is as it
should be. It is a statement with a condition for the beginning and one for the end, so that
runs can be put together if the end of the one is the beginning of the other. Conditions that
last while a run stays in one context carry over to waits.

A run that is watched is such a run. Its alarm looks at the context and does whatever it likes
if that is not as it should be; that the run goes the same way with every alarm is to say that
none is ever heard.
-/

namespace Courier

/-- Nothing has happened that changes what steps and reports go by. -/
structure Runner.Steady {ω : Type} (r r' : Runner ω) : Prop where
  switches : r'.switches = r.switches
  context : r'.context = r.context
  scopes : r'.scopes = r.scopes
  trace : ∃ es, r'.trace = r.trace ++ es ∧ ∀ e ∈ es, e.isAdjustment = false

namespace Run

variable {ω α β : Type}

open Runner (Steady)

instance : Runner.Law (@Steady ω) where
  refl r := ⟨rfl, rfl, rfl, [], (List.append_nil _).symm, List.forall_mem_nil _⟩
  trans h h' := by
    obtain ⟨es, he, ha⟩ := h.trace
    obtain ⟨es', he', ha'⟩ := h'.trace
    refine ⟨h'.switches.trans h.switches, h'.context.trans h.context, h'.scopes.trans h.scopes,
      es ++ es', ?_, List.forall_mem_append.2 ⟨ha, ha'⟩⟩
    rw [he', he, List.append_assoc]

theorem steady_of_silent {r r' : Runner ω} (h : Runner.Silent r r') : Steady r r' := by
  obtain ⟨es, he, hq⟩ := h.trace
  exact ⟨h.switches, h.context, h.scopes, es, he, fun e hm => (hq e hm).2⟩

theorem Obeys.steady {m : Run ω α} (h : Obeys Runner.Still m) : Obeys Steady m :=
  h.silent.mono steady_of_silent

/-! ## What is steady -/

theorem steady_emit {e : Event} (h : e.isAdjustment = false) :
    Obeys Steady (emit e : Run ω Unit) :=
  fun _ _ => ⟨rfl, rfl, rfl, [e], rfl, List.forall_mem_singleton.2 h⟩

theorem steady_modifyGet {f : Runner ω → α × Runner ω}
    (h : ∀ r, (f r).2.switches = r.switches ∧ (f r).2.context = r.context ∧
      (f r).2.scopes = r.scopes ∧ (f r).2.trace = r.trace) :
    Obeys Steady (modifyGet f : Run ω α) := by
  intro env r
  obtain ⟨hsw, hc, hsc, ht⟩ := h r
  exact ⟨hsw, hc, hsc, [], ht.trans (List.append_nil _).symm, List.forall_mem_nil _⟩

theorem steady_build (x : Report) : Obeys Steady (build x : Run ω Unit) :=
  .bind .get fun _ => steady_emit rfl

theorem steady_deliver (x : Report) : Obeys Steady (deliver x : Run ω Unit) :=
  .bind (steady_emit rfl) fun _ => .bind .read fun _ =>
    steady_modifyGet fun _ => ⟨rfl, rfl, rfl, rfl⟩

theorem steady_takeStash : Obeys Steady (takeStash : Run ω (Option CommandReport)) :=
  .bind still_switches.steady fun _ => .bind (steady_emit rfl) fun _ =>
    steady_modifyGet fun _ => ⟨rfl, rfl, rfl, rfl⟩

theorem steady_clearStash : Obeys Steady (clearStash : Run ω Unit) := by
  refine .bind steady_takeStash fun stash => ?_
  cases stash with
  | none => exact .pure _
  | some report =>
      refine .bind still_switches.steady fun sw => ?_
      split
      · exact steady_deliver _
      · exact .pure _

theorem steady_sendAfterStash (x : Report) : Obeys Steady (sendAfterStash x : Run ω Unit) :=
  .bind (steady_build x) fun _ => .bind steady_clearStash fun _ => steady_deliver x

theorem steady_submitCommand (report : CommandReport) :
    Obeys Steady (submitCommand report : Run ω Unit) := by
  refine .bind (steady_build _) fun _ => .bind .get fun r => ?_
  dsimp only
  split
  · exact steady_modifyGet fun _ => ⟨rfl, rfl, rfl, rfl⟩
  · refine .bind steady_takeStash fun stash => ?_
    cases stash with
    | none => exact steady_deliver _
    | some earlier => exact .bind (steady_deliver _) fun _ => steady_deliver _

theorem steady_reportCommand (command : Command) (params : Json)
    (answer : Except Failure Response) (policy : StepPolicy) :
    Obeys Steady (reportCommand command params answer policy : Run ω Unit) := by
  unfold reportCommand
  split
  · refine .bind steady_clearStash fun _ => .bind still_switches.steady fun sw => ?_
    split
    · exact silent_reportTest.mono steady_of_silent
    · exact .pure _
  · generalize outcome answer = told
    obtain ⟨told, passed⟩ := told
    refine .bind still_switches.steady fun sw => ?_
    split
    · exact .bind (still_commandReport _ _ _ _ _).steady fun _ => steady_submitCommand _
    · exact (still_note _).steady

theorem steady_reportStep (description message : String) (passed pictured : Bool)
    (element : Option SearchCriteria) (inputs outputs : Option Object) :
    Obeys Steady
      (reportStep description message passed pictured element inputs outputs : Run ω Unit) := by
  refine .bind still_switches.steady fun sw => ?_
  split
  · exact (still_note _).steady
  · exact .bind (still_pictureIf _).steady fun _ =>
      .bind still_newGuid.steady fun _ => steady_sendAfterStash _

theorem steady_reportManualTest (name : Option String) (passed : Bool)
    (message : Option String) :
    Obeys Steady (reportManualTest name passed message : Run ω Unit) := by
  intro env r
  obtain ⟨r', hs, hafter⟩ := reportManualTest_spec name passed message env r
  have hnoticed : Steady r (after noticeTest env r) := steady_of_silent (silent_noticeTest env r)
  have hr' : Steady r r' := Runner.Law.trans hnoticed (steady_of_silent (silent_of_still hs))
  rw [hafter]
  split
  · exact hr'
  · exact Runner.Law.trans hr' (steady_sendAfterStash _ env r')

end Run

/-- The operation opens or closes a scope, or changes the context in another way. -/
def Operation.isScoping {α : Type} : Operation α → Bool
  | setContext _ | enterPolicy .. | enterPolling _ | leave _ => true
  | _ => false

open Run Runner in
theorem Operation.steady {ω α : Type} (op : Operation α) (h : op.isScoping = false) :
    Obeys Steady (op.perform : Run ω α) := by
  have hnotice : Obeys (@Steady ω) Run.noticeTest := silent_noticeTest.mono steady_of_silent
  have hstep := @steady_reportStep ω
  cases op with
  | note => exact (still_note _).steady
  | sleep => exact (still_sleep _).steady
  | setContext | enterPolicy | enterPolling | leave => cases h
  | execute =>
      exact (noticing_execute Obeys.steady (steady_reportCommand _ _)).obeys hnotice
  | executeInternal => exact (still_drive _ _ _).steady
  | clearStash => exact steady_clearStash
  | pause => exact (noticing_pause Obeys.steady hstep _).obeys hnotice
  | takePicture => exact (still_takePicture _).steady
  | noticeTest => exact hnotice
  | reportTest => exact silent_reportTest.mono steady_of_silent
  | setCurrentTest => exact (silent_setCurrentTest _).mono steady_of_silent
  | excludeTests => exact (silent_excludeTests _).mono steady_of_silent
  | setImplicitWait => exact (still_setImplicitWait _).steady
  | sleepAround => exact (still_sleepAround _ _ _).steady
  | sleepAroundCommand => exact (still_sleepAroundCommand _ _ _ _).steady
  | redact => exact (still_redact _ _).steady
  | reportManualStep => exact (noticing_reportManualStep Obeys.steady hstep _).obeys hnotice
  | reportManualTest => exact steady_reportManualTest _ _ _
  | runAction => exact (noticing_runAction Obeys.steady hstep _).obeys hnotice
  | executeCodeblock => exact (still_executeCodeblock _ _ _ _).steady
  | runCodeblock => exact (still_runCodeblock _ _).steady

/-! ## Pieces -/

/-- The run has gone on in one context from its first event to its last. -/
structure Runner.Stays {ω : Type} (r r' : Runner ω) : Prop where
  context : r'.context = r.context
  scopes : r'.scopes = r.scopes
  moments : Within (fun g _ => g.context = r.context) r r'

theorem Runner.Steady.stays {ω : Type} {r r' : Runner ω} (h : Steady r r') : Stays r r' where
  context := h.context
  scopes := h.scopes
  moments := by
    obtain ⟨es, he, ha⟩ := h.trace
    refine within_of_steady he ?_ fun e hm => ⟨ha e hm, rfl⟩
    rw [regime, regime, h.switches, h.context]

/-- What test code does in one go, other than to open or close a scope or to wait. -/
inductive Piece (ω : Type) : Type → Type 1 where
  | pure {α : Type} (a : α) : Piece ω α
  | get : Piece ω (Runner ω)
  | read : Piece ω (Surroundings ω)
  | perform {α : Type} (op : Operation α) (h : op.isScoping = false) : Piece ω α
  | setSwitches (change : Switches → Switches) : Piece ω Unit
  | submitStep (report : StepReport) : Piece ω Unit

namespace Piece

variable {ω α : Type}

/-- Runs a piece. -/
def run : Piece ω α → Run ω α
  | pure a => Pure.pure a
  | get => MonadState.get
  | read => MonadReader.read
  | perform op _ => op.perform
  | setSwitches change => Run.setSwitches change
  | submitStep report => Run.submitStep report

theorem stays (a : Piece ω α) : Run.Obeys Runner.Stays a.run := by
  intro env r
  have hrefl : Runner.Stays r r := (Runner.Law.refl r : Runner.Steady r r).stays
  cases a with
  | pure | get | read => exact hrefl
  | perform op h => exact (op.steady h env r).stays
  | setSwitches change =>
      exact ⟨rfl, rfl, [.adjusted (change r.switches) r.context], rfl, ⟨rfl, trivial⟩, rfl⟩
  | submitStep report => exact (Run.steady_sendAfterStash (.step report) env r).stays

end Piece

/-! ## Scopes -/

/-- What a scope puts in force. -/
inductive ScopeKind where
  | policy (p : StepPolicy)
  | polling

namespace ScopeKind

/-- What becomes of the context when a scope of this kind is entered. -/
def change : ScopeKind → StepContext → StepContext
  | policy p, c => c.withPolicy p
  | polling, c => c.whilePolling

/-- Enters a scope of this kind. -/
def enter {ω : Type} (name : String) : ScopeKind → Run ω Unit
  | policy p => Run.enterPolicy name p
  | polling => Run.enterPolling name

theorem enter_eq {ω : Type} (name : String) (kind : ScopeKind) :
    (kind.enter name : Run ω Unit) = Run.enter name kind.change := by
  cases kind <;> rfl

end ScopeKind

namespace Run

variable {ω : Type} {name : String}

theorem after_adjust (change : Runner ω → Runner ω) (env : Surroundings ω) (r : Runner ω) :
    after (adjust change) env r = { change r with
      trace := (change r).trace ++ [.adjusted (change r).switches (change r).context] } := rfl

theorem after_leave_some {r : Runner ω} {s : Scope} (env : Surroundings ω)
    (h : r.scopes.find? (fun s => s.name == name) = some s) :
    after (leave name) env r = { r with
      context := s.outer
      scopes := r.scopes.eraseP fun s => s.name == name
      trace := r.trace ++ [.adjusted r.switches s.outer] } := by
  rw [leave, after_adjust, h]

theorem after_leave_none {r : Runner ω} (env : Surroundings ω)
    (h : r.scopes.find? (fun s => s.name == name) = none) :
    after (leave name) env r = { r with trace := r.trace ++ [.adjusted r.switches r.context] } := by
  rw [leave, after_adjust, h]

end Run

/-! ## Runs that agree -/

namespace Run

variable {ω α β : Type} {I J K : Runner ω → Prop}

/-- From a runner as the first condition has it the second run is the first, and it leads to a
runner as the second condition has it. -/
def Agree (I J : Runner ω → Prop) (m m' : Run ω α) : Prop :=
  ∀ env r, I r → m' env r = m env r ∧ J (after m env r)

/-- The condition holds as long as the run stays in one context. -/
def Lasts (I : Runner ω → Prop) : Prop := ∀ r r', Runner.Stays r r' → I r → I r'

namespace Agree

theorem pure (a : α) : Agree I I (Pure.pure a) (Pure.pure a) := fun _ _ h => ⟨rfl, h⟩

theorem bind {m m' : Run ω α} {f f' : α → Run ω β} (hm : Agree I J m m')
    (hf : ∀ a, Agree J K (f a) (f' a)) : Agree I K (m >>= f) (m' >>= f') := by
  intro env r h
  obtain ⟨he, hJ⟩ := hm env r h
  obtain ⟨he', hK⟩ := hf (result m env r) env (after m env r) hJ
  refine ⟨?_, hK⟩
  show f' (m' env r).1 env (m' env r).2 = _
  rw [he]
  exact he'

theorem get_bind {f f' : Runner ω → Run ω α} (hf : ∀ r, I r → Agree I J (f r) (f' r)) :
    Agree I J (MonadState.get >>= f) (MonadState.get >>= f') :=
  fun env r h => hf r h env r h

theorem of_after {m : Run ω α} (h : ∀ env r, I r → J (after m env r)) : Agree I J m m :=
  fun env r hI => ⟨rfl, h env r hI⟩

theorem of_stays (hI : Lasts I) {m : Run ω α} (h : Obeys Runner.Stays m) : Agree I I m m :=
  of_after fun env r hr => hI _ _ (h env r) hr

theorem of_still (hI : Lasts I) {m : Run ω α} (h : Obeys Runner.Still m) : Agree I I m m :=
  of_stays hI (h.steady.mono Runner.Steady.stays)

/-- What agrees on one condition throughout is a pair of runs that keeps runners the same. -/
theorem iff_keeps {m m' : Run ω α} :
    Agree I I m m' ↔ ∀ env, Keeps (fun r r' => r = r' ∧ I r) env env m m' := by
  constructor
  · rintro h env r _ ⟨rfl, hI⟩
    obtain ⟨he, hJ⟩ := h env r hI
    exact ⟨congrArg Prod.fst he.symm, congrArg Prod.snd he.symm, hJ⟩
  · intro h env r hI
    obtain ⟨hr, ha, hJ⟩ := h env r r ⟨rfl, hI⟩
    exact ⟨Prod.ext hr.symm ha.symm, hJ⟩

theorem keepsCalls (hI : Lasts I) (env : Surroundings ω) :
    KeepsCalls (fun r r' => r = r' ∧ I r) env env where
  session := rfl
  context h := congrArg Runner.context h.1
  clock h := congrArg Runner.clock h.1
  note e := iff_keeps.1 (of_still hI (still_note e)) env
  sleep ms := iff_keeps.1 (of_still hI (still_sleep ms)) env
  drive purpose command params :=
    iff_keeps.1 (of_still hI (still_drive purpose command params)) env
  callAction a := iff_keeps.1 (of_still hI (still_callAction a)) env
  callCodeblock guid body := iff_keeps.1 (of_still hI (still_callCodeblock guid body)) env

/-- Polling agrees if the conditions do at every poll. -/
theorem pollUntil (hI : Lasts I) {c c' : Condition ω α} (hc : ∀ n, Agree I I (c n) (c' n))
    (timeout interval deadline polls : Nat) (last : Option Failure) (further : Nat) :
    Agree I I (pollUntil c timeout interval deadline polls last further)
      (pollUntil c' timeout interval deadline polls last further) :=
  iff_keeps.2 fun env =>
    (keepsCalls hI env).pollUntil (fun n => iff_keeps.1 (hc n) env) _ _ _ _ _ _

/-- A wait agrees with another if it does in the context of its rounds. -/
theorem waitUntil (hJ : Lasts J) {c c' : Condition ω α}
    (hin : ∀ r, I r → Agree I J (setContext r.context.whilePolling)
      (setContext r.context.whilePolling))
    (hc : ∀ n, Agree J J (c n) (c' n))
    (hout : ∀ r, I r → Agree J K (setContext r.context) (setContext r.context))
    (timeout interval : Nat) :
    Agree I K (waitUntil c timeout interval) (waitUntil c' timeout interval) :=
  .get_bind fun r hr => .bind (hin r hr) fun _ =>
    .bind (.get_bind fun _ _ => pollUntil hJ hc _ _ _ _ _ _) fun _ =>
      .bind (hout r hr) fun _ => .pure _

end Agree

/-! ## Alarms -/

/-- Sounds the alarm if the context is not as it should be. -/
def check (alarm : Run ω Unit) (P : StepContext → Prop) [DecidablePred P] : Run ω Unit := do
  if ¬ P (← MonadState.get).context then alarm

/-- The run with a check before and after it. -/
def guarded (alarm : Run ω Unit) (P : StepContext → Prop) [DecidablePred P] (m : Run ω α) :
    Run ω α := do
  check alarm P
  let a ← m
  check alarm P
  return a

variable {P : StepContext → Prop} [DecidablePred P] (alarm : Run ω Unit)

/-- Where the context is as it should be, a check is nothing. -/
theorem agree_check (hI : ∀ r, I r → P r.context) : Agree I I (pure ()) (check alarm P) := by
  intro env r hr
  refine ⟨?_, hr⟩
  show (if ¬ P r.context then alarm else pure ()) env r = _
  rw [if_neg (not_not_intro (hI r hr))]

theorem agree_guarded {m m' : Run ω α} (hI : ∀ r, I r → P r.context)
    (hJ : ∀ r, J r → P r.context) (h : Agree I J m m') : Agree I J m (guarded alarm P m') := by
  show Agree I J (pure () >>= fun _ => m >>= fun a => pure () >>= fun _ => pure a) _
  exact .bind (agree_check alarm hI) fun _ => .bind h fun a =>
    .bind (agree_check alarm hJ) fun _ => .pure a

end Run
end Courier
