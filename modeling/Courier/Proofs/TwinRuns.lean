import Courier.Proofs.Masking
import Courier.Proofs.PairedRuns

/-!
# Twin runs

Two runners go through the same operations in surroundings that answer alike. The
driver of either answers by the name of a command alone, so that it makes no
difference to a run which parameters a command has; the Agents answer alike as long
as they have been told the same. The identifiers of steps may differ throughout.

What the two runners have in common is everything they remember and the face of
every event: a face does not show the parameters of a call to the driver, nor the
identifier of a step. Operations that are called with the same arguments keep this,
and what they return is the same. This is shown here of what operations are made of;
where a report is put together, what is shown of the parameters has to be the same.
-/

namespace Courier

/-- The report without the identifier of a step. -/
def Report.unmarked : Report → Report
  | .step s => .step { s with guid := "" }
  | x => x

/-- What the event shows to both runs. -/
def Event.face : Event → Event
  | .called purpose command _ => .called purpose command .null
  | .built x polled => .built x.unmarked polled
  | .reported x => .reported x.unmarked
  | e => e

/-- The runner that remembers this, with a trace and a world. -/
def Runner.living {ω : Type} (v : Runner Unit) (trace : List Event) (world : ω) : Runner ω where
  switches := v.switches
  stash := v.stash
  latestTest := v.latestTest
  currentTest := v.currentTest
  excludedTests := v.excludedTests
  context := v.context
  scopes := v.scopes
  clock := v.clock
  made := v.made
  trace
  world

/-- Two surroundings that answer alike: the drivers by the name of a command alone, the
Agents as long as their worlds are the same for all that reports and calls can tell. -/
structure Twinning (ω₁ ω₂ : Type) where
  first : Surroundings ω₁
  second : Surroundings ω₂
  respond : String → Except Failure Response
  Same : ω₁ → ω₂ → Prop
  session : first.session = second.session
  drive_first : ∀ c p w, (first.drive c p w).1 = respond c.name
  drive_second : ∀ c p w, (second.drive c p w).1 = respond c.name
  drive_same : ∀ {w₁ w₂} c p₁ p₂, Same w₁ w₂ →
    Same (first.drive c p₁ w₁).2 (second.drive c p₂ w₂).2
  report_same : ∀ {w₁ w₂} {x₁ x₂ : Report}, x₁.unmarked = x₂.unmarked → Same w₁ w₂ →
    Same (first.report x₁ w₁) (second.report x₂ w₂)
  runAction_same : ∀ {w₁ w₂} a, Same w₁ w₂ →
    (first.runAction a w₁).1 = (second.runAction a w₂).1 ∧
      Same (first.runAction a w₁).2 (second.runAction a w₂).2
  runCodeblock_same : ∀ {w₁ w₂} guid body, Same w₁ w₂ →
    (first.runCodeblock guid body w₁).1 = (second.runCodeblock guid body w₂).1 ∧
      Same (first.runCodeblock guid body w₁).2 (second.runCodeblock guid body w₂).2

namespace Twinning

variable {ω₁ ω₂ α β : Type} (T : Twinning ω₁ ω₂)

/-- Two runners that remember the same, and have lived through events with the same faces. -/
inductive Alike : Runner ω₁ → Runner ω₂ → Prop where
  | mk (v : Runner Unit) {t₁ t₂ : List Event} {w₁ : ω₁} {w₂ : ω₂} :
      t₁.map Event.face = t₂.map Event.face → T.Same w₁ w₂ →
      Alike (v.living t₁ w₁) (v.living t₂ w₂)

/-- While the switches are these, the two runs return the same and leave alike what was
alike, and they leave the switches as they are. -/
def Matches (s : Switches) (m₁ : Run ω₁ α) (m₂ : Run ω₂ α) : Prop :=
  ∀ r₁ r₂, T.Alike r₁ r₂ → r₁.switches = s →
    Run.result m₁ T.first r₁ = Run.result m₂ T.second r₂ ∧
      T.Alike (Run.after m₁ T.first r₁) (Run.after m₂ T.second r₂) ∧
      (Run.after m₁ T.first r₁).switches = s

variable {T} {s : Switches} {r₁ : Runner ω₁} {r₂ : Runner ω₂}

open Run

theorem Alike.context (ha : T.Alike r₁ r₂) : r₁.context = r₂.context := by
  cases ha
  rfl

theorem Alike.clock (ha : T.Alike r₁ r₂) : r₁.clock = r₂.clock := by
  cases ha
  rfl

variable (T s) in
/-- The two runners are alike, and the switches are these. -/
def AlikeAt (r₁ : Runner ω₁) (r₂ : Runner ω₂) : Prop := T.Alike r₁ r₂ ∧ r₁.switches = s

variable {m₁ : Run ω₁ α} {m₂ : Run ω₂ α}

theorem Matches.keeps (h : T.Matches s m₁ m₂) : Keeps (T.AlikeAt s) T.first T.second m₁ m₂ :=
  fun r₁ r₂ ha => h r₁ r₂ ha.1 ha.2

theorem Matches.of_keeps (h : Keeps (T.AlikeAt s) T.first T.second m₁ m₂) : T.Matches s m₁ m₂ :=
  fun r₁ r₂ ha hs => h r₁ r₂ ⟨ha, hs⟩

namespace Matches

theorem pure (a : α) : T.Matches s (Pure.pure a) (Pure.pure a) := .of_keeps (.pure a)

theorem bind {m₁ : Run ω₁ α} {m₂ : Run ω₂ α} {f₁ : α → Run ω₁ β} {f₂ : α → Run ω₂ β}
    (hm : T.Matches s m₁ m₂) (hf : ∀ a, T.Matches s (f₁ a) (f₂ a)) :
    T.Matches s (m₁ >>= f₁) (m₂ >>= f₂) :=
  .of_keeps (.bind hm.keeps fun a => (hf a).keeps)

/-- What is remembered can be looked at. -/
theorem get_bind {f₁ : Runner ω₁ → Run ω₁ α} {f₂ : Runner ω₂ → Run ω₂ α}
    (hf : ∀ (v : Runner Unit) t₁ t₂ w₁ w₂, v.switches = s →
      T.Matches s (f₁ (v.living t₁ w₁)) (f₂ (v.living t₂ w₂))) :
    T.Matches s (MonadState.get >>= f₁) (MonadState.get >>= f₂) := by
  rintro _ _ ⟨v, ht, hw⟩ hs
  exact hf v _ _ _ _ hs _ _ (.mk v ht hw) hs

theorem read_bind {f₁ : Surroundings ω₁ → Run ω₁ α} {f₂ : Surroundings ω₂ → Run ω₂ α}
    (hf : T.Matches s (f₁ T.first) (f₂ T.second)) :
    T.Matches s (MonadReader.read >>= f₁) (MonadReader.read >>= f₂) := hf

theorem switches_bind {f₁ : Switches → Run ω₁ α} {f₂ : Switches → Run ω₂ α}
    (hf : T.Matches s (f₁ s) (f₂ s)) : T.Matches s (switches >>= f₁) (switches >>= f₂) := by
  rintro _ _ ⟨v, ht, hw⟩ rfl
  exact hf _ _ (.mk v ht hw) rfl

/-- What is remembered can be changed, by what is remembered. -/
theorem modifyGet {f₁ : Runner ω₁ → α × Runner ω₁} {f₂ : Runner ω₂ → α × Runner ω₂}
    (g : Runner Unit → α × Runner Unit) (hg : ∀ v, (g v).2.switches = v.switches)
    (h₁ : ∀ v t w, f₁ (v.living t w) = ((g v).1, (g v).2.living t w))
    (h₂ : ∀ v t w, f₂ (v.living t w) = ((g v).1, (g v).2.living t w)) :
    T.Matches s (modifyGet f₁) (modifyGet f₂) := by
  rintro _ _ ⟨v, ht, hw⟩ hs
  show (f₁ _).1 = (f₂ _).1 ∧ T.Alike (f₁ _).2 (f₂ _).2 ∧ (f₁ _).2.switches = s
  rw [h₁, h₂]
  exact ⟨rfl, .mk _ ht hw, (hg v).trans hs⟩

theorem ite {c : Prop} [Decidable c] {m₁ n₁ : Run ω₁ α} {m₂ n₂ : Run ω₂ α}
    (hm : T.Matches s m₁ m₂) (hn : T.Matches s n₁ n₂) :
    T.Matches s (if c then m₁ else n₁) (if c then m₂ else n₂) :=
  .of_keeps (.ite hm.keeps hn.keeps)

end Matches

/-! ## What operations are made of -/

theorem matches_emit {e₁ e₂ : Event} (he : e₁.face = e₂.face) :
    T.Matches s (emit e₁) (emit e₂) := by
  rintro _ _ ⟨v, ht, hw⟩ hs
  refine ⟨rfl, .mk v ?_ hw, hs⟩
  show List.map Event.face (_ ++ [e₁]) = List.map Event.face (_ ++ [e₂])
  rw [List.map_append, List.map_append, List.map_singleton, List.map_singleton, he]
  exact congrArg (· ++ [e₂.face]) ht

theorem matches_note (e : Log.Entry) : T.Matches s (note e) (note e) := matches_emit rfl

theorem matches_sleep (ms : Nat) : T.Matches s (sleep ms) (sleep ms) :=
  .bind (matches_emit rfl) fun _ =>
    .modifyGet (fun v => ((), { v with clock := v.clock + timer ms }))
      (fun _ => rfl) (fun _ _ _ => rfl) (fun _ _ _ => rfl)

/-- The parameters make no difference to what the driver answers. -/
theorem matches_drive (purpose : Purpose) (command : Command) (p₁ p₂ : Json) :
    T.Matches s (drive purpose command p₁) (drive purpose command p₂) := by
  refine .bind (matches_emit rfl) fun _ => .read_bind ?_
  rintro _ _ ⟨v, ht, hw⟩ hs
  exact ⟨(T.drive_first _ _ _).trans (T.drive_second _ _ _).symm,
    .mk v ht (T.drive_same command p₁ p₂ hw), hs⟩

theorem matches_build {x₁ x₂ : Report} (hx : x₁.unmarked = x₂.unmarked) :
    T.Matches s (build x₁) (build x₂) :=
  .get_bind fun v _ _ _ _ _ => matches_emit (congrArg (Event.built · v.context.polling) hx)

theorem matches_deliver {x₁ x₂ : Report} (hx : x₁.unmarked = x₂.unmarked) :
    T.Matches s (deliver x₁) (deliver x₂) := by
  have he : (Event.reported x₁).face = (Event.reported x₂).face := congrArg Event.reported hx
  refine .bind (matches_emit he) fun _ => .read_bind ?_
  rintro _ _ ⟨v, ht, hw⟩ hs
  exact ⟨rfl, .mk v ht (T.report_same hx hw), hs⟩

theorem AlikeAt.same (h : T.AlikeAt s r₁ r₂) : T.Same r₁.world r₂.world := by
  obtain ⟨⟨v, -, hw⟩, -⟩ := h
  exact hw

theorem AlikeAt.world {w₁ : ω₁} {w₂ : ω₂} (h : T.AlikeAt s r₁ r₂) (hw : T.Same w₁ w₂) :
    T.AlikeAt s { r₁ with world := w₁ } { r₂ with world := w₂ } := by
  obtain ⟨⟨v, ht, -⟩, hs⟩ := h
  exact ⟨.mk v ht hw, hs⟩

/-- The identifiers may differ. -/
theorem Matches.newGuid_bind {f₁ : String → Run ω₁ α} {f₂ : String → Run ω₂ α}
    (hf : ∀ guid₁ guid₂, T.Matches s (f₁ guid₁) (f₂ guid₂)) :
    T.Matches s (newGuid >>= f₁) (newGuid >>= f₂) := by
  rintro _ _ ⟨v, ht, hw⟩ hs
  exact hf _ _ _ _ (.mk { v with made := v.made + 1 } ht hw) hs

theorem keepsCalls : KeepsCalls (T.AlikeAt s) T.first T.second where
  session := T.session
  context ha := ha.1.context
  clock ha := ha.1.clock
  note e := (matches_note e).keeps
  sleep ms := (matches_sleep ms).keeps
  drive purpose command params := (matches_drive purpose command params params).keeps
  callAction a := .ask (matches_emit rfl).keeps (fun e => (matches_note e).keeps) fun _ _ h =>
    (T.runAction_same a h.same).imp_right h.world
  callCodeblock guid body := .ask (matches_emit rfl).keeps (fun e => (matches_note e).keeps)
    fun _ _ h => (T.runCodeblock_same guid body h.same).imp_right h.world

/-! ## Reports -/

theorem matches_putAside (report : CommandReport) :
    T.Matches s (putAside report) (putAside report) :=
  .modifyGet (fun v => ((), { v with stash := some report })) (fun _ => rfl) (fun _ _ _ => rfl)
    (fun _ _ _ => rfl)

theorem matches_takeStash : T.Matches s takeStash takeStash :=
  .switches_bind <| .bind (matches_emit rfl) fun _ =>
    .modifyGet (fun v => (v.stash, { v with stash := none })) (fun _ => rfl) (fun _ _ _ => rfl)
      (fun _ _ _ => rfl)

theorem matches_clearStash : T.Matches s clearStash clearStash := by
  refine .bind matches_takeStash fun stash => ?_
  cases stash with
  | none => exact .pure _
  | some report => exact .switches_bind (.ite (matches_deliver rfl) (.pure _))

theorem matches_submitStep {x₁ x₂ : StepReport}
    (hx : (Report.step x₁).unmarked = (Report.step x₂).unmarked) :
    T.Matches s (submitStep x₁) (submitStep x₂) :=
  .bind (matches_build hx) fun _ => .bind matches_clearStash fun _ => matches_deliver hx

theorem matches_submitCommand (report : CommandReport) :
    T.Matches s (submitCommand report) (submitCommand report) := by
  refine .bind (matches_build rfl) fun _ => .get_bind fun v _ _ _ _ _ => ?_
  refine .ite (matches_putAside _) (.bind matches_takeStash fun stash => ?_)
  cases stash with
  | none => exact matches_deliver rfl
  | some earlier => exact .bind (matches_deliver rfl) fun _ => matches_deliver rfl

theorem matches_reportTest : T.Matches s reportTest reportTest := by
  refine .get_bind fun v _ _ _ _ _ => .ite (.pure _) (.ite (matches_note _) ?_)
  refine .ite (matches_note _) ?_
  exact .bind (matches_build rfl) fun _ => matches_deliver rfl

theorem matches_noticeTest : T.Matches s noticeTest noticeTest := by
  refine .get_bind fun v _ _ _ _ _ => .ite ?_ (.pure _)
  have hset : T.Matches s (modify fun r => { r with latestTest := r.currentTest })
      (modify fun r => { r with latestTest := r.currentTest }) :=
    .modifyGet (fun v => ((), { v with latestTest := v.currentTest })) (fun _ => rfl)
      (fun _ _ _ => rfl) (fun _ _ _ => rfl)
  exact .ite (.bind matches_reportTest fun _ => hset) hset

theorem matches_reportQuit : T.Matches s reportQuit reportQuit :=
  .bind matches_clearStash fun _ => .switches_bind (.ite matches_reportTest (.pure _))

/-- What a command is carried out with makes no difference, as long as it is not shown. -/
theorem matches_carryOut (command : Command) (p₁ p₂ : Json) :
    T.Matches s (carryOut command p₁) (carryOut command p₂) := by
  refine .bind matches_noticeTest fun _ => .bind (.of_keeps keepsCalls.policy) fun policy => ?_
  refine .bind (.of_keeps (keepsCalls.setImplicitWait _)) fun wait => ?_
  cases wait with
  | error e => exact .pure _
  | ok _ =>
      refine .bind (.of_keeps (keepsCalls.sleepAroundCommand _ _ _ _)) fun _ => ?_
      refine .bind (matches_drive _ _ _ _) fun answer => ?_
      exact .bind (.of_keeps (keepsCalls.sleepAroundCommand _ _ _ _)) fun _ => .pure _

/-- Two commands are reported alike if the same is shown of them. -/
theorem matches_reportCommand {command : Command} {p₁ p₂ : Json}
    (hshown : T.Matches s (shown command p₁) (shown command p₂))
    (answer : Except Failure Response) (policy : StepPolicy) :
    T.Matches s (reportCommand command p₁ answer policy)
      (reportCommand command p₂ answer policy) := by
  unfold reportCommand
  refine .ite matches_reportQuit ?_
  generalize outcome answer = told
  obtain ⟨told, passed⟩ := told
  refine .switches_bind (.ite ?_ (matches_note _))
  rw [commandReport_eq, commandReport_eq]
  refine .bind (.bind hshown fun params => ?_) fun report => matches_submitCommand _
  exact .bind (.of_keeps (keepsCalls.pictureIf _)) fun _ => .pure _

theorem matches_execute {command : Command} {p₁ p₂ : Json}
    (hshown : T.Matches s (shown command p₁) (shown command p₂)) :
    T.Matches s (execute command p₁) (execute command p₂) := by
  rw [execute_eq, execute_eq]
  refine .bind (matches_carryOut _ _ _) fun carried => ?_
  cases carried with
  | error e => exact .pure _
  | ok x => exact .bind (matches_reportCommand hshown _ _) fun _ => .pure _

theorem matches_shown (command : Command) (params : Json) :
    T.Matches s (shown command params) (shown command params) :=
  .switches_bind (.ite (.pure _) (.of_keeps (keepsCalls.redact _ _)))

theorem matches_reportStep (description message : String) (passed pictured : Bool)
    (element : Option SearchCriteria) (inputs outputs : Option Object) :
    T.Matches s (reportStep description message passed pictured element inputs outputs)
      (reportStep description message passed pictured element inputs outputs) := by
  refine .switches_bind (.ite (matches_note _) ?_)
  refine .bind (.of_keeps (keepsCalls.pictureIf _)) fun picture => ?_
  refine .newGuid_bind fun guid₁ guid₂ => ?_
  exact matches_submitStep rfl

theorem matches_reportManualTest (name : Option String) (passed : Bool)
    (message : Option String) :
    T.Matches s (reportManualTest name passed message) (reportManualTest name passed message) := by
  have hsend : ∀ x : TestReport, T.Matches s (sendAfterStash (.test x))
      (sendAfterStash (.test x)) := fun x =>
    .bind (matches_build rfl) fun _ => .bind matches_clearStash fun _ => matches_deliver rfl
  refine .bind matches_noticeTest fun _ => .get_bind fun v _ _ _ _ _ => ?_
  refine .ite (matches_note _) ?_
  exact .ite (.bind (matches_note _) fun _ => hsend _) (hsend _)

theorem matches_setCurrentTest (name : String) :
    T.Matches s (setCurrentTest name) (setCurrentTest name) :=
  .modifyGet (fun v => ((), { v with currentTest := name })) (fun _ => rfl) (fun _ _ _ => rfl)
    (fun _ _ _ => rfl)

theorem matches_excludeTests (names : List String) :
    T.Matches s (excludeTests names) (excludeTests names) :=
  .modifyGet (fun v => ((), { v with excludedTests := names })) (fun _ => rfl)
    (fun _ _ _ => rfl) (fun _ _ _ => rfl)

theorem matches_adjust {c₁ : Runner ω₁ → Runner ω₁} {c₂ : Runner ω₂ → Runner ω₂}
    (g : Runner Unit → Runner Unit) (hg : ∀ v, (g v).switches = v.switches)
    (h₁ : ∀ v t w, c₁ (v.living t w) = (g v).living t w)
    (h₂ : ∀ v t w, c₂ (v.living t w) = (g v).living t w) :
    T.Matches s (adjust c₁) (adjust c₂) := by
  refine .bind (.modifyGet (fun v => ((), g v)) hg ?_ ?_) fun _ => ?_
  · exact fun v t w => congrArg (Prod.mk ()) (h₁ v t w)
  · exact fun v t w => congrArg (Prod.mk ()) (h₂ v t w)
  · exact .get_bind fun v _ _ _ _ _ => matches_emit rfl

theorem matches_leave (name : String) : T.Matches s (leave name) (leave name) := by
  refine matches_adjust (fun v => (v.scopes.find? fun s => s.name == name).elim v fun s =>
    { v with context := s.outer, scopes := v.scopes.eraseP fun s => s.name == name })
    (fun v => ?_) (fun v t w => ?_) (fun v t w => ?_)
  · cases v.scopes.find? fun s => s.name == name <;> rfl
  all_goals
    dsimp only [Runner.living]
    cases v.scopes.find? fun s => s.name == name <;> rfl

theorem keepsParts : KeepsParts (T.AlikeAt s) T.first T.second where
  toKeepsCalls := keepsCalls
  setContext c := (matches_adjust (fun v => { v with context := c }) (fun _ => rfl)
    (fun _ _ _ => rfl) (fun _ _ _ => rfl)).keeps
  enter name change := (matches_adjust (fun v =>
      { v with context := change v.context, scopes := v.scopes ++ [⟨name, v.context⟩] })
    (fun _ => rfl) (fun _ _ _ => rfl) (fun _ _ _ => rfl)).keeps
  leave name := (matches_leave name).keeps
  setCurrentTest name := (matches_setCurrentTest name).keeps
  excludeTests names := (matches_excludeTests names).keeps
  noticeTest := matches_noticeTest.keeps
  clearStash := matches_clearStash.keeps
  reportTest := matches_reportTest.keeps
  reportCommand command params answer policy :=
    (matches_reportCommand (matches_shown command params) answer policy).keeps
  reportStep description message passed pictured element inputs outputs :=
    (matches_reportStep description message passed pictured element inputs outputs).keeps
  reportManualTest name passed message := (matches_reportManualTest name passed message).keeps

end Twinning
end Courier
