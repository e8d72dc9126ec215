import Courier.Proofs.Operations

/-!
# Pairs of runs

Two runs go through the same operations, from runners that are related, and they keep
this if they return the same and are related again at their ends. What relation it is
makes no difference to most of what operations are made of. It has to be shown of each
relation what becomes of it when something is noted, driven or reported; everything
that is timed, probed, pictured or waited for follows from that, and is shown here once.

The surroundings of the two runs may differ in all but the session, which is what
operations put into their calls to the driver.
-/

namespace Courier

open Run

variable {ω₁ ω₂ α β : Type}

/-- From runners that are related the two runs return the same, and lead to runners that
are related. -/
def Keeps (A : Runner ω₁ → Runner ω₂ → Prop) (env₁ : Surroundings ω₁) (env₂ : Surroundings ω₂)
    (m₁ : Run ω₁ α) (m₂ : Run ω₂ α) : Prop :=
  ∀ r₁ r₂, A r₁ r₂ → result m₁ env₁ r₁ = result m₂ env₂ r₂ ∧ A (after m₁ env₁ r₁) (after m₂ env₂ r₂)

variable {A : Runner ω₁ → Runner ω₂ → Prop} {env₁ : Surroundings ω₁} {env₂ : Surroundings ω₂}

namespace Keeps

theorem pure (a : α) : Keeps A env₁ env₂ (Pure.pure a) (Pure.pure a) := fun _ _ h => ⟨rfl, h⟩

theorem bind {m₁ : Run ω₁ α} {m₂ : Run ω₂ α} {f₁ : α → Run ω₁ β} {f₂ : α → Run ω₂ β}
    (hm : Keeps A env₁ env₂ m₁ m₂) (hf : ∀ a, Keeps A env₁ env₂ (f₁ a) (f₂ a)) :
    Keeps A env₁ env₂ (m₁ >>= f₁) (m₂ >>= f₂) := by
  intro r₁ r₂ h
  obtain ⟨hr, ha⟩ := hm r₁ r₂ h
  rw [result_bind, result_bind, after_bind, after_bind, ← hr]
  exact hf _ _ _ ha

theorem get_bind {f₁ : Runner ω₁ → Run ω₁ α} {f₂ : Runner ω₂ → Run ω₂ α}
    (hf : ∀ r₁ r₂, A r₁ r₂ → Keeps A env₁ env₂ (f₁ r₁) (f₂ r₂)) :
    Keeps A env₁ env₂ (MonadState.get >>= f₁) (MonadState.get >>= f₂) :=
  fun r₁ r₂ h => hf r₁ r₂ h r₁ r₂ h

theorem read_bind {f₁ : Surroundings ω₁ → Run ω₁ α} {f₂ : Surroundings ω₂ → Run ω₂ α}
    (hf : Keeps A env₁ env₂ (f₁ env₁) (f₂ env₂)) :
    Keeps A env₁ env₂ (MonadReader.read >>= f₁) (MonadReader.read >>= f₂) := hf

theorem ite {c : Prop} [Decidable c] {m₁ n₁ : Run ω₁ α} {m₂ n₂ : Run ω₂ α}
    (hm : Keeps A env₁ env₂ m₁ m₂) (hn : Keeps A env₁ env₂ n₁ n₂) :
    Keeps A env₁ env₂ (if c then m₁ else n₁) (if c then m₂ else n₂) := by
  split
  · exact hm
  · exact hn

theorem forM {f₁ : β → Run ω₁ Unit} {f₂ : β → Run ω₂ Unit}
    (hf : ∀ b, Keeps A env₁ env₂ (f₁ b) (f₂ b)) (bs : List β) :
    Keeps A env₁ env₂ (bs.forM f₁) (bs.forM f₂) := by
  induction bs with
  | nil => exact pure ()
  | cons b bs ih => exact bind (hf b) fun _ => ih

theorem ask {call₁ : Surroundings ω₁ → ω₁ → Reply α × ω₁}
    {call₂ : Surroundings ω₂ → ω₂ → Reply α × ω₂} {e : Event}
    (hemit : Keeps A env₁ env₂ (emit e) (emit e))
    (hnote : ∀ e, Keeps A env₁ env₂ (note e) (note e))
    (hcall : ∀ r₁ r₂, A r₁ r₂ → (call₁ env₁ r₁.world).1 = (call₂ env₂ r₂.world).1 ∧
      A { r₁ with world := (call₁ env₁ r₁.world).2 }
        { r₂ with world := (call₂ env₂ r₂.world).2 }) :
    Keeps A env₁ env₂ (Run.ask e call₁) (Run.ask e call₂) :=
  .bind hemit fun _ => .read_bind <| .bind hcall fun _ => .bind (.forM hnote _) fun _ => .pure _

end Keeps

/-! ## Calls and sleeps -/

/-- What has to be shown of a relation before anything can be said of calls and sleeps. -/
structure KeepsCalls (A : Runner ω₁ → Runner ω₂ → Prop) (env₁ : Surroundings ω₁)
    (env₂ : Surroundings ω₂) : Prop where
  session : env₁.session = env₂.session
  context : ∀ {r₁ r₂}, A r₁ r₂ → r₁.context = r₂.context
  clock : ∀ {r₁ r₂}, A r₁ r₂ → r₁.clock = r₂.clock
  note : ∀ e, Keeps A env₁ env₂ (note e) (note e)
  sleep : ∀ ms, Keeps A env₁ env₂ (sleep ms) (sleep ms)
  drive : ∀ purpose command params,
    Keeps A env₁ env₂ (drive purpose command params) (drive purpose command params)
  callAction : ∀ a, Keeps A env₁ env₂ (callAction a) (callAction a)
  callCodeblock : ∀ guid body, Keeps A env₁ env₂ (callCodeblock guid body) (callCodeblock guid body)

namespace KeepsCalls

variable (h : KeepsCalls A env₁ env₂)

include h

theorem policy : Keeps A env₁ env₂ policy policy := fun _ _ ha =>
  ⟨congrArg StepContext.policy (h.context ha), ha⟩

theorem takePicture (purpose : Purpose) :
    Keeps A env₁ env₂ (takePicture purpose) (takePicture purpose) := by
  refine .read_bind ?_
  rw [h.session]
  refine .bind (h.drive _ _ _) fun answer => ?_
  cases answer with
  | ok response => exact .ite (.bind (h.note _) fun _ => .pure _) (.pure _)
  | error e => exact .bind (h.note _) fun _ => .pure _

theorem pictureIf (wanted : Bool) : Keeps A env₁ env₂ (pictureIf wanted) (pictureIf wanted) :=
  .ite (h.takePicture _) (.pure _)

theorem holdsSecret (element : Json) :
    Keeps A env₁ env₂ (holdsSecret element) (holdsSecret element) := by
  refine .read_bind ?_
  rw [h.session]
  refine .bind (h.drive _ _ _) fun answer => ?_
  cases answer with
  | ok response => exact .pure _
  | error e => exact .bind (h.note _) fun _ => .pure _

theorem redact (command : Command) (params : Json) :
    Keeps A env₁ env₂ (redact command params) (redact command params) :=
  .ite (.pure _) <| .bind (h.holdsSecret _) fun _ =>
    .ite (.bind (h.note _) fun _ => .pure _) (.pure _)

theorem setImplicitWait (ms : Int) :
    Keeps A env₁ env₂ (setImplicitWait ms) (setImplicitWait ms) := by
  refine .ite (.pure _) <| .bind (h.note _) fun _ => .read_bind ?_
  rw [h.session]
  refine .bind (h.drive _ _ _) fun answer => ?_
  cases answer <;> exact .pure _

theorem sleepAround (timing : SleepTiming) (ms : Nat) (phase : Phase) :
    Keeps A env₁ env₂ (sleepAround timing ms phase) (sleepAround timing ms phase) :=
  .ite (.bind (h.note _) fun _ => h.sleep _) (.pure _)

theorem sleepAroundCommand (command : Command) (timing : SleepTiming) (ms : Nat) (phase : Phase) :
    Keeps A env₁ env₂ (sleepAroundCommand command timing ms phase)
      (sleepAroundCommand command timing ms phase) :=
  .ite (h.sleepAround _ _ _) (.pure _)

theorem executeCodeblock (timeout : Nat) (guid : String) (entries : Object) (l : Option Locator) :
    Keeps A env₁ env₂ (executeCodeblock timeout guid entries l)
      (executeCodeblock timeout guid entries l) := by
  refine .bind (h.callCodeblock _ _) fun reply => ?_
  cases reply with
  | error e => exact .pure _
  | ok answer => exact .ite (.bind (h.note _) fun _ => .pure _) (.pure _)

theorem runCodeblock (timeout : Nat) (c : Codeblock) :
    Keeps A env₁ env₂ (runCodeblock timeout c) (runCodeblock timeout c) := by
  refine .bind (h.executeCodeblock _ _ _ _) fun reply => ?_
  cases reply <;> exact .pure _

/-- Polling keeps the relation if the conditions do at every poll. -/
theorem pollUntil {c₁ : Condition ω₁ α} {c₂ : Condition ω₂ α}
    (hc : ∀ n, Keeps A env₁ env₂ (c₁ n) (c₂ n)) (timeout interval deadline polls : Nat)
    (last : Option Failure) (further : Nat) :
    Keeps A env₁ env₂ (pollUntil c₁ timeout interval deadline polls last further)
      (pollUntil c₂ timeout interval deadline polls last further) := by
  induction further generalizing polls last with
  | zero =>
      unfold Run.pollUntil
      refine .bind (hc polls) fun answer => ?_
      rcases answer with e | _ | a
      · exact .bind (h.note _) fun _ => .bind (.pure _) fun _ => .get_bind fun _ _ _ => .pure _
      · exact .bind (.pure _) fun _ => .get_bind fun _ _ _ => .pure _
      · exact .pure _
  | succ further ih =>
      -- After a poll both go on or neither: it is for the clocks to say whether there is time left.
      have hrest : ∀ last : Option Failure, Keeps A env₁ env₂
          (do
            let now := (← MonadState.get).clock
            if deadline < now + interval then return ⟨.error (timeUp timeout last), polls + 1⟩
            else
              Run.sleep interval
              Run.pollUntil c₁ timeout interval deadline (polls + 1) last further)
          (do
            let now := (← MonadState.get).clock
            if deadline < now + interval then return ⟨.error (timeUp timeout last), polls + 1⟩
            else
              Run.sleep interval
              Run.pollUntil c₂ timeout interval deadline (polls + 1) last further) := by
        intro last
        refine .get_bind fun r₁ r₂ ha => ?_
        dsimp only
        rw [h.clock ha]
        exact .ite (.pure _) (.bind (h.sleep _) fun _ => ih _ _)
      unfold Run.pollUntil
      refine .bind (hc polls) fun answer => ?_
      rcases answer with e | _ | a
      · exact .bind (h.note _) fun _ => .bind (.pure _) hrest
      · exact .bind (.pure _) hrest
      · exact .pure _

end KeepsCalls

/-! ## Operations and waits -/

/-- What has to be shown of a relation besides, before anything can be said of operations. -/
structure KeepsParts (A : Runner ω₁ → Runner ω₂ → Prop) (env₁ : Surroundings ω₁)
    (env₂ : Surroundings ω₂) : Prop extends KeepsCalls A env₁ env₂ where
  setContext : ∀ c, Keeps A env₁ env₂ (setContext c) (setContext c)
  enter : ∀ name change, Keeps A env₁ env₂ (enter name change) (enter name change)
  leave : ∀ name, Keeps A env₁ env₂ (leave name) (leave name)
  setCurrentTest : ∀ name, Keeps A env₁ env₂ (setCurrentTest name) (setCurrentTest name)
  excludeTests : ∀ names, Keeps A env₁ env₂ (excludeTests names) (excludeTests names)
  noticeTest : Keeps A env₁ env₂ noticeTest noticeTest
  clearStash : Keeps A env₁ env₂ clearStash clearStash
  reportTest : Keeps A env₁ env₂ reportTest reportTest
  reportCommand : ∀ command params answer policy, Keeps A env₁ env₂
    (reportCommand command params answer policy) (reportCommand command params answer policy)
  reportStep : ∀ description message passed pictured element inputs outputs, Keeps A env₁ env₂
    (reportStep description message passed pictured element inputs outputs)
    (reportStep description message passed pictured element inputs outputs)
  reportManualTest : ∀ name passed message, Keeps A env₁ env₂
    (reportManualTest name passed message) (reportManualTest name passed message)

namespace KeepsParts

variable (h : KeepsParts A env₁ env₂)

include h

theorem execute (command : Command) (params : Json) :
    Keeps A env₁ env₂ (execute command params) (execute command params) := by
  refine .bind h.noticeTest fun _ => .bind h.policy fun policy => ?_
  refine .bind (h.setImplicitWait _) fun wait => ?_
  cases wait with
  | error e => exact .pure _
  | ok _ =>
      refine .bind (h.sleepAroundCommand _ _ _ _) fun _ => .bind (h.drive _ _ _) fun answer => ?_
      refine .bind (h.sleepAroundCommand _ _ _ _) fun _ => ?_
      exact .bind (h.reportCommand _ _ _ _) fun _ => .pure _

theorem pause (ms : Nat) : Keeps A env₁ env₂ (pause ms) (pause ms) := by
  refine .bind h.noticeTest fun _ => .bind h.policy fun policy => ?_
  refine .bind (h.sleepAround _ _ _) fun _ => .bind (h.sleep _) fun _ => ?_
  exact .bind (h.sleepAround _ _ _) fun _ => h.reportStep _ _ _ _ _ _ _

theorem runAction (a : AddonAction) : Keeps A env₁ env₂ (runAction a) (runAction a) := by
  refine .bind h.noticeTest fun _ => .bind h.policy fun policy => ?_
  refine .bind (h.setImplicitWait _) fun wait => ?_
  cases wait with
  | error e => exact .pure _
  | ok _ =>
      refine .bind (h.sleepAround _ _ _) fun _ => .bind (h.callAction a) fun reply => ?_
      cases reply with
      | error e => exact .pure _
      | ok answer =>
          refine .bind (h.sleepAround _ _ _) fun _ => ?_
          refine .bind (h.reportStep _ _ _ _ _ _ _) fun _ => ?_
          refine .ite (.bind ?_ fun _ => .pure _) (.pure _)
          exact .bind (.forM (fun _ => h.note _) _) fun _ => .pure _

theorem perform (op : Operation α) : Keeps A env₁ env₂ op.perform op.perform := by
  cases op with
  | note => exact h.note _
  | sleep => exact h.sleep _
  | setContext => exact h.setContext _
  | execute => exact h.execute _ _
  | executeInternal => exact h.drive _ _ _
  | clearStash => exact h.clearStash
  | pause => exact h.pause _
  | takePicture => exact h.takePicture _
  | noticeTest => exact h.noticeTest
  | reportTest => exact h.reportTest
  | setCurrentTest => exact h.setCurrentTest _
  | excludeTests => exact h.excludeTests _
  | enterPolicy | enterPolling => exact h.enter _ _
  | leave => exact h.leave _
  | setImplicitWait => exact h.setImplicitWait _
  | sleepAround => exact h.sleepAround _ _ _
  | sleepAroundCommand => exact h.sleepAroundCommand _ _ _ _
  | redact => exact h.redact _ _
  | reportManualStep =>
      exact .bind h.noticeTest fun _ => .bind h.policy fun _ => h.reportStep _ _ _ _ _ _ _
  | reportManualTest => exact h.reportManualTest _ _ _
  | runAction => exact h.runAction _
  | executeCodeblock => exact h.executeCodeblock _ _ _ _
  | runCodeblock => exact h.runCodeblock _ _

theorem inside {change : StepContext → StepContext} {b₁ : Run ω₁ α} {b₂ : Run ω₂ α}
    (hb : Keeps A env₁ env₂ b₁ b₂) : Keeps A env₁ env₂ (inside change b₁) (inside change b₂) := by
  refine .get_bind fun r₁ r₂ ha => ?_
  dsimp only
  rw [h.context ha]
  exact .bind (h.setContext _) fun _ => .bind hb fun _ => .bind (h.setContext _) fun _ => .pure _

/-- Waits keep the relation if the conditions do at every poll. -/
theorem waitUntil {c₁ : Condition ω₁ α} {c₂ : Condition ω₂ α}
    (hc : ∀ n, Keeps A env₁ env₂ (c₁ n) (c₂ n)) (timeout interval : Nat) :
    Keeps A env₁ env₂ (waitUntil c₁ timeout interval) (waitUntil c₂ timeout interval) := by
  refine h.inside (.get_bind fun r₁ r₂ ha => ?_)
  dsimp only
  rw [h.clock ha]
  exact h.pollUntil hc _ _ _ _ _ _

end KeepsParts
end Courier
