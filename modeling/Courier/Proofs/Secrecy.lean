import Courier.Json.Sorted
import Courier.Proofs.Operations
import Courier.Proofs.TwinRuns
import Mathlib

/-!
# Typed secrets never reach a report

Two runs are twins if they go through the same operations, except that what is typed
into a field that holds a secret need not be the same. They may look at what has come
out so far, at what they remember and even at what has happened to decide how to go
on, as long as both go on alike.

What is shown of a typed text is the same in both, because the masks stand in the
places of all the entries that may differ, whether they were there or not. Everything
else is called with the same arguments. So twins cannot be told apart by what they
return, by the reports that leave, by the report put aside, or by the log.

What a report shows is the caller's own but for the masks. This is a law of single runs,
and it is shown of the few operations that are not silent.
-/

namespace Courier

/-! ## What is shown of a typed text -/

namespace Redaction

/-- The parameters differ at most in the entries that hold what is typed. -/
def AgreeBesidesText (o₁ o₂ : Object) : Prop :=
  ∀ key, key ≠ "text" → key ≠ "value" → o₁.get? key = o₂.get? key

/-- The masks stand in place of all that may differ. -/
theorem masked_eq {o₁ o₂ : Object} (h₁ : o₁.Sorted) (h₂ : o₂.Sorted)
    (h : AgreeBesidesText o₁ o₂) : masked (.obj o₁) = masked (.obj o₂) := by
  refine congrArg Json.obj (((h₁.insert _ _).insert _ _).ext ((h₂.insert _ _).insert _ _) ?_)
  intro key
  have hides₁ := hides_masked o₁
  have hides₂ := hides_masked o₂
  by_cases ht : key = "text"
  · rw [ht]
    exact hides₁.text.trans hides₂.text.symm
  · by_cases hv : key = "value"
    · rw [hv]
      exact hides₁.value.trans hides₂.value.symm
    · exact (hides₁.others key ht hv).trans ((h key ht hv).trans (hides₂.others key ht hv).symm)

end Redaction

open Redaction Run

namespace Twinning

variable {ω₁ ω₂ α β : Type} {T : Twinning ω₁ ω₂} {s : Switches}

/-- What both runs go on with may depend on what is known to have come out. -/
theorem Matches.bind_of_result {m₁ : Run ω₁ α} {m₂ : Run ω₂ α} {f₁ : α → Run ω₁ β}
    {f₂ : α → Run ω₂ β} (hm : T.Matches s m₁ m₂) (a : α)
    (ha : ∀ r, result m₁ T.first r = a) (hf : T.Matches s (f₁ a) (f₂ a)) :
    T.Matches s (m₁ >>= f₁) (m₂ >>= f₂) := by
  intro r₁ r₂ h hs
  obtain ⟨hr, halike, hs'⟩ := hm r₁ r₂ h hs
  rw [result_bind, result_bind, after_bind, after_bind, ← hr, ha]
  exact hf _ _ halike hs'

variable (T) in
/-- The driver's answer about a field masks what is typed there. -/
def Guarded : Prop :=
  Masks (isAndroidApp T.first.session) (T.respond Command.getElementAttribute.name)

/-- Of typed texts the same is shown, whatever they are. -/
theorem matches_shown_typed {command : Command} {o₁ o₂ : Object}
    (hc : command.typesText = true) (hs : s.disableRedaction = false) (hg : T.Guarded)
    (h₁ : o₁.Sorted) (h₂ : o₂.Sorted) (h : AgreeBesidesText o₁ o₂) :
    T.Matches s (shown command (.obj o₁)) (shown command (.obj o₂)) := by
  have htarget : target (.obj o₁) = target (.obj o₂) :=
    congrArg (Option.getD · Json.null) (h "id" (by decide) (by decide))
  have hsecret : ∀ r, result (holdsSecret (target (.obj o₁))) T.first r = true := by
    intro r
    refine (holdsSecret_iff T.first r).2 ?_
    have hprobe := T.drive_first .getElementAttribute
      (question T.first.session (target (.obj o₁))) r.world
    rw [probe, hprobe]
    exact hg
  refine .switches_bind ?_
  rw [hs]
  unfold redact
  rw [hc]
  refine .bind_of_result (htarget ▸ .of_keeps (keepsCalls.holdsSecret _)) true hsecret ?_
  rw [← htarget, masked_eq h₁ h₂ h]
  exact .bind (matches_note _) fun _ => .pure _

end Twinning

/-! ## Operations -/

namespace Operation

variable {ω α : Type}

theorem obeys {R : Runner ω → Runner ω → Prop} [Runner.Law R] (h : Rules R)
    (op : Operation α) : Obeys R (op.perform : Run ω α) := by
  cases op with
  | note => exact h.still (still_note _)
  | setContext => exact h.setContext _
  | sleep => exact Program.obeys h (.sleep _)
  | execute => exact Program.obeys h (.execute _ _)
  | executeInternal => exact Program.obeys h (.executeInternal _ _)
  | clearStash => exact Program.obeys h .clearStash
  | pause => exact Program.obeys h (.pause _)
  | takePicture => exact Program.obeys h (.takePicture _)
  | noticeTest => exact Program.obeys h .noticeTest
  | reportTest => exact Program.obeys h .reportTest
  | setCurrentTest => exact Program.obeys h (.setCurrentTest _)
  | excludeTests => exact Program.obeys h (.excludeTests _)
  | enterPolicy => exact Program.obeys h (.enterPolicy _ _)
  | enterPolling => exact Program.obeys h (.enterPolling _)
  | leave => exact Program.obeys h (.leave _)
  | setImplicitWait => exact Program.obeys h (.setImplicitWait _)
  | sleepAround => exact Program.obeys h (.sleepAround _ _ _)
  | sleepAroundCommand => exact Program.obeys h (.sleepAroundCommand _ _ _ _)
  | redact => exact Program.obeys h (.redact _ _)
  | reportManualStep => exact Program.obeys h (.reportManualStep _)
  | reportManualTest => exact Program.obeys h (.reportManualTest _ _ _)
  | runAction => exact Program.obeys h (.runAction _)
  | executeCodeblock => exact Program.obeys h (.executeCodeblock _ _ _ _)
  | runCodeblock => exact Program.obeys h (.runCodeblock _ _)

end Operation

namespace Twinning

variable {ω₁ ω₂ α β : Type} {T : Twinning ω₁ ω₂} {s : Switches}

/-- With the same arguments an operation does the same in both runs. -/
theorem matches_perform (op : Operation α) : T.Matches s op.perform op.perform :=
  .of_keeps (keepsParts.perform op)

/-! ## Twins -/

variable (T) in
/-- Two runs that go through the same operations, the one beginning with `r₁` and the other
with `r₂`, except that what is typed may differ where it is guarded. -/
inductive Twins : {α : Type} → Runner ω₁ → Runner ω₂ → Run ω₁ α → Run ω₂ α → Prop where
  | pure {α : Type} (r₁ : Runner ω₁) (r₂ : Runner ω₂) (a : α) :
      Twins r₁ r₂ (Pure.pure a) (Pure.pure a)
  | bind {α β : Type} {r₁ : Runner ω₁} {r₂ : Runner ω₂} {m₁ : Run ω₁ α} {m₂ : Run ω₂ α}
      {f₁ : α → Run ω₁ β} {f₂ : α → Run ω₂ β} : Twins r₁ r₂ m₁ m₂ →
      Twins (after m₁ T.first r₁) (after m₂ T.second r₂) (f₁ (result m₁ T.first r₁))
        (f₂ (result m₂ T.second r₂)) →
      Twins r₁ r₂ (m₁ >>= f₁) (m₂ >>= f₂)
  /-- The runner may be looked at. -/
  | get {α : Type} {r₁ : Runner ω₁} {r₂ : Runner ω₂} {f₁ : Runner ω₁ → Run ω₁ α}
      {f₂ : Runner ω₂ → Run ω₂ α} : Twins r₁ r₂ (f₁ r₁) (f₂ r₂) →
      Twins r₁ r₂ (MonadState.get >>= f₁) (MonadState.get >>= f₂)
  /-- So may the surroundings. -/
  | read {α : Type} {r₁ : Runner ω₁} {r₂ : Runner ω₂} {f₁ : Surroundings ω₁ → Run ω₁ α}
      {f₂ : Surroundings ω₂ → Run ω₂ α} : Twins r₁ r₂ (f₁ T.first) (f₂ T.second) →
      Twins r₁ r₂ (MonadReader.read >>= f₁) (MonadReader.read >>= f₂)
  | perform {α : Type} (r₁ : Runner ω₁) (r₂ : Runner ω₂) (op : Operation α) :
      Twins r₁ r₂ op.perform op.perform
  | setSwitches (r₁ : Runner ω₁) (r₂ : Runner ω₂) (change : Switches → Switches) :
      Twins r₁ r₂ (setSwitches change) (setSwitches change)
  | submitStep (r₁ : Runner ω₁) (r₂ : Runner ω₂) {x₁ x₂ : StepReport} :
      (Report.step x₁).unmarked = (Report.step x₂).unmarked →
      Twins r₁ r₂ (submitStep x₁) (submitStep x₂)
  /-- A text is typed into a field that is guarded, and redaction is on. -/
  | type {r₁ : Runner ω₁} (r₂ : Runner ω₂) {command : Command} {o₁ o₂ : Object} :
      command.typesText = true → r₁.switches.disableRedaction = false → T.Guarded →
      o₁.Sorted → o₂.Sorted → AgreeBesidesText o₁ o₂ →
      Twins r₁ r₂ (execute command (.obj o₁)) (execute command (.obj o₂))

variable {r₁ : Runner ω₁} {r₂ : Runner ω₂} {m₁ : Run ω₁ α} {m₂ : Run ω₂ α}

theorem Matches.alike (h : T.Matches s m₁ m₂) (ha : T.Alike r₁ r₂) (hs : r₁.switches = s) :
    result m₁ T.first r₁ = result m₂ T.second r₂ ∧
      T.Alike (after m₁ T.first r₁) (after m₂ T.second r₂) :=
  ⟨(h r₁ r₂ ha hs).1, (h r₁ r₂ ha hs).2.1⟩

/-- Twins return the same, and they leave alike what was alike. -/
theorem Twins.alike (h : T.Twins r₁ r₂ m₁ m₂) (ha : T.Alike r₁ r₂) :
    result m₁ T.first r₁ = result m₂ T.second r₂ ∧
      T.Alike (after m₁ T.first r₁) (after m₂ T.second r₂) := by
  induction h with
  | pure => exact ⟨rfl, ha⟩
  | bind _ _ ihm ihf => exact ihf (ihm ha).2
  | get _ ih | read _ ih => exact ih ha
  | perform _ _ op => exact (matches_perform op).alike ha rfl
  | setSwitches _ _ change =>
      obtain ⟨v, ht, hw⟩ := ha
      have hemit : T.Matches (change v.switches)
          (MonadState.get >>= fun r => emit (.adjusted r.switches r.context))
          (MonadState.get >>= fun r => emit (.adjusted r.switches r.context)) :=
        .get_bind fun v _ _ _ _ _ => matches_emit rfl
      exact hemit.alike (.mk { v with switches := change v.switches } ht hw) rfl
  | submitStep _ _ hx => exact (matches_submitStep hx).alike ha rfl
  | type _ hc hs hg h₁ h₂ h =>
      exact (matches_execute (matches_shown_typed hc hs hg h₁ h₂ h)).alike ha rfl

/-- Both of the twins obey the laws of operations. -/
theorem Twins.obeys (h : T.Twins r₁ r₂ m₁ m₂) {R₁ : Runner ω₁ → Runner ω₁ → Prop}
    {R₂ : Runner ω₂ → Runner ω₂ → Prop} [Runner.Law R₁] [Runner.Law R₂] (h₁ : Rules R₁)
    (h₂ : Rules R₂) : R₁ r₁ (after m₁ T.first r₁) ∧ R₂ r₂ (after m₂ T.second r₂) := by
  induction h with
  | pure => exact ⟨Runner.Law.refl _, Runner.Law.refl _⟩
  | bind _ _ ihm ihf =>
      exact ⟨Runner.Law.trans ihm.1 ihf.1, Runner.Law.trans ihm.2 ihf.2⟩
  | get _ ih | read _ ih => exact ih
  | perform _ _ op => exact ⟨op.obeys h₁ _ _, op.obeys h₂ _ _⟩
  | setSwitches =>
      exact ⟨Program.obeys h₁ (.setSwitches _) _ _, Program.obeys h₂ (.setSwitches _) _ _⟩
  | submitStep => exact ⟨h₁.submitStep _ _ _, h₂.submitStep _ _ _⟩
  | type => exact ⟨h₁.execute _ _ _ _, h₂.execute _ _ _ _⟩

/-! ## Waits of twins -/

theorem Twins.andThen {f₁ : α → Run ω₁ β} {f₂ : α → Run ω₂ β} (ha : T.Alike r₁ r₂)
    (hm : T.Twins r₁ r₂ m₁ m₂)
    (hf : ∀ a, T.Alike (after m₁ T.first r₁) (after m₂ T.second r₂) →
      T.Twins (after m₁ T.first r₁) (after m₂ T.second r₂) (f₁ a) (f₂ a)) :
    T.Twins r₁ r₂ (m₁ >>= f₁) (m₂ >>= f₂) := by
  obtain ⟨hr, ha'⟩ := hm.alike ha
  exact .bind hm (hr ▸ hf _ ha')

section Waits

theorem Twins.note (r₁ : Runner ω₁) (r₂ : Runner ω₂) (e : Log.Entry) :
    T.Twins r₁ r₂ (note e) (note e) := .perform r₁ r₂ (.note e)

theorem Twins.sleep (r₁ : Runner ω₁) (r₂ : Runner ω₂) (ms : Nat) :
    T.Twins r₁ r₂ (sleep ms) (sleep ms) := .perform r₁ r₂ (.sleep ms)

theorem Twins.setContext (r₁ : Runner ω₁) (r₂ : Runner ω₂) (c : StepContext) :
    T.Twins r₁ r₂ (setContext c) (setContext c) := .perform r₁ r₂ (.setContext c)

variable {c₁ : Condition ω₁ α} {c₂ : Condition ω₂ α} {Q : Switches → Prop}

theorem Twins.pollUntil
    (hc : ∀ n r₁ r₂, T.Alike r₁ r₂ → Q r₁.switches →
      T.Twins r₁ r₂ (c₁ n) (c₂ n) ∧ Q (after (c₁ n) T.first r₁).switches)
    (timeout interval deadline polls : Nat) (last : Option Failure) (further : Nat)
    (ha : T.Alike r₁ r₂) (hq : Q r₁.switches) :
    T.Twins r₁ r₂ (pollUntil c₁ timeout interval deadline polls last further)
      (pollUntil c₂ timeout interval deadline polls last further) := by
  induction further generalizing r₁ r₂ polls last with
  | zero =>
      unfold Run.pollUntil
      refine .andThen ha (hc polls r₁ r₂ ha hq).1 fun answer ha => ?_
      rcases answer with e | _ | a
      · exact .andThen ha (.note _ _ _) fun _ _ => .bind (.pure _ _ _) (.get (.pure _ _ _))
      · exact .bind (.pure _ _ _) (.get (.pure _ _ _))
      · exact .pure _ _ _
  | succ further ih =>
      -- After a poll both wait, or neither: whether there is time left is for the clocks to say.
      have hrest : ∀ {r₁ r₂} (last : Option Failure), T.Alike r₁ r₂ → Q r₁.switches →
          T.Twins r₁ r₂
            (do
              let now := (← MonadState.get).clock
              if deadline < now + interval then return ⟨.error (timeUp timeout last), polls + 1⟩
              else
                Run.sleep interval
                Run.pollUntil c₁ timeout interval deadline (polls + 1) last further)
            (do
              let now := (← MonadState.get).clock
              if deadline < now + interval then return ⟨.error (timeUp timeout last), polls + 1⟩
              else
                Run.sleep interval
                Run.pollUntil c₂ timeout interval deadline (polls + 1) last further) := by
        intro r₁ r₂ last ha hq
        refine .get ?_
        dsimp only
        rw [← ha.clock]
        split
        · exact .pure _ _ _
        · exact .andThen ha (.sleep _ _ _) fun _ ha => ih _ _ ha hq
      unfold Run.pollUntil
      obtain ⟨hpoll, hq'⟩ := hc polls r₁ r₂ ha hq
      refine .andThen ha hpoll fun answer ha => ?_
      rcases answer with e | _ | a
      · exact .andThen ha (.note _ _ _) fun _ ha => .bind (.pure _ _ _) (hrest _ ha hq')
      · exact .bind (.pure _ _ _) (hrest _ ha hq')
      · exact .pure _ _ _

/-- Waits are twins if the conditions are, poll by poll, as long as the switches are as they
are required to be. -/
theorem Twins.waitUntil
    (hc : ∀ n r₁ r₂, T.Alike r₁ r₂ → Q r₁.switches →
      T.Twins r₁ r₂ (c₁ n) (c₂ n) ∧ Q (after (c₁ n) T.first r₁).switches)
    (timeout interval : Nat) (ha : T.Alike r₁ r₂) (hq : Q r₁.switches) :
    T.Twins r₁ r₂ (waitUntil c₁ timeout interval) (waitUntil c₂ timeout interval) := by
  refine .get ?_
  dsimp only
  rw [← ha.context]
  refine .andThen ha (.setContext _ _ _) fun _ ha => ?_
  refine .andThen ha (.get ?_) fun _ ha => ?_
  · rw [← ha.clock]
    exact .pollUntil hc _ _ _ _ _ _ ha hq
  · exact .andThen ha (.setContext _ _ _) fun _ _ => .pure _ _ _

end Waits

end Twinning

/-! ## A report shows the caller's own -/

namespace Redaction

/-- The parameters are shown as they are, or with the masks in place of what was typed. -/
def Shows (shown given : Json) : Prop := shown = given ∨ ∃ o, given = .obj o ∧ Hides shown given

theorem shows_masked (params : Json) : Shows (masked params) params := by
  cases params with
  | obj o => exact .inr ⟨o, rfl, hides_masked o⟩
  | null | bool | num | str | arr => exact .inl rfl

/-- The report is of the command that was asked for last, and shows its parameters. -/
def Owned (before : List Event) (c : CommandReport) : Prop :=
  ∃ sooner params mid, before = sooner ++ .called .request c.command params :: mid ∧
    (∀ e ∈ mid, e.isRequest = false) ∧ Shows c.params params

theorem Owned.append {before : List Event} {c : CommandReport} (h : Owned before c)
    (es : List Event) : Owned (es ++ before) c := by
  obtain ⟨sooner, params, mid, rfl, hmid, hshows⟩ := h
  exact ⟨es ++ sooner, params, mid, (List.append_assoc _ _ _).symm, hmid, hshows⟩

end Redaction

namespace Runner

variable {ω : Type}

/-- The reports of commands that have been put together show what they are of. -/
def Owns (r r' : Runner ω) : Prop :=
  ∃ es, r'.trace = r.trace ++ es ∧
    ∀ before c polled later, es = before ++ .built (.command c) polled :: later → Owned before c

instance : Law (@Owns ω) where
  refl r := by
    refine ⟨[], (List.append_nil _).symm, fun before c polled later h => ?_⟩
    cases before <;> cases h
  trans h h' := by
    obtain ⟨es, he, ho⟩ := h
    obtain ⟨es', he', ho'⟩ := h'
    refine ⟨es ++ es', by rw [he', he, List.append_assoc], fun before c polled later h => ?_⟩
    rcases cases_of_append_eq h with ⟨mid, hes⟩ | ⟨mid, rfl, hes'⟩
    · exact ho before c polled mid hes
    · exact (ho' mid c polled later hes').append es

theorem Adds.owns {r r' : Runner ω}
    (h : Adds (fun e => ∀ c, e.building? ≠ some (.command c)) r r') : Owns r r' := by
  obtain ⟨es, he, hb⟩ := h
  refine ⟨es, he, ?_⟩
  rintro before c polled later rfl
  exact absurd rfl (hb _ (List.mem_append_right _ List.mem_cons_self) c)

end Runner

namespace Run

variable {ω : Type}

open Runner (Adds Owns)

theorem shows_shown (command : Command) (params : Json) (env : Surroundings ω) (r : Runner ω) :
    Shows (result (shown command params) env r) params := by
  unfold shown
  rw [result_bind]
  split
  · exact .inl rfl
  · unfold redact
    split
    · exact .inl rfl
    · rw [result_bind]
      split
      · exact shows_masked params
      · exact .inl rfl

theorem rules_owns : Rules (@Owns ω) := by
  have hnone : ∀ {α : Type} {m : Run ω α}, Obeys (Adds fun e => e.building? = none) m →
      Obeys (Adds fun e => ∀ c, e.building? ≠ some (.command c)) m := fun h =>
    h.mono fun ⟨es, he, hb⟩ => ⟨es, he, fun e hm c hc => by rw [hb e hm] at hc; cases hc⟩
  constructor
  · exact fun h => (hnone (adds_of_silent h)).mono Adds.owns
  · intro change h env r
    refine Adds.owns ⟨[.adjusted (change r).switches (change r).context], ?_, ?_⟩
    · exact congrArg (· ++ [_]) (h r).1
    · exact List.forall_mem_singleton.2 fun _ => nofun
  · exact (hnone adds_clearStash).mono Adds.owns
  · intro report
    have hbuild : Obeys (Adds fun e => ∀ c, e.building? ≠ some (.command c))
        (build (.step report) : Run ω Unit) := fun _ r =>
      ⟨[.built (.step report) r.context.polling], rfl, List.forall_mem_singleton.2 fun _ => nofun⟩
    have hdeliver : Obeys (Adds fun e => ∀ c, e.building? ≠ some (.command c))
        (deliver (.step report) : Run ω Unit) := fun _ r =>
      ⟨[.reported (.step report)], rfl, List.forall_mem_singleton.2 fun _ => nofun⟩
    exact (Obeys.bind hbuild fun _ => .bind (hnone adds_clearStash) fun _ => hdeliver).mono
      Adds.owns
  · -- Reports of commands are put together here alone.
    intro command params env r
    obtain ⟨es, he, hbuilt⟩ := trace_execute command params env r
    refine ⟨es, he, fun before c polled later h => ?_⟩
    obtain ⟨⟨rfl, hp⟩, sooner, mid, hb, hmid⟩ := hbuilt before c polled later h
    refine ⟨sooner, params, mid, hb, hmid, ?_⟩
    rw [hp]
    exact shows_shown _ _ _ _

end Run

/-! ## What can be told of two runs -/

namespace Event

/-- What leaves for the Agent, steps without their identifiers. -/
def sent? : Event → Option Report
  | .reported x => some x.unmarked
  | _ => none

/-- The line of the log that an event is, if it is one. -/
def logged? : Event → Option Log.Entry
  | .noted e => some e
  | _ => none

theorem sent?_face (e : Event) : e.face.sent? = e.sent? := by
  cases e with
  | reported x => cases x <;> rfl
  | called | slept | built | flushed | ranAction | ranCodeblock | adjusted | noted => rfl

theorem logged?_face (e : Event) : e.face.logged? = e.logged? := by
  cases e <;> rfl

theorem filterMap_of_faces {β : Type} {f : Event → Option β} (hf : ∀ e : Event, f e.face = f e)
    {t₁ t₂ : List Event} (h : t₁.map face = t₂.map face) : t₁.filterMap f = t₂.filterMap f := by
  have hmap : ∀ t : List Event, (t.map face).filterMap f = t.filterMap f := fun t => by
    rw [List.filterMap_map]
    exact congrArg (List.filterMap · t) (funext hf)
  rw [← hmap, h, hmap]

end Event

/-- Two runs with these results, and these runners at their ends, cannot be told apart. -/
structure Indistinguishable {ω₁ ω₂ α : Type} (a₁ a₂ : α) (r₁ : Runner ω₁) (r₂ : Runner ω₂) :
    Prop where
  results : a₁ = a₂
  reports : r₁.trace.filterMap Event.sent? = r₂.trace.filterMap Event.sent?
  stash : r₁.stash = r₂.stash
  log : r₁.trace.filterMap Event.logged? = r₂.trace.filterMap Event.logged?

/-- Every report of a command that has left is of a command that was asked for, and shows
its parameters but for the masks. -/
def Runner.OwnParameters {ω : Type} (r : Runner ω) : Prop :=
  ∀ c, .reported (.command c) ∈ r.trace → ∃ before polled later,
    r.trace = before ++ .built (.command c) polled :: later ∧ Owned before c

theorem Runner.ownParameters {ω : Type} {r r' : Runner ω} (ht : r.trace = [])
    (hs : r.stash = none) (h : Told r r') (ho : Owns r r') : r'.OwnParameters := by
  intro c hc
  obtain ⟨es, he, htale, -⟩ := h
  obtain ⟨es', he', hown⟩ := ho
  rw [ht, List.nil_append] at he he'
  rw [hs] at htale
  have harrived : Report.command c ∈ es.filterMap Event.arrival? :=
    List.mem_filterMap.2 ⟨_, he ▸ hc, rfl⟩
  have hbuilt := htale.sublist.subset (List.mem_append_left _ harrived)
  obtain ⟨e, hm, hb⟩ := List.mem_filterMap.1 hbuilt
  obtain ⟨polled, rfl⟩ : ∃ polled, e = .built (.command c) polled := by
    cases e with
    | built x polled =>
        cases x with
        | command =>
            cases hb
            exact ⟨polled, rfl⟩
        | step | test => cases hb
    | called | slept | flushed | reported | ranAction | ranCodeblock | adjusted | noted => cases hb
  obtain ⟨before, later, hes⟩ := List.append_of_mem hm
  refine ⟨before, polled, later, he.trans hes, ?_⟩
  exact hown before c polled later (he'.symm.trans (he.trans hes))

namespace Twinning

variable {ω₁ ω₂ α : Type} {T : Twinning ω₁ ω₂} {m₁ : Run ω₁ α} {m₂ : Run ω₂ α}

/-- Twins that begin anew cannot be told apart, and both show the parameters of commands as
they are but for the masks. -/
theorem Twins.indistinguishable {c : Config} {w₁ : ω₁} {w₂ : ω₂} (hw : T.Same w₁ w₂)
    (h : T.Twins (.ofConfig c w₁) (.ofConfig c w₂) m₁ m₂) :
    Indistinguishable (result m₁ T.first (.ofConfig c w₁)) (result m₂ T.second (.ofConfig c w₂))
      (after m₁ T.first (.ofConfig c w₁)) (after m₂ T.second (.ofConfig c w₂)) ∧
    (after m₁ T.first (.ofConfig c w₁)).OwnParameters ∧
    (after m₂ T.second (.ofConfig c w₂)).OwnParameters := by
  have hbegin : T.Alike (.ofConfig c w₁) (.ofConfig c w₂) := .mk (.ofConfig c ()) rfl hw
  obtain ⟨hresult, halike⟩ := h.alike hbegin
  obtain ⟨htold₁, htold₂⟩ := h.obeys rules_told rules_told
  obtain ⟨howns₁, howns₂⟩ := h.obeys rules_owns rules_owns
  refine ⟨?_, Runner.ownParameters rfl rfl htold₁ howns₁,
    Runner.ownParameters rfl rfl htold₂ howns₂⟩
  generalize after m₁ T.first (.ofConfig c w₁) = r₁ at halike
  generalize after m₂ T.second (.ofConfig c w₂) = r₂ at halike
  obtain ⟨v, ht, -⟩ := halike
  exact ⟨hresult, Event.filterMap_of_faces Event.sent?_face ht, rfl,
    Event.filterMap_of_faces Event.logged?_face ht⟩

/-! ## A password -/

/-- A driver that has password fields, and remembers what it is given. -/
def passwordField (step : String) : Surroundings (List Json) where
  session := plainSession false
  drive command params w :=
    (.ok (.ok (if command.name = "getElementAttribute" then .str "password" else .null)),
      w ++ [params])
  report _ w := w
  runAction a w := (⟨.error (.addonNotInstalled a.guid a.className), []⟩, w)
  runCodeblock _ _ w := (⟨.ok ⟨.passed, "", none⟩, []⟩, w)
  guid _ := step

/-- Two such drivers, which need not remember the same. -/
def passwordFields : Twinning (List Json) (List Json) where
  first := passwordField "one step"
  second := passwordField "another step"
  respond name := .ok (.ok (if name = "getElementAttribute" then .str "password" else .null))
  Same _ _ := True
  session := rfl
  drive_first _ _ _ := rfl
  drive_second _ _ _ := rfl
  drive_same _ _ _ _ := trivial
  report_same _ _ := trivial
  runAction_same _ _ := ⟨rfl, trivial⟩
  runCodeblock_same _ _ _ := ⟨rfl, trivial⟩

/-- Typing something, which is done when the driver has done it. -/
def typing (o : Object) : Condition (List Json) Unit := fun _ => do
  let answer ← execute .sendKeysToElement (.obj o)
  return answer.map fun _ => some ()

/-- Typing something in a wait, and then a step. -/
def signIn (o : Object) : Run (List Json) Nat := do
  let waited ← waitUntil (typing o) 1000 100
  reportManualStep (.plain "Signed in" "" true)
  return waited.polls

theorem twins_signIn {o₁ o₂ : Object} (h₁ : o₁.Sorted) (h₂ : o₂.Sorted)
    (h : AgreeBesidesText o₁ o₂) (w₁ w₂ : List Json) :
    passwordFields.Twins (.ofConfig .default w₁) (.ofConfig .default w₂) (signIn o₁)
      (signIn o₂) := by
  have hg : passwordFields.Guarded := .kind (by decide)
  have ha : passwordFields.Alike (.ofConfig .default w₁) (.ofConfig .default w₂) :=
    .mk (.ofConfig .default ()) rfl trivial
  have htyping : ∀ (n : Nat) (r₁ r₂ : Runner (List Json)), passwordFields.Alike r₁ r₂ →
      r₁.switches.disableRedaction = false →
      passwordFields.Twins r₁ r₂ (typing o₁ n) (typing o₂ n) ∧
        (after (typing o₁ n) passwordFields.first r₁).switches.disableRedaction = false := by
    intro n r₁ r₂ ha hs
    refine ⟨.andThen ha (.type r₂ rfl hs hg h₁ h₂ h) fun _ _ => .pure _ _ _, ?_⟩
    have hshown : passwordFields.Matches r₁.switches (shown .sendKeysToElement (.obj o₁))
        (shown .sendKeysToElement (.obj o₂)) := matches_shown_typed rfl hs hg h₁ h₂ h
    obtain ⟨-, -, hsw⟩ := matches_execute hshown r₁ r₂ ha rfl
    exact (congrArg Switches.disableRedaction hsw).trans hs
  refine .andThen ha (.waitUntil (Q := fun s => s.disableRedaction = false) htyping _ _ ha rfl)
    fun waited _ => ?_
  exact .bind (.perform _ _ (.reportManualStep (.plain "Signed in" "" true))) (.pure _ _ _)

/-- A password in the one run, and in the other nothing but a list of keys: what the drivers
are given differs, and the runs cannot be told apart. -/
theorem Twins.indistinguishable_signIn :
    let password : Object := [("id", .str "el-1"), ("text", .str "hunter2")]
    let keys : Object := [("id", .str "el-1"), ("value", .arr [.str "k"])]
    let r₁ := after (signIn password) passwordFields.first (.ofConfig .default [])
    let r₂ := after (signIn keys) passwordFields.second (.ofConfig .default [])
    passwordFields.Twins (.ofConfig .default []) (.ofConfig .default []) (signIn password)
      (signIn keys) ∧
    (Indistinguishable (result (signIn password) passwordFields.first (.ofConfig .default []))
      (result (signIn keys) passwordFields.second (.ofConfig .default [])) r₁ r₂ ∧
      r₁.OwnParameters ∧ r₂.OwnParameters) ∧
    (r₁.trace.filterMap fun e => e.sent?.map Report.kind) = [.command, .step] ∧
    (r₁.world.head?.bind (·.get? "text")) = some (.str "hunter2") ∧
    (r₂.world.head?.bind (·.get? "text")) = none := by
  have h : passwordFields.Twins (.ofConfig .default []) (.ofConfig .default [])
      (signIn [("id", .str "el-1"), ("text", .str "hunter2")])
      (signIn [("id", .str "el-1"), ("value", .arr [.str "k"])]) := by
    refine twins_signIn (by decide) (by decide) (fun key ht hv => ?_) [] []
    simp only [Object.get?, ht.symm, hv.symm, if_false]
  exact ⟨h, h.indistinguishable trivial, by cbv, by cbv, by cbv⟩

end Twinning
end Courier
