import Courier.Proofs.StashLaw

/-!
# Masking

Whether a typed text is masked hangs on one question to the driver, and the question
can fail in two ways: it cannot be put at all, or the driver answers that it has not
been carried out. A failure of the first kind masks the text. An answer of the second
kind is read as if it had passed: its value, which is the driver's account of the
failure, is looked up among the kinds of secret fields, and the text stays as it is
because it is not one of them. So the failure is safe for an answer if and only if it
has passed, or is of the first kind, or has by chance a value that tells a secret.

What is shown of the parameters of a command is settled in one place, and every report
that is put together while the command is executed has it.
-/

namespace Courier

namespace Redaction

/-- The values of the attribute that tell a secret field. -/
inductive TellsSecret : Bool → Json → Prop where
  | kind {name : String} : name ∈ secureTypes → TellsSecret false (.str name)
  | mark {text : String} : Text.lower text = "true" → TellsSecret true (.str text)
  | flag : TellsSecret true (.bool true)

theorem isSecret_iff {app : Bool} {value : Json} :
    isSecret app value = true ↔ TellsSecret app value := by
  cases app with
  | false =>
      have h : isSecret false value = true ↔ attributeText value ∈ secureTypes :=
        List.contains_iff_mem
      have hempty : "" ∉ secureTypes := by decide
      rw [h]
      constructor
      · intro hm
        -- Only texts and flags have a text of their own, and that of a flag is no secret type.
        cases value with
        | str name => exact .kind hm
        | bool b => cases b <;> exact absurd hm (by decide)
        | null | num | arr | obj => exact absurd hm hempty
      · rintro ⟨hm⟩
        exact hm
  | true =>
      have h : isSecret true value = true ↔ Text.lower (attributeText value) = "true" :=
        beq_iff_eq
      have hempty : Text.lower "" ≠ "true" := by decide
      rw [h]
      constructor
      · intro hl
        cases value with
        | str text => exact .mark hl
        | bool b =>
            cases b with
            | true => exact .flag
            | false => exact absurd hl (by decide)
        | null | num | arr | obj => exact absurd hl hempty
      · rintro (_ | hl | _)
        · exact hl
        · decide

/-- The question has been answered: it could be put, and the answer has passed. -/
def Succeeds : Except Failure Response → Prop
  | .ok response => response.passed = true
  | .error _ => False

/-- What is typed is masked upon this answer. -/
def Masks (app : Bool) : Except Failure Response → Prop
  | .ok response => TellsSecret app response.value
  | .error _ => True

/-- What is shown has the masks in place of what was typed, and is otherwise what was
given. -/
structure Hides (shown given : Json) : Prop where
  text : shown.get? "text" = some mask
  value : shown.get? "value" = some maskedKeys
  others : ∀ key, key ≠ "text" → key ≠ "value" → shown.get? key = given.get? key

theorem hides_masked (o : Object) : Hides (masked (.obj o)) (.obj o) where
  text := (Object.get?_insert_of_ne (by decide) _ _).trans (Object.get?_insert_self _ _ _)
  value := Object.get?_insert_self _ _ _
  others _ ht hv := (Object.get?_insert_of_ne hv.symm _ _).trans
    (Object.get?_insert_of_ne ht.symm _ _)

/-- The driver's answer to the question about the element of a command, in this world. -/
def probe {ω : Type} (env : Surroundings ω) (params : Json) (w : ω) : Except Failure Response :=
  (env.drive .getElementAttribute (question env.session (target params)) w).1

end Redaction

open Redaction

namespace Run

variable {ω : Type} {command : Command} {params : Json} (env : Surroundings ω) (r : Runner ω)

/-! ## The decision -/

theorem result_drive (purpose : Purpose) :
    result (drive purpose command params) env r = (env.drive command params r.world).1 := rfl

theorem holdsSecret_iff : result (holdsSecret (target params)) env r = true ↔
    Masks (isAndroidApp env.session) (probe env params r.world) := by
  unfold holdsSecret
  rw [result_bind, result_bind, result_drive]
  show result (match probe env params r.world with | .ok _ => _ | .error _ => _) env _ = true ↔ _
  cases probe env params r.world with
  | ok response => exact isSecret_iff
  | error e => exact iff_of_true rfl trivial

theorem redact_of_masks (hc : command.typesText = true)
    (h : Masks (isAndroidApp env.session) (probe env params r.world)) :
    result (redact command params) env r = masked params := by
  unfold redact
  rw [hc, if_neg (by decide), result_bind, if_pos ((holdsSecret_iff env r).2 h)]
  rfl

theorem redact_of_not_masks
    (h : ¬ Masks (isAndroidApp env.session) (probe env params r.world)) :
    result (redact command params) env r = params := by
  unfold redact
  split
  · rfl
  · rw [result_bind, if_neg (mt (holdsSecret_iff env r).1 h)]
    rfl

/-! ## What a report shows -/

/-- The parameters of a command as its report has them. -/
def shown (command : Command) (params : Json) : Run ω Json := do
  if (← switches).disableRedaction then pure params else redact command params

theorem result_shown (h : r.switches.disableRedaction = false) :
    result (shown command params) env r = result (redact command params) env r := by
  unfold shown
  rw [result_bind, result_switches, h]
  rfl

theorem commandReport_eq (command : Command) (params result : Json) (resolution : Resolution)
    (capture : CaptureRule) :
    (commandReport command params result resolution capture : Run ω CommandReport) = do
      let params ← shown command params
      let screenshot ← pictureIf (capture.applies resolution.passed)
      return ⟨command, params, result, resolution.passed, some resolution.message, screenshot⟩ := by
  unfold commandReport shown
  simp only [bind_assoc]
  congr 1
  funext sw
  split <;> rfl

/-- What is done for a command before it is reported: the policy and the driver's answer,
unless the implicit wait could not be set. -/
def carryOut (command : Command) (params : Json) :
    Run ω (Except Failure (StepPolicy × Except Failure Response)) := do
  noticeTest
  let policy ← policy
  match ← setImplicitWait policy.implicitWait with
  | .error e => return .error e
  | .ok () =>
      sleepAroundCommand command policy.sleepTiming policy.sleep .before
      let answer ← drive .request command params
      sleepAroundCommand command policy.sleepTiming policy.sleep .after
      return .ok (policy, answer)

theorem silent_carryOut (command : Command) (params : Json) :
    Obeys Runner.Silent (carryOut command params : Run ω _) := by
  refine .bind silent_noticeTest fun _ => .bind still_policy.silent fun policy => ?_
  refine .bind (still_setImplicitWait _).silent fun wait => ?_
  cases wait with
  | error e => exact .pure _
  | ok _ =>
      exact .bind (still_sleepAroundCommand _ _ _ _).silent fun _ =>
        .bind (still_drive _ _ _).silent fun _ =>
          .bind (still_sleepAroundCommand _ _ _ _).silent fun _ => .pure _

theorem execute_eq (command : Command) (params : Json) :
    (execute command params : Run ω _) = do
      match ← carryOut command params with
      | .error e => return .error e
      | .ok (policy, answer) =>
          reportCommand command params answer policy
          return answer := by
  unfold execute carryOut
  simp only [bind_assoc]
  congr 1; funext _
  congr 1; funext policy
  congr 1; funext wait
  cases wait with
  | error e => simp only [pure_bind]
  | ok _ => simp only [bind_assoc, pure_bind]

end Run

/-! ## The events of one command -/

/-- A command is asked for. -/
def Event.isRequest : Event → Bool
  | .called .request .. => true
  | _ => false

/-- Nothing has happened but events of this kind. -/
def Runner.Adds {ω : Type} (P : Event → Prop) (r r' : Runner ω) : Prop :=
  ∃ es, r'.trace = r.trace ++ es ∧ ∀ e ∈ es, P e

instance {ω : Type} {P : Event → Prop} : Runner.Law (@Runner.Adds ω P) where
  refl _ := ⟨[], (List.append_nil _).symm, List.forall_mem_nil _⟩
  trans h h' := by
    obtain ⟨es, he, hp⟩ := h
    obtain ⟨es', he', hp'⟩ := h'
    refine ⟨es ++ es', by rw [he', he, List.append_assoc], fun e hm => ?_⟩
    exact (List.mem_append.1 hm).elim (hp e) (hp' e)

/-- The event neither asks for a command nor puts a report of one together. -/
def Event.IsAside (e : Event) : Prop := e.building? = none ∧ e.isRequest = false

namespace Run

variable {ω : Type} {command : Command} {params : Json}

open Runner (Adds)
open Event (IsAside)

theorem adds_note (e : Log.Entry) : Obeys (Adds IsAside) (note e : Run ω Unit) :=
  fun _ _ => ⟨[.noted e], rfl, List.forall_mem_singleton.2 ⟨rfl, rfl⟩⟩

theorem adds_drive {purpose : Purpose} (h : purpose ≠ .request) (command : Command)
    (params : Json) : Obeys (Adds IsAside) (drive purpose command params : Run ω _) := by
  intro env r
  refine ⟨[.called purpose command params], rfl, List.forall_mem_singleton.2 ⟨rfl, ?_⟩⟩
  cases purpose with
  | request => exact absurd rfl h
  | timing | secrecy | picture => rfl

theorem adds_sleepAroundCommand (command : Command) (timing : SleepTiming) (ms : Nat)
    (phase : Phase) :
    Obeys (Adds IsAside) (sleepAroundCommand command timing ms phase : Run ω Unit) := by
  have hsleep : Obeys (Adds IsAside) (sleep ms : Run ω Unit) :=
    fun _ _ => ⟨[.slept (timer ms)], rfl, List.forall_mem_singleton.2 ⟨rfl, rfl⟩⟩
  unfold sleepAroundCommand sleepAround
  split
  · split
    · exact .bind (adds_note _) fun _ => hsleep
    · exact .pure _
  · exact .pure _

theorem adds_pictureIf (wanted : Bool) :
    Obeys (Adds IsAside) (pictureIf wanted : Run ω _) := by
  cases wanted with
  | false => exact .pure _
  | true =>
      refine .bind .read fun env => .bind (adds_drive (by decide) _ _) fun answer => ?_
      cases answer with
      | ok response =>
          dsimp only
          split
          · exact .bind (adds_note _) fun _ => .pure _
          · exact .pure _
      | error e => exact .bind (adds_note _) fun _ => .pure _

theorem adds_shown (command : Command) (params : Json) :
    Obeys (Adds IsAside) (shown command params : Run ω Json) := by
  have hsecret : ∀ element, Obeys (Adds IsAside) (holdsSecret element : Run ω Bool) := by
    intro element
    refine .bind .read fun env => .bind (adds_drive (by decide) _ _) fun answer => ?_
    cases answer with
    | ok response => exact .pure _
    | error e => exact .bind (adds_note _) fun _ => .pure _
  refine .bind (.bind .get fun _ => .pure _) fun sw => ?_
  split
  · exact .pure _
  · unfold redact
    split
    · exact .pure _
    · refine .bind (hsecret _) fun secret => ?_
      split
      · exact .bind (adds_note _) fun _ => .pure _
      · exact .pure _

/-- Every report of a command that these events put together is of this command and has
these parameters, and no other command is asked for before it. -/
def Reports (command : Command) (params : Json) (es : List Event) : Prop :=
  ∀ before c polled later, es = before ++ .built (.command c) polled :: later →
    c.command = command ∧ c.params = params ∧ ∀ e ∈ before, e.isRequest = false

theorem Reports.of_building {es : List Event} (h : ∀ e ∈ es, e.building? = none) :
    Reports command params es := by
  rintro before c polled later rfl
  cases h _ (List.mem_append_right _ List.mem_cons_self)

theorem Reports.built (c : CommandReport) (polled : Bool) {es : List Event}
    (h : ∀ e ∈ es, e.building? = none) :
    Reports c.command c.params (.built (.command c) polled :: es) := by
  intro before c' polled' later heq
  cases before with
  | nil =>
      obtain ⟨he, -⟩ := List.cons.inj heq
      cases he
      exact ⟨rfl, rfl, List.forall_mem_nil _⟩
  | cons e before =>
      obtain ⟨-, rfl⟩ := List.cons.inj heq
      cases h _ (List.mem_append_right _ List.mem_cons_self)

/-- An element of a list in two parts is in the first of them or in the second. -/
theorem cases_of_append_eq {α : Type} {xs ys before later : List α} {a : α}
    (h : xs ++ ys = before ++ a :: later) :
    (∃ mid, xs = before ++ a :: mid) ∨ ∃ mid, before = xs ++ mid ∧ ys = mid ++ a :: later := by
  rcases List.append_eq_append_iff.1 h with ⟨mid, hb, hy⟩ | ⟨mid, hx, hy⟩
  · exact .inr ⟨mid, hb, hy⟩
  · cases mid with
    | nil => exact .inr ⟨[], by simpa using hx.symm, by simpa using hy.symm⟩
    | cons b mid =>
        obtain ⟨rfl, -⟩ := List.cons.inj hy
        exact .inl ⟨mid, hx⟩

theorem exists_of_append_eq {α : Type} {xs ys before later : List α} {a : α}
    (h : xs ++ ys = before ++ a :: later) (hx : a ∉ xs) :
    ∃ mid, before = xs ++ mid ∧ ys = mid ++ a :: later := by
  rcases cases_of_append_eq h with ⟨mid, rfl⟩ | hmid
  · exact absurd (List.mem_append_right _ List.mem_cons_self) hx
  · exact hmid

theorem Reports.append {es es' : List Event} (h : ∀ e ∈ es, e.IsAside)
    (h' : Reports command params es') : Reports command params (es ++ es') := by
  intro before c polled later heq
  obtain ⟨mid, rfl, hes'⟩ := exists_of_append_eq heq fun hm => by cases (h _ hm).1
  obtain ⟨hc, hp, hmid⟩ := h' mid c polled later hes'
  refine ⟨hc, hp, fun e hm => ?_⟩
  exact (List.mem_append.1 hm).elim (fun hm => (h e hm).2) (hmid e)

/-- Of what happens while a report is sent, only the beginning puts one together. -/
theorem trace_submitCommand (report : CommandReport) (env : Surroundings ω) (r : Runner ω) :
    ∃ es, (after (submitCommand report) env r).trace =
        r.trace ++ .built (.command report) r.context.polling :: es ∧
      ∀ e ∈ es, e.building? = none := by
  obtain ⟨sw, aside, latest, current, excluded, ⟨policy, polling⟩, scopes, clock, made, trace,
    world⟩ := r
  cases polling with
  | true => exact ⟨[], rfl, List.forall_mem_nil _⟩
  | false =>
      cases aside with
      | none =>
          refine ⟨[.flushed sw.reportsCommands, .reported (.command report)], ?_, ?_⟩
          · show (trace ++ [_] ++ [_]) ++ [_] = _
            simp
          · simp [Event.building?]
      | some earlier =>
          refine ⟨[.flushed sw.reportsCommands, .reported (.command earlier),
            .reported (.command report)], ?_, ?_⟩
          · show ((trace ++ [_] ++ [_]) ++ [_]) ++ [_] = _
            simp
          · simp [Event.building?]

theorem adds_of_silent {α : Type} {m : Run ω α} (h : Obeys Runner.Silent m) :
    Obeys (Adds fun e => e.building? = none) m := by
  refine h.mono fun hs => ?_
  obtain ⟨es, he, hq⟩ := hs.trace
  exact ⟨es, he, fun e hm => (Event.eq_none_of_isQuiet (hq e hm).1).1⟩

theorem adds_clearStash :
    Obeys (Adds fun e => e.building? = none) (clearStash : Run ω Unit) := by
  intro env r
  obtain ⟨-, -, he⟩ := clearStash_spec env r
  refine ⟨_, he, List.forall_mem_cons.2 ⟨rfl, fun e hm => ?_⟩⟩
  obtain ⟨x, -, rfl⟩ := List.mem_map.1 hm
  rfl

theorem adds_reportQuit : Obeys (Adds fun e => e.building? = none) (reportQuit : Run ω Unit) := by
  refine .bind adds_clearStash fun _ => .bind (adds_of_silent still_switches.silent) fun sw => ?_
  split
  · exact adds_of_silent silent_reportTest
  · exact .pure _

/-- The report of a command shows what is to be shown of its parameters. -/
theorem trace_reportCommand (command : Command) (params : Json)
    (answer : Except Failure Response) (policy : StepPolicy) (env : Surroundings ω)
    (r : Runner ω) :
    ∃ es, (after (reportCommand command params answer policy) env r).trace = r.trace ++ es ∧
      Reports command (result (shown command params) env r) es := by
  unfold reportCommand
  split
  · obtain ⟨es, he, hb⟩ := adds_reportQuit env r
    exact ⟨es, he, .of_building hb⟩
  · generalize outcome answer = told
    obtain ⟨told, passed⟩ := told
    dsimp only
    generalize resolve passed policy.invert policy.alwaysPass = resolution
    rw [after_bind, result_switches, after_switches]
    split
    · rw [commandReport_eq, bind_assoc, after_bind, bind_assoc, after_bind, pure_bind]
      obtain ⟨es, he, ha⟩ := adds_shown command params env r
      generalize result (shown command params) env r = given
      generalize after (shown command params) env r = r₁ at he
      obtain ⟨es', he', ha'⟩ := adds_pictureIf (policy.capture.applies resolution.passed) env r₁
      generalize result (pictureIf (policy.capture.applies resolution.passed)) env r₁ = picture
      generalize after (pictureIf (policy.capture.applies resolution.passed)) env r₁ = r₂ at he'
      let report : CommandReport :=
        ⟨command, given, told, resolution.passed, some resolution.message, picture⟩
      obtain ⟨rest, hrest, hb⟩ := trace_submitCommand report env r₂
      refine ⟨_, hrest.trans ?_, .append ha (.append ha' (.built report r₂.context.polling hb))⟩
      rw [he', he, List.append_assoc, List.append_assoc]
    · exact ⟨_, rfl, .of_building (List.forall_mem_singleton.2 rfl)⟩

/-- While a command is carried out nothing is put together, and nothing else is asked for
after it. -/
theorem trace_carryOut (command : Command) (params : Json) (env : Surroundings ω)
    (r : Runner ω) :
    match result (carryOut command params) env r with
    | .error _ => Adds (fun e => e.building? = none) r (after (carryOut command params) env r)
    | .ok _ => ∃ sooner mid, (after (carryOut command params) env r).trace =
          r.trace ++ (sooner ++ .called .request command params :: mid) ∧
        (∀ e ∈ sooner, e.building? = none) ∧ ∀ e ∈ mid, e.IsAside := by
  unfold carryOut
  rw [result_bind, after_bind, result_bind, after_bind]
  have hpolicy := Runner.Law.trans (adds_of_silent silent_noticeTest env r)
    (adds_of_silent still_policy.silent env _)
  generalize after policy env (after noticeTest env r) = r₁ at hpolicy
  generalize result policy env (after noticeTest env r) = p
  rw [result_bind, after_bind]
  have hwait := Runner.Law.trans hpolicy (adds_of_silent
    (still_setImplicitWait p.implicitWait).silent env r₁)
  generalize after (setImplicitWait p.implicitWait) env r₁ = r₂ at hwait
  cases result (setImplicitWait p.implicitWait) env r₁ with
  | error e => exact hwait
  | ok _ =>
      obtain ⟨sooner, hs, hb⟩ := Runner.Law.trans hwait (adds_of_silent
        (still_sleepAroundCommand command p.sleepTiming p.sleep .before).silent env r₂)
      obtain ⟨mid, hm, ha⟩ := adds_sleepAroundCommand command p.sleepTiming p.sleep .after env
        (after (drive .request command params) env
          (after (sleepAroundCommand command p.sleepTiming p.sleep .before) env r₂))
      refine ⟨sooner, mid, hm.trans ?_, hb, ha⟩
      show (after (sleepAroundCommand command p.sleepTiming p.sleep .before) env r₂).trace ++ _ ++
        mid = _
      rw [hs]
      simp

/-- The report that is put together while a command is executed is of this command, which
has been asked for before, and shows what was to be shown of its parameters then. -/
theorem trace_execute (command : Command) (params : Json) (env : Surroundings ω)
    (r : Runner ω) :
    ∃ es, (after (execute command params) env r).trace = r.trace ++ es ∧
      ∀ before c polled later, es = before ++ .built (.command c) polled :: later →
        (c.command = command ∧
          c.params = result (shown command params) env (after (carryOut command params) env r)) ∧
        ∃ sooner mid, before = sooner ++ .called .request command params :: mid ∧
          ∀ e ∈ mid, e.isRequest = false := by
  rw [execute_eq, after_bind]
  have hcarried := trace_carryOut command params env r
  cases hresult : result (carryOut command params) env r with
  | error e =>
      rw [hresult] at hcarried
      obtain ⟨es, he, hb⟩ := hcarried
      refine ⟨es, he, ?_⟩
      rintro before c polled later rfl
      cases hb _ (List.mem_append_right _ List.mem_cons_self)
  | ok x =>
      rw [hresult] at hcarried
      obtain ⟨sooner, mid, he, hb, ha⟩ := hcarried
      obtain ⟨policy, answer⟩ := x
      obtain ⟨es, he', hr⟩ := trace_reportCommand command params answer policy env
        (after (carryOut command params) env r)
      refine ⟨sooner ++ .called .request command params :: (mid ++ es), ?_, ?_⟩
      · refine he'.trans ?_
        rw [he]
        simp
      · intro before c polled later heq
        -- Nothing is put together up to the request, so the report comes after it.
        rw [List.append_cons] at heq
        obtain ⟨mid', rfl, hmid⟩ := exists_of_append_eq heq fun hm => by
          rcases List.mem_append.1 hm with hm | hm
          · cases hb _ hm
          · cases List.mem_singleton.1 hm
        obtain ⟨hc, hp, hq⟩ := (hr.append ha) mid' c polled later hmid
        exact ⟨⟨hc, hp⟩, sooner, mid', by simp, hq⟩

end Run

/-! ## Failing safe -/

namespace Redaction

open Run

/-- In a session of this kind the question about the element of a command gets this answer. -/
def Answered {ω : Type} (app : Bool) (answer : Except Failure Response) (env : Surroundings ω)
    (params : Json) (w : ω) : Prop :=
  isAndroidApp env.session = app ∧ probe env params w = answer

/-- What it means that redaction is on the safe side when this is the answer. -/
structure FailsSafe (app : Bool) (answer : Except Failure Response) : Prop where
  /-- Unless the question has been answered, the typed text is masked. -/
  masked : ∀ {ω : Type} (env : Surroundings ω) (r : Runner ω) (command : Command) (o : Object),
    command.typesText = true → Answered app answer env (.obj o) r.world → ¬ Succeeds answer →
    Hides (result (redact command (.obj o)) env r) (.obj o)
  /-- And no report that is put together while the command is executed has it. -/
  reported : ∀ {ω : Type} (env : Surroundings ω) (r : Runner ω) (command : Command) (o : Object),
    command.typesText = true →
    r.switches.disableRedaction = false →
    Answered app answer env (.obj o) (after (carryOut command (.obj o)) env r).world →
    ¬ Succeeds answer →
    ∃ es, (after (execute command (.obj o)) env r).trace = r.trace ++ es ∧
      ∀ c polled, .built (.command c) polled ∈ es → Hides c.params (.obj o)
  /-- Only an answer that has passed and tells no secret leaves the text visible. -/
  visible : ∀ {ω : Type} (env : Surroundings ω) (r : Runner ω) (command : Command) (o : Object),
    command.typesText = true → Answered app answer env (.obj o) r.world →
    ¬ Hides (result (redact command (.obj o)) env r) (.obj o) →
    Succeeds answer ∧ ¬ Masks app answer

variable {app : Bool} {answer : Except Failure Response}

theorem hides_of_masks {ω : Type} {env : Surroundings ω} {r : Runner ω} {command : Command}
    {o : Object} (hc : command.typesText = true) (h : Answered app answer env (.obj o) r.world)
    (hm : Masks app answer) : Hides (result (redact command (.obj o)) env r) (.obj o) := by
  obtain ⟨rfl, rfl⟩ := h
  rw [redact_of_masks env r hc hm]
  exact hides_masked o

/-- A session of either kind. -/
def plainSession (app : Bool) : Session :=
  ⟨none, "session", .w3c, if app then [("platformName", .str "android")] else []⟩

/-- A driver that gives the same answer to everything. -/
def steadySurroundings (app : Bool) (answer : Except Failure Response) : Surroundings Unit where
  session := plainSession app
  drive _ _ _ := (answer, ())
  report _ _ := ()
  runAction a _ := (⟨.error (.addonNotInstalled a.guid a.className), []⟩, ())
  runCodeblock _ _ _ := (⟨.ok ⟨.passed, "", none⟩, []⟩, ())
  guid _ := "step"

theorem answered_steadySurroundings (params : Json) :
    Answered app answer (steadySurroundings app answer) params () := by
  have h : ∀ app, isAndroidApp (plainSession app) = app := by decide
  exact ⟨h app, rfl⟩

/-- Redaction is on the safe side of an answer unless it has not passed and has a value that
tells no secret. -/
theorem failsSafe_iff : FailsSafe app answer ↔ Succeeds answer ∨ Masks app answer := by
  constructor
  · intro h
    refine Classical.or_iff_not_imp_left.2 fun hs => ?_
    by_cases hm : Masks app answer
    · exact hm
    · -- A driver that always answers so would have a text shown, although it has not passed.
      have ha : Answered app answer (steadySurroundings app answer) (.obj []) () :=
        answered_steadySurroundings _
      have hh := h.masked _ (.ofConfig .default ()) .sendKeysToElement [] rfl ha hs
      rw [redact_of_not_masks _ _ (by rw [ha.1]; exact ha.2.symm ▸ hm)] at hh
      cases hh.text
  · intro h
    have hmasks : ¬ Succeeds answer → Masks app answer := fun hs => h.resolve_left hs
    constructor
    · intro ω env r command o hc ha hs
      exact hides_of_masks hc ha (hmasks hs)
    · intro ω env r command o hc hsw ha hs
      rw [← (silent_carryOut command (.obj o) env r).switches] at hsw
      obtain ⟨es, he, hbuilt⟩ := trace_execute command (.obj o) env r
      refine ⟨es, he, fun c polled hmem => ?_⟩
      obtain ⟨before, later, rfl⟩ := List.append_of_mem hmem
      obtain ⟨⟨-, hp⟩, -⟩ := hbuilt before c polled later rfl
      rw [hp, result_shown env _ hsw]
      exact hides_of_masks hc ha (hmasks hs)
    · intro ω env r command o hc ha hn
      have hm : ¬ Masks app answer := fun hm => hn (hides_of_masks hc ha hm)
      exact ⟨h.resolve_right hm, hm⟩

/-- That there is no such element is an answer that has not passed, and it is not taken for
a failure: the text typed into a page stays as it is. -/
theorem not_failsSafe_no_such_element :
    ¬ FailsSafe false (.ok ⟨some 7, .str "no such element"⟩) ∧
    (result (redact .sendKeysToElement (.obj [("id", .str "el-1"), ("text", .str "hunter2")]))
      (steadySurroundings false (.ok ⟨some 7, .str "no such element"⟩))
      (.ofConfig .default ())).get? "text" = some (.str "hunter2") := by
  refine ⟨fun h => ?_, rfl⟩
  have hs : ¬ Succeeds (.ok ⟨some 7, .str "no such element"⟩) :=
    show (Response.mk (some 7) (.str "no such element")).passed ≠ true by decide
  have hshown := h.masked (steadySurroundings false (.ok ⟨some 7, .str "no such element"⟩))
    (.ofConfig .default ()) .sendKeysToElement [("id", .str "el-1"), ("text", .str "hunter2")]
    rfl (answered_steadySurroundings _) hs
  have htext : Json.str "hunter2" = .str "***" := Option.some.inj hshown.text
  exact absurd (Json.str.inj htext) (by decide)

end Redaction
end Courier
