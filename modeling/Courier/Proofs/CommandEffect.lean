import Courier.Proofs.Masking
import Courier.Proofs.TestReports
import Mathlib

/-!
# What executing a command does

It is written down here without running anything: which calls are made and what they are
answered, what the report has in it, what is put aside at the end and what comes back. The
answers depend on the world at the time of the call, and the world is the work of the events
before it; so the events are told first, and a call is answered in the world that they make.

The other half of the module goes through the pieces a command is executed with and shows of
each which deeds it adds, that the world is the work of these deeds, and what it leaves aside.
Put together this is what was written down before.
-/

namespace Courier

open Desk (released)

/-! ## Calls and deeds -/

/-- A call to the driver. -/
structure Drive where
  purpose : Purpose
  command : Command
  params : Json

/-- The call as an event. -/
def Drive.event (c : Drive) : Event := .called c.purpose c.command c.params

namespace Event

/-- The call that an event is, if it is one. -/
def call? : Event → Option Drive
  | .called purpose command params => some ⟨purpose, command, params⟩
  | _ => none

/-- The event is more than a line in the log. -/
def isDeed : Event → Bool
  | .noted _ => false
  | _ => true

end Event

namespace Runner

variable {ω : Type} (r : Runner ω)

/-- The calls that the driver has got. -/
def calls : List Drive := r.trace.filterMap Event.call?

/-- All that has happened, apart from lines in the log. -/
def deeds : List Event := r.trace.filter Event.isDeed

/-- What has nothing to do with the log can be read off the deeds. -/
theorem filterMap_trace {γ : Type} {f : Event → Option γ} (h : ∀ e, f (.noted e) = none) :
    r.trace.filterMap f = r.deeds.filterMap f := by
  rw [deeds, List.filterMap_filter]
  congr 1
  funext e
  cases e with
  | noted e => exact h e
  | called | slept | built | flushed | reported | adjusted | ranAction | ranCodeblock => rfl

end Runner

namespace Surroundings

variable {ω : Type} (env : Surroundings ω)

/-- What the driver answers to a call. -/
def answer (c : Drive) (w : ω) : Except Failure Response := (env.drive c.command c.params w).1

/-- What an event makes of the world: only calls and reports make a difference to it. -/
def effect (w : ω) : Event → ω
  | .called _ command params => (env.drive command params w).2
  | .reported report => env.report report w
  | .ranAction a => (env.runAction a w).2
  | .ranCodeblock guid body => (env.runCodeblock guid body w).2
  | .slept _ | .built .. | .flushed _ | .adjusted .. | .noted _ => w

/-- What events make of the world, one after the other. -/
def worldAfter (es : List Event) (w : ω) : ω := es.foldl env.effect w

theorem worldAfter_append (es es' : List Event) (w : ω) :
    env.worldAfter (es ++ es') w = env.worldAfter es' (env.worldAfter es w) :=
  List.foldl_append

end Surroundings

/-! ## The calls that may be made -/

/-- The implicit wait is set in the words of the dialect, if it is positive. -/
def waitCall? (s : Session) (ms : Int) : Option Drive :=
  if 0 < ms then
    some ⟨.timing, (Run.implicitWaitCall s ms).1, (Run.implicitWaitCall s ms).2⟩
  else none

/-- The driver is asked about the element that is typed into, if secrets are masked. -/
def probeCall? (s : Session) (masks : Bool) (command : Command) (params : Json) : Option Drive :=
  if command.typesText && masks then
    some ⟨.secrecy, .getElementAttribute, Redaction.question s (Redaction.target params)⟩
  else none

/-- The screen is pictured, if a picture is wanted. -/
def pictureCall? (s : Session) (wanted : Bool) : Option Drive :=
  if wanted then some ⟨.picture, .screenshot, .object [("sessionId", .str s.id)]⟩ else none

/-- The failure that an answer is, if it is one. -/
def failureOf : Except Failure Response → Option Failure
  | .ok _ => none
  | .error e => some e

/-- Whether what is typed is masked upon this answer. -/
def maskedUpon (s : Session) : Except Failure Response → Bool
  | .ok response => Redaction.isSecret (Redaction.isAndroidApp s) response.value
  | .error _ => true

/-- The picture in an answer, if there is one. -/
def pictureIn : Except Failure Response → Option String
  | .ok response => Screenshot.ofAnswer? response.value
  | .error _ => none

/-- The sleep on one side of a command or a step. -/
def StepPolicy.rest (p : StepPolicy) (phase : Phase) : List Event :=
  if p.sleepTiming.applies phase && 0 < p.sleep then [.slept (timer p.sleep)] else []

/-- There is no sleep around the command that ends the session. -/
def sleepEvents (command : Command) (policy : StepPolicy) (phase : Phase) : List Event :=
  if command.isQuit then [] else policy.rest phase

/-! ## What commands and steps begin with -/

namespace Runner

variable {ω : Type} (r : Runner ω)

/-- The runner that has noticed the name of the running test. -/
def noticed : Runner ω := if r.testChanged then r.caughtUp else r

theorem noticed_switches : r.noticed.switches = r.switches := by
  unfold noticed
  split <;> rfl

theorem noticed_context : r.noticed.context = r.context := by
  unfold noticed
  split <;> rfl

theorem noticed_world : r.noticed.world = r.world := by
  unfold noticed
  split <;> rfl

theorem noticed_deeds : r.noticed.deeds = r.deeds := by
  unfold noticed
  split <;> rfl

end Runner

/-- A runner that is about to do something in these surroundings. -/
structure Occasion (ω : Type) where
  env : Surroundings ω
  runner : Runner ω

namespace Occasion

variable {ω : Type} (x : Occasion ω)

/-- The policy that is in force. -/
def policy : StepPolicy := x.runner.context.policy

/-- The test before this one is announced, if it is over and to be reported by itself. -/
def announcement : List Event := announced x.runner.context.polling x.runner.testOver

/-- The call that sets the implicit wait, if it is to be set. -/
def wait? : Option Drive := waitCall? x.env.session x.policy.implicitWait

/-- What happens up to the call for the implicit wait. -/
def waited : List Event := x.announcement ++ x.wait?.toList.map Drive.event

/-- Why the driver refuses to wait, if it does. -/
def refusal? : Option Failure :=
  x.wait?.bind fun c =>
    failureOf (x.env.answer c (x.env.worldAfter x.announcement x.runner.world))

end Occasion

/-! ## The course of a command -/

/-- A command that is executed by this runner in these surroundings. -/
structure Execution (ω : Type) extends Occasion ω where
  command : Command
  params : Json

namespace Execution

variable {ω : Type} (x : Execution ω)

/-- The command itself, with the parameters it was given. -/
def request : Drive := ⟨.request, x.command, x.params⟩

/-- What happens before the command itself is sent. -/
def beforeRequest : List Event := x.waited ++ sleepEvents x.command x.policy .before

/-- The answer to the command. -/
def answer : Except Failure Response :=
  x.env.answer x.request (x.env.worldAfter x.beforeRequest x.runner.world)

/-- What happens until the sleep after the command is over. -/
def afterRequest : List Event :=
  x.beforeRequest ++ [x.request.event] ++ sleepEvents x.command x.policy .after

/-- The outcome of the command, as the policy judges it. -/
def resolution : Resolution :=
  resolve (Run.outcome x.answer).2 x.policy.invert x.policy.alwaysPass

/-- The question whether what is typed is a secret, if it is to be asked. -/
def probe? : Option Drive :=
  probeCall? x.env.session (!x.runner.switches.disableRedaction) x.command x.params

/-- What is typed is masked in the report. -/
def isMasked : Bool := x.probe?.any fun c =>
  maskedUpon x.env.session (x.env.answer c (x.env.worldAfter x.afterRequest x.runner.world))

/-- The call for a picture, if the outcome asks for one. -/
def picture? : Option Drive :=
  pictureCall? x.env.session (x.policy.capture.applies x.resolution.passed)

/-- The picture, taken after the driver has been asked about the element. -/
def picture : Option String := x.picture?.bind fun c =>
  pictureIn (x.env.answer c
    (x.env.worldAfter (x.afterRequest ++ x.probe?.toList.map Drive.event) x.runner.world))

/-- The report of the command. -/
def report : CommandReport where
  command := x.command
  params := if x.isMasked then Redaction.masked x.params else x.params
  result := (Run.outcome x.answer).1
  passed := x.resolution.passed
  message := some x.resolution.message
  screenshot := x.picture

/-- What is put aside has its turn, and what is still due of tests is reported. -/
def farewell : List Event :=
  .flushed x.runner.switches.reportsCommands ::
    (released x.runner.stash x.runner.switches.reportsCommands).map .reported ++
    announced x.runner.context.polling
      (if x.runner.switches.disableAutoTestReports then none else x.runner.noticed.testDue)

/-- The report is put together; outside of waits it leaves at once, right after what was aside. -/
def telling : List Event :=
  x.probe?.toList.map Drive.event ++ x.picture?.toList.map Drive.event ++
    .built (.command x.report) x.runner.context.polling ::
    if x.runner.context.polling then []
    else .flushed true :: (released x.runner.stash true ++ [Report.command x.report]).map .reported

/-- What happens after the command, up to the end. -/
def closing : List Event :=
  if x.command.isQuit then x.farewell
  else if x.runner.switches.reportsCommands then x.telling
  else []

/-- The report that is aside at the end of a command that was sent. -/
def left : Option CommandReport :=
  if x.command.isQuit then none
  else if x.runner.switches.reportsCommands then
    if x.runner.context.polling then some x.report else none
  else x.runner.stash

/-! ### All of it -/

/-- All that happens, in order; nothing does after the driver has refused to wait. -/
def deeds : List Event :=
  if x.refusal?.isSome then x.waited else x.afterRequest ++ x.closing

/-- The calls that the driver gets, in order. -/
def calls : List Drive :=
  x.wait?.toList ++
    if x.refusal?.isSome then []
    else x.request ::
      if !x.command.isQuit && x.runner.switches.reportsCommands then
        x.probe?.toList ++ x.picture?.toList
      else []

/-- The reports of commands and steps that are put together. -/
def reports : List Report :=
  if !x.refusal?.isSome && !x.command.isQuit && x.runner.switches.reportsCommands then
    [.command x.report]
  else []

/-- The report that is aside at the end. -/
def aside : Option CommandReport :=
  if x.refusal?.isSome then x.runner.stash else x.left

/-- What the caller gets. -/
def result : Except Failure Response := x.refusal?.elim x.answer .error

end Execution

/-! ## What the pieces come to -/

/-- These deeds have been done, the world is their work, and apart from what is aside now the
runner remembers what it did. -/
structure Runner.Comes {ω : Type} (env : Surroundings ω) (ds : List Event)
    (aside : Option CommandReport) (r r' : Runner ω) : Prop where
  memory : r'.memory = { r.memory with stash := aside }
  deeds : r'.deeds = r.deeds ++ ds
  world : r'.world = env.worldAfter ds r.world

namespace Runner.Comes

variable {ω : Type} {env : Surroundings ω} {r r' r'' : Runner ω} {ds ds' : List Event}
  {aside aside' : Option CommandReport}

theorem refl : Comes env [] r.stash r r := ⟨rfl, (List.append_nil _).symm, rfl⟩

theorem trans (h : Comes env ds aside r r') (h' : Comes env ds' aside' r' r'') :
    Comes env (ds ++ ds') aside' r r'' where
  memory := by rw [h'.memory, h.memory]
  deeds := by rw [h'.deeds, h.deeds, List.append_assoc]
  world := by rw [h'.world, h.world, env.worldAfter_append]

theorem deed {e : Event} (he : e.isDeed = true) (clock : Nat) :
    Comes env [e] r.stash r
      { r with trace := r.trace ++ [e], world := env.effect r.world e, clock := clock } where
  memory := rfl
  deeds := (List.filter_append _ _).trans (congrArg _ (List.filter_cons_of_pos he))
  world := rfl

variable (h : Comes env ds aside r r')

include h

theorem stash : r'.stash = aside := (congrArg Runner.stash h.memory :)

theorem switches : r'.switches = r.switches := (congrArg Runner.switches h.memory :)

theorem context : r'.context = r.context := (congrArg Runner.context h.memory :)

theorem caughtUp : Comes env ds aside r.caughtUp r'.caughtUp where
  memory := congrArg Runner.caughtUp h.memory
  deeds := h.deeds
  world := h.world

end Runner.Comes

namespace Run

variable {ω α β : Type}

open Runner (Comes)

/-- Begun with this runner the run returns this, with these deeds, and leaves this aside. -/
structure Does (env : Surroundings ω) (r : Runner ω) (m : Run ω α) (ds : List Event)
    (aside : Option CommandReport) (a : α) : Prop where
  result : result m env r = a
  comes : Comes env ds aside r (after m env r)

section Rules

variable {env : Surroundings ω} {r : Runner ω} {m : Run ω α} {f : α → Run ω β}
  {ds ds' : List Event} {aside aside' : Option CommandReport} {a : α} {b : β}

theorem does_pure (a : α) : Does env r (pure a) [] r.stash a := ⟨rfl, .refl⟩

theorem does_read : Does env r MonadReader.read [] r.stash env := ⟨rfl, .refl⟩

theorem does_switches : Does env r switches [] r.stash r.switches := ⟨rfl, .refl⟩

theorem does_bind (hm : Does env r m ds aside a)
    (hf : ∀ r', Comes env ds aside r r' → Does env r' (f a) ds' aside' b) :
    Does env r (m >>= f) (ds ++ ds') aside' b := by
  obtain ⟨rfl, hc⟩ := hm
  obtain ⟨hr, hc'⟩ := hf _ hc
  exact ⟨hr, hc.trans hc'⟩

/-- What is aside stays there if it does in both parts. -/
theorem does_bind_same (hm : Does env r m ds r.stash a)
    (hf : ∀ r', Comes env ds r.stash r r' → Does env r' (f a) ds' r'.stash b) :
    Does env r (m >>= f) (ds ++ ds') r.stash b :=
  does_bind hm fun r' h => h.stash ▸ hf r' h

variable {start : Runner ω} {before : List Event} {Q : β → Runner ω → Prop}

/-- A run goes on from where its first part has come to. -/
theorem comes_bind (h : Comes env before aside start r) (hm : Does env r m ds aside' a)
    (hf : ∀ r', Comes env (before ++ ds) aside' start r' →
      Q (result (f a) env r') (after (f a) env r')) :
    Q (result (m >>= f) env r) (after (m >>= f) env r) := by
  obtain ⟨rfl, hc⟩ := hm
  exact hf _ (h.trans hc)

theorem comes_bind_same (h : Comes env before aside start r) (hm : Does env r m ds r.stash a)
    (hf : ∀ r', Comes env (before ++ ds) aside start r' →
      Q (result (f a) env r') (after (f a) env r')) :
    Q (result (m >>= f) env r) (after (m >>= f) env r) := by
  rw [h.stash] at hm
  exact comes_bind h hm hf

end Rules

variable (env : Surroundings ω) (r : Runner ω)

theorem does_note (e : Log.Entry) : Does env r (note e) [] r.stash () :=
  ⟨rfl, rfl, List.filter_append _ _, rfl⟩

theorem does_drive (purpose : Purpose) (command : Command) (params : Json) :
    Does env r (drive purpose command params) [.called purpose command params] r.stash
      (env.answer ⟨purpose, command, params⟩ r.world) :=
  ⟨rfl, .deed rfl r.clock⟩

theorem does_sleep (ms : Nat) : Does env r (sleep ms) [.slept (timer ms)] r.stash () :=
  ⟨rfl, .deed rfl _⟩

theorem does_build (x : Report) :
    Does env r (build x) [.built x r.context.polling] r.stash () :=
  ⟨rfl, .deed rfl r.clock⟩

theorem does_deliver (x : Report) : Does env r (deliver x) [.reported x] r.stash () :=
  ⟨rfl, .deed rfl r.clock⟩

/-! ### The test before this one -/

theorem does_reportTest :
    Does env r reportTest (announced r.context.polling r.testDue) r.stash () := by
  refine ⟨rfl, ?_⟩
  show Comes env _ r.stash r (after (if r.latestTest == Config.unnamedTest then _ else _) env r)
  by_cases hn : r.latestTest = Config.unnamedTest
  · rw [if_pos (by simpa using hn), Runner.testDue, if_pos (.inl hn)]
    exact .refl
  rw [if_neg (by simpa using hn)]
  by_cases hd : r.switches.disableReports = true
  · rw [if_pos hd, Runner.testDue, if_pos (.inr (.inl hd))]
    exact (does_note env r _).comes
  rw [if_neg hd]
  by_cases hx : r.latestTest ∈ r.excludedTests
  · rw [if_pos (by simpa using hx), Runner.testDue, if_pos (.inr (.inr hx))]
    exact (does_note env r _).comes
  rw [if_neg (by simpa using hx), Runner.testDue, if_neg (by simp [hn, hd, hx])]
  exact (does_build env r _).comes.trans (does_deliver env (after (build _) env r) _).comes

theorem comes_noticeTest :
    Comes env (announced r.context.polling r.testOver) r.stash r.noticed
      (after noticeTest env r) := by
  rw [after_noticeTest, Runner.testOver, Runner.noticed]
  cases r.testChanged with
  | false => exact .refl
  | true =>
      cases r.switches.disableAutoTestReports with
      | true => exact (Comes.refl : Comes env [] r.stash r r).caughtUp
      | false => exact (does_reportTest env r).comes.caughtUp

/-! ### Calls -/

theorem does_setImplicitWait (ms : Int) :
    Does env r (setImplicitWait ms) ((waitCall? env.session ms).toList.map Drive.event) r.stash
      (((waitCall? env.session ms).bind fun c => failureOf (env.answer c r.world)).elim (.ok ())
        .error) := by
  unfold setImplicitWait waitCall?
  by_cases h : ms ≤ 0
  · rw [if_pos h, if_neg (not_lt.2 h)]
    exact does_pure _
  · rw [if_neg h, if_pos (not_le.1 h)]
    refine does_bind_same (does_note env r _) fun r₁ h₁ => ?_
    refine does_bind_same does_read fun r₂ h₂ => ?_
    have hworld : r₂.world = r.world := h₂.world.trans h₁.world
    dsimp only
    generalize implicitWaitCall env.session ms = call
    refine does_bind_same (does_drive env r₂ .timing _ _) fun r₃ h₃ => ?_
    rw [hworld, Option.bind_some]
    cases env.answer ⟨.timing, call.1, call.2⟩ r.world with
    | ok response => exact does_pure _
    | error e => exact does_pure _

theorem does_sleepAround (p : StepPolicy) (phase : Phase) :
    Does env r (sleepAround p.sleepTiming p.sleep phase) (p.rest phase) r.stash () := by
  unfold sleepAround StepPolicy.rest
  split
  · exact does_bind_same (does_note env r _) fun r' _ => does_sleep env r' _
  · exact does_pure ()

theorem does_sleepAroundCommand (command : Command) (policy : StepPolicy) (phase : Phase) :
    Does env r (sleepAroundCommand command policy.sleepTiming policy.sleep phase)
      (sleepEvents command policy phase) r.stash () := by
  unfold sleepAroundCommand sleepEvents
  cases command.isQuit with
  | true => exact does_pure ()
  | false => exact does_sleepAround env r policy phase

theorem does_pictureIf (wanted : Bool) :
    Does env r (pictureIf wanted)
      ((pictureCall? env.session wanted).toList.map Drive.event) r.stash
      ((pictureCall? env.session wanted).bind fun c => pictureIn (env.answer c r.world)) := by
  cases wanted with
  | false => exact does_pure none
  | true =>
      refine does_bind_same does_read fun r₁ h₁ => ?_
      refine does_bind_same (does_drive env r₁ .picture _ _) fun r₂ h₂ => ?_
      rw [h₁.world]
      show Does env r₂ _ _ _ (pictureIn (env.answer _ (env.worldAfter [] r.world)))
      cases env.answer ⟨.picture, .screenshot, .object [("sessionId", .str env.session.id)]⟩
          (env.worldAfter [] r.world) with
      | error e => exact does_bind_same (does_note env r₂ _) fun _ _ => does_pure none
      | ok response =>
          dsimp only
          split
          · exact does_bind_same (does_note env r₂ _) fun _ _ => does_pure _
          · exact does_pure _

theorem does_holdsSecret (element : Json) :
    Does env r (holdsSecret element)
      [.called .secrecy .getElementAttribute (Redaction.question env.session element)] r.stash
      (maskedUpon env.session (env.answer
        ⟨.secrecy, .getElementAttribute, Redaction.question env.session element⟩ r.world)) := by
  refine does_bind_same does_read fun r₁ h₁ => ?_
  refine does_bind_same (does_drive env r₁ .secrecy _ _) fun r₂ h₂ => ?_
  rw [h₁.world]
  show Does env r₂ _ _ _ (maskedUpon env.session (env.answer _ (env.worldAfter [] r.world)))
  cases env.answer ⟨.secrecy, .getElementAttribute, Redaction.question env.session element⟩
      (env.worldAfter [] r.world) with
  | ok response => exact does_pure _
  | error e => exact does_bind_same (does_note env r₂ _) fun _ _ => does_pure true

theorem does_shown (command : Command) (params : Json) :
    Does env r (shown command params)
      ((probeCall? env.session (!r.switches.disableRedaction) command params).toList.map
        Drive.event) r.stash
      (if (probeCall? env.session (!r.switches.disableRedaction) command params).any fun c =>
          maskedUpon env.session (env.answer c r.world)
        then Redaction.masked params else params) := by
  unfold probeCall?
  refine does_bind_same does_switches fun r₁ h₁ => ?_
  cases r.switches.disableRedaction with
  | true =>
      rw [Bool.not_true, Bool.and_false]
      exact does_pure params
  | false =>
      unfold redact
      cases command.typesText with
      | false => exact does_pure params
      | true =>
          refine does_bind_same (does_holdsSecret env r₁ _) fun r₂ h₂ => ?_
          rw [h₁.world]
          show Does env r₂ _ _ _
            (if maskedUpon env.session (env.answer _ (env.worldAfter [] r.world)) then _ else _)
          cases maskedUpon env.session (env.answer ⟨.secrecy, .getElementAttribute,
              Redaction.question env.session (Redaction.target params)⟩
              (env.worldAfter [] r.world)) with
          | true => exact does_bind_same (does_note env r₂ _) fun _ _ => does_pure _
          | false => exact does_pure params

/-! ### What is put aside -/

theorem does_takeStash :
    Does env r takeStash [.flushed r.switches.reportsCommands] none r.stash :=
  ⟨rfl, rfl, (List.filter_append _ _).trans rfl, rfl⟩

theorem does_clearStash :
    Does env r clearStash (.flushed r.switches.reportsCommands ::
      (released r.stash r.switches.reportsCommands).map .reported) none () := by
  refine does_bind (does_takeStash env r) fun r₁ h₁ => ?_
  have hstash : r₁.stash = none := h₁.stash
  cases r.stash with
  | none =>
      have hpure : Does env r₁ (pure ()) [] r₁.stash () := does_pure ()
      rw [hstash] at hpure
      rw [Desk.released_none]
      exact hpure
  | some report =>
      rw [← hstash]
      refine does_bind_same does_switches fun r₂ h₂ => ?_
      rw [h₁.switches]
      cases r.switches.reportsCommands with
      | true => exact does_deliver env r₂ _
      | false => exact does_pure ()

theorem does_sendAfterStash (x : Report) :
    Does env r (sendAfterStash x) (.built x r.context.polling ::
      .flushed r.switches.reportsCommands ::
        (released r.stash r.switches.reportsCommands ++ [x]).map .reported) none () := by
  rw [List.map_append]
  refine does_bind (does_build env r x) fun r₁ h₁ => ?_
  have hclear := does_clearStash env r₁
  rw [h₁.switches, h₁.stash] at hclear
  exact does_bind hclear fun r₂ h₂ => h₂.stash ▸ does_deliver env r₂ x

/-- Outside of waits a command is sent like a step; in a wait it is put aside. -/
theorem does_submitCommand (report : CommandReport) (h : r.switches.reportsCommands = true) :
    Does env r (submitCommand report) (.built (.command report) r.context.polling ::
      if r.context.polling then []
      else .flushed true :: (released r.stash true ++ [Report.command report]).map .reported)
      (if r.context.polling then some report else none) () := by
  refine ⟨rfl, ?_⟩
  cases hp : r.context.polling with
  | true =>
      rw [after_submitCommand_polling report env hp]
      exact ⟨rfl, (List.filter_append _ _).trans rfl, rfl⟩
  | false =>
      rw [after_submitCommand report env h hp]
      have hsend := (does_sendAfterStash env r (.command report)).comes
      rw [h, hp] at hsend
      exact hsend

/-! ### Reports -/

theorem does_reportQuit :
    Does env r reportQuit (.flushed r.switches.reportsCommands ::
      (released r.stash r.switches.reportsCommands).map .reported ++
        announced r.context.polling
          (if r.switches.disableAutoTestReports then none else r.testDue)) none () := by
  refine does_bind (does_clearStash env r) fun r₁ h₁ => ?_
  have hdue : r₁.testDue = r.testDue := (congrArg Runner.testDue h₁.memory :)
  rw [← h₁.stash, ← h₁.context, ← hdue]
  refine does_bind_same does_switches fun r₂ h₂ => ?_
  have hdue₂ : r₂.testDue = r₁.testDue := (congrArg Runner.testDue h₂.memory :)
  rw [h₁.switches, ← h₂.context, ← hdue₂]
  cases r.switches.disableAutoTestReports with
  | true => exact does_pure ()
  | false => exact does_reportTest env r₂

/-- The report of a command, put together from the outcome as the policy judges it. -/
theorem does_commandReport (command : Command) (params result : Json) (resolution : Resolution)
    (capture : CaptureRule) :
    let probe := probeCall? env.session (!r.switches.disableRedaction) command params
    let picture := pictureCall? env.session (capture.applies resolution.passed)
    Does env r (commandReport command params result resolution capture)
      (probe.toList.map Drive.event ++ picture.toList.map Drive.event) r.stash
      ⟨command,
        if probe.any fun c => maskedUpon env.session (env.answer c r.world) then
          Redaction.masked params
        else params,
        result, resolution.passed, some resolution.message,
        picture.bind fun c => pictureIn
          (env.answer c (env.worldAfter (probe.toList.map Drive.event) r.world))⟩ := by
  intro probe picture
  rw [commandReport_eq]
  refine does_bind_same (does_shown env r command params) fun r₁ h₁ => ?_
  rw [← List.append_nil (picture.toList.map Drive.event)]
  refine does_bind_same (does_pictureIf env r₁ _) fun r₂ h₂ => ?_
  rw [h₁.world]
  exact does_pure _

end Run

/-! ## The course is taken -/

namespace Occasion

variable {ω : Type} {x : Occasion ω} {r : Runner ω} {before : List Event}
  {aside : Option CommandReport}

open Run
open Runner (Comes)

theorem comes_noticed : Comes x.env x.announcement x.runner.stash x.runner.noticed
    (after noticeTest x.env x.runner) := comes_noticeTest x.env x.runner

theorem world_of_comes (h : Comes x.env before aside x.runner.noticed r) :
    r.world = x.env.worldAfter before x.runner.world := by
  rw [h.world, Runner.noticed_world]

theorem switches_of_comes (h : Comes x.env before aside x.runner.noticed r) :
    r.switches = x.runner.switches := h.switches.trans x.runner.noticed_switches

theorem context_of_comes (h : Comes x.env before aside x.runner.noticed r) :
    r.context = x.runner.context := h.context.trans x.runner.noticed_context

theorem result_policy (h : Comes x.env before aside x.runner.noticed r) :
    result Run.policy x.env r = x.policy := congrArg StepContext.policy (context_of_comes h)

theorem does_wait (h : Comes x.env x.announcement aside x.runner.noticed r) :
    Does x.env r (setImplicitWait x.policy.implicitWait) (x.wait?.toList.map Drive.event) r.stash
      (x.refusal?.elim (.ok ()) .error) := by
  have hdoes := does_setImplicitWait x.env r x.policy.implicitWait
  rw [world_of_comes h] at hdoes
  exact hdoes

end Occasion

namespace Execution

variable {ω : Type} {x : Execution ω} {r : Runner ω}

open Run
open Runner (Comes)
open Occasion (comes_noticed world_of_comes switches_of_comes context_of_comes result_policy
  does_wait)

theorem does_closing (h : Comes x.env x.afterRequest x.runner.stash x.runner.noticed r) :
    Does x.env r (reportCommand x.command x.params x.answer x.policy) x.closing x.left () := by
  have hsw : r.switches = x.runner.switches := switches_of_comes h
  have hcontext : r.context = x.runner.context := context_of_comes h
  unfold reportCommand closing left
  cases x.command.isQuit with
  | true =>
      have hquit := does_reportQuit x.env r
      have hdue : r.testDue = x.runner.noticed.testDue := (congrArg Runner.testDue h.memory :)
      rw [hsw, hcontext, hdue, h.stash] at hquit
      exact hquit
  | false =>
      -- Whether commands are reported is looked at once, and nothing has changed it.
      simp only [Bool.false_eq_true, if_false]
      have hlook : Does x.env r switches [] r.stash x.runner.switches := ⟨hsw, .refl⟩
      cases hon : x.runner.switches.reportsCommands with
      | false =>
          rw [← h.stash]
          refine does_bind_same hlook fun r₁ h₁ => ?_
          rw [hon]
          exact does_note x.env r₁ _
      | true =>
          show Does x.env r _ ([] ++ x.telling) _ ()
          refine does_bind hlook fun r₁ h₁ => ?_
          have hall : Comes x.env (x.afterRequest ++ []) r.stash x.runner.noticed r₁ := h.trans h₁
          rw [List.append_nil] at hall
          have hreport := does_commandReport x.env r₁ x.command x.params (outcome x.answer).1
            x.resolution x.policy.capture
          dsimp only at hreport
          rw [switches_of_comes hall, world_of_comes hall, ← x.env.worldAfter_append,
            h₁.stash.trans h.stash] at hreport
          rw [hon]
          refine does_bind hreport fun r₂ h₂ => ?_
          have hsubmit := does_submitCommand x.env r₂ x.report
            ((congrArg Switches.reportsCommands (h₂.switches.trans (switches_of_comes hall))).trans
              hon)
          rw [h₂.context, context_of_comes hall, h₂.stash] at hsubmit
          exact hsubmit

/-- The run of an execution ends as it is written down. -/
def Ends (x : Execution ω) (result : Except Failure Response) (r : Runner ω) : Prop :=
  result = x.result ∧ Comes x.env x.deeds x.aside x.runner.noticed r

theorem course (x : Execution ω) : x.Ends (Run.result (execute x.command x.params) x.env x.runner)
    (after (execute x.command x.params) x.env x.runner) := by
  unfold execute
  rw [result_bind, after_bind]
  have h := comes_noticed (x := x.toOccasion)
  generalize after noticeTest x.env x.runner = r at h
  rw [result_bind, after_bind, result_policy h]
  refine comes_bind_same (Q := x.Ends) h (does_wait h) fun r₁ h₁ => ?_
  cases hrefusal : x.refusal? with
  | some e =>
      -- Nothing follows, so what has happened by now is all there is.
      unfold Ends result deeds aside
      rw [hrefusal]
      exact ⟨rfl, h₁⟩
  | none =>
      have hsleep := fun r phase => does_sleepAroundCommand x.env r x.command x.policy phase
      refine comes_bind_same (Q := x.Ends) h₁ (hsleep r₁ .before) fun r₂ h₂ => ?_
      have hdrive := does_drive x.env r₂ .request x.command x.params
      rw [world_of_comes h₂] at hdrive
      refine comes_bind_same (Q := x.Ends) h₂ hdrive fun r₃ h₃ => ?_
      refine comes_bind_same (Q := x.Ends) h₃ (hsleep r₃ .after) fun r₄ h₄ => ?_
      refine comes_bind (Q := x.Ends) h₄ (does_closing h₄) fun r₅ h₅ => ?_
      unfold Ends result deeds aside
      rw [hrefusal]
      exact ⟨rfl, h₅⟩

/-! ## What is read off the course -/

section Readings

variable {γ : Type} {f : Event → Option γ} (x : Execution ω)

/-- What is of no account besides calls and the reports of commands. -/
structure Overlooks (f : Event → Option γ) : Prop where
  slept : ∀ ms, f (.slept ms) = none
  flushed : ∀ allowed, f (.flushed allowed) = none
  reported : ∀ report, f (.reported report) = none
  test : ∀ t polled, f (.built (.test t) polled) = none

variable (hf : Overlooks f)

include hf

theorem filterMap_announced (polled : Bool) (t : Option TestReport) :
    (announced polled t).filterMap f = [] := by
  cases t with
  | none => rfl
  | some t => simp [announced, hf.test, hf.reported]

theorem filterMap_reported (reports : List Report) :
    (reports.map Event.reported).filterMap f = [] := by
  simp [hf.reported]

theorem filterMap_sleepEvents (command : Command) (policy : StepPolicy) (phase : Phase) :
    (sleepEvents command policy phase).filterMap f = [] := by
  unfold sleepEvents StepPolicy.rest
  split
  · rfl
  · split
    · simp [hf.slept]
    · rfl

theorem filterMap_telling : x.telling.filterMap f =
    (x.probe?.toList ++ x.picture?.toList).filterMap (fun c => f c.event) ++
      (f (.built (.command x.report) x.runner.context.polling)).toList := by
  have hrest : (if x.runner.context.polling then []
      else .flushed true :: (released x.runner.stash true ++ [Report.command x.report]).map
        .reported).filterMap f = [] := by
    split
    · rfl
    · rw [List.filterMap_cons_none (hf.flushed _), filterMap_reported hf]
  simp only [telling, List.filterMap_append, List.filterMap_map]
  refine congrArg₂ _ rfl ?_
  cases h : f (.built (.command x.report) x.runner.context.polling) with
  | none => rw [List.filterMap_cons_none h, hrest, Option.toList_none]
  | some c => rw [List.filterMap_cons_some h, hrest, Option.toList_some]

theorem filterMap_closing : x.closing.filterMap f =
    if !x.command.isQuit && x.runner.switches.reportsCommands then x.telling.filterMap f
    else [] := by
  unfold closing
  cases x.command.isQuit with
  | true =>
      rw [if_pos rfl, farewell, List.filterMap_append, List.filterMap_cons_none (hf.flushed _),
        filterMap_reported hf, filterMap_announced hf]
      rfl
  | false => cases x.runner.switches.reportsCommands <;> rfl

theorem filterMap_deeds : x.deeds.filterMap f =
    x.wait?.toList.filterMap (fun c => f c.event) ++
      if x.refusal?.isSome then []
      else (f x.request.event).toList ++ x.closing.filterMap f := by
  have hwaited : x.waited.filterMap f = x.wait?.toList.filterMap (fun c => f c.event) := by
    rw [Occasion.waited, List.filterMap_append, Occasion.announcement, filterMap_announced hf,
      List.filterMap_map]
    rfl
  have hsleep := filterMap_sleepEvents hf x.command x.policy
  unfold deeds
  cases x.refusal? with
  | some e => exact hwaited.trans (List.append_nil _).symm
  | none =>
      show (x.afterRequest ++ x.closing).filterMap f = _
      simp only [afterRequest, beforeRequest, List.filterMap_append, hwaited, hsleep,
        List.append_assoc]
      rfl

end Readings

theorem overlooks_call : Overlooks Event.call? := ⟨fun _ => rfl, fun _ => rfl, fun _ => rfl,
  fun _ _ => rfl⟩

theorem overlooks_building : Overlooks Event.building? := ⟨fun _ => rfl, fun _ => rfl, fun _ => rfl,
  fun _ _ => rfl⟩

theorem filterMap_deeds_call (x : Execution ω) : x.deeds.filterMap Event.call? = x.calls := by
  have hcalls : ∀ cs : List Drive, cs.filterMap (fun c => c.event.call?) = cs :=
    fun cs => List.filterMap_some
  rw [filterMap_deeds x overlooks_call, filterMap_closing x overlooks_call,
    filterMap_telling x overlooks_call, hcalls, hcalls]
  refine congrArg (_ ++ ·) ?_
  split
  · rfl
  · refine congrArg (x.request :: ·) ?_
    split
    · exact List.append_nil _
    · rfl

theorem filterMap_deeds_building (x : Execution ω) :
    x.deeds.filterMap Event.building? = x.reports := by
  have hcalls : ∀ cs : List Drive, cs.filterMap (fun c => c.event.building?) = [] :=
    fun cs => List.filterMap_eq_nil_iff.2 fun _ _ => rfl
  rw [filterMap_deeds x overlooks_building, filterMap_closing x overlooks_building,
    filterMap_telling x overlooks_building, hcalls, hcalls]
  unfold reports
  cases x.refusal?.isSome with
  | true => rfl
  | false => rfl

end Execution
end Courier
