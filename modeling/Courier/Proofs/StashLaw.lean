import Courier.Proofs.ReportTale
import Courier.Runner.Scripted
import Mathlib

/-!
# Nothing put aside is lost

Whatever test code does with a runner, the trace is a tale: one operation after the
other, from the desk with what was aside before it to the desk with what is aside after
it. Most operations are silent, and a silent one leaves the desk as it is. What is left
are the few that put a report together or give what was put aside its turn, and those
are gone through one by one.

With that the order of the reports, the loss of some of them and where they arrive are
facts about tales. They are put together here for the trace of a whole run.
-/

namespace Courier

open Desk (released)

namespace Runner

variable {ω : Type}

/-- What decides at this moment about the reports of a runner. -/
def regime (r : Runner ω) : Regime := ⟨r.switches, r.context⟩

/-- What has happened is a tale, from what was aside to what is, and is told as it was. -/
def Told (r r' : Runner ω) : Prop :=
  ∃ es, r'.trace = r.trace ++ es ∧ Desk.Tale (.idle r.stash) es (.idle r'.stash) ∧
    r.regime.Governs es ∧ es.foldl Regime.next r.regime = r'.regime

instance : Law (@Told ω) where
  refl r := ⟨[], (List.append_nil _).symm, .nil _, trivial, rfl⟩
  trans h h' := by
    obtain ⟨es, he, ht, hg, hr⟩ := h
    obtain ⟨es', he', ht', hg', hr'⟩ := h'
    refine ⟨es ++ es', ?_, ht.append ht', hg.append ?_, ?_⟩
    · rw [he', he, List.append_assoc]
    · rw [hr]
      exact hg'
    · rw [List.foldl_append, hr, hr']

theorem Silent.told {r r' : Runner ω} (h : Silent r r') : Told r r' := by
  obtain ⟨es, he, hq⟩ := h.trace
  obtain ⟨hg, hr⟩ := @Regime.governs_of_isQuiet r.regime es hq
  refine ⟨es, he, ?_, hg, ?_⟩
  · rw [h.stash]
    exact .quiet _ fun e hm => (hq e hm).1
  · rw [hr, regime, regime, h.switches, h.context]

end Runner

namespace Run

variable {ω α : Type} {r : Runner ω}

open Runner (Told Silent)

/-- What is silent is told. -/
theorem Obeys.told {m : Run ω α} (h : Obeys Silent m) : Obeys Told m :=
  h.mono fun hs => hs.told

/-- A change of what the reports go by leaves what is aside where it is. -/
theorem told_adjust {change : Runner ω → Runner ω}
    (h : ∀ r, (change r).trace = r.trace ∧ (change r).stash = r.stash) :
    Obeys Told (adjust change : Run ω Unit) := by
  intro env r
  obtain ⟨ht, hs⟩ := h r
  refine ⟨[.adjusted (change r).switches (change r).context], ?_, ?_, ⟨trivial, trivial⟩, rfl⟩
  · show (change r).trace ++ _ = _
    rw [ht]
  · show Desk.Tale _ _ (.idle (change r).stash)
    rw [hs]
    exact .cons (.quiet _ rfl) (.nil _)

/-! ## The turn of what was put aside -/

theorem after_clearStash_none (h : r.stash = none) (env : Surroundings ω) :
    after clearStash env r =
      { r with stash := none, trace := r.trace ++ [.flushed r.switches.reportsCommands] } := by
  cases r
  cases h
  rfl

theorem after_clearStash_some {c : CommandReport} (h : r.stash = some c)
    (env : Surroundings ω) :
    after clearStash env r =
      after (if r.switches.reportsCommands then deliver (.command c) else pure ()) env
        { r with stash := none, trace := r.trace ++ [.flushed r.switches.reportsCommands] } := by
  cases r
  cases h
  rfl

/-- What a turn comes to: the desk is empty, and what was aside has left or not. -/
theorem clearStash_spec (env : Surroundings ω) (r : Runner ω) :
    (after clearStash env r).stash = none ∧ (after clearStash env r).regime = r.regime ∧
    (after clearStash env r).trace = r.trace ++ .flushed r.switches.reportsCommands ::
      (released r.stash r.switches.reportsCommands).map .reported := by
  cases hs : r.stash with
  | none =>
      rw [after_clearStash_none hs, Desk.released_none]
      exact ⟨rfl, rfl, rfl⟩
  | some c =>
      rw [after_clearStash_some hs]
      cases r.switches.reportsCommands with
      | true => exact ⟨rfl, rfl, List.append_assoc _ _ _⟩
      | false => exact ⟨rfl, rfl, rfl⟩

theorem told_clearStash : Obeys Told (clearStash : Run ω Unit) := by
  intro env r
  obtain ⟨hs, hr, ht⟩ := clearStash_spec env r
  obtain ⟨hg, hend⟩ := @Regime.governs_reported r.regime
    (released r.stash r.switches.reportsCommands)
  refine ⟨_, ht, ?_, ⟨rfl, hg⟩, ?_⟩
  · rw [hs]
    exact .clear _ _
  · rw [hr]
    exact hend

/-- Sends a report, and before it the one that was put aside. -/
def sendAfterStash (x : Report) : Run ω Unit := do
  build x
  clearStash
  deliver x

/-- The report leaves right after the turn it gives to what was aside. -/
theorem sendAfterStash_spec (x : Report) (env : Surroundings ω) (r : Runner ω) :
    (after (sendAfterStash x) env r).stash = none ∧
    (after (sendAfterStash x) env r).regime = r.regime ∧
    (after (sendAfterStash x) env r).trace = r.trace ++
      .built x r.context.polling :: .flushed r.switches.reportsCommands ::
        (released r.stash r.switches.reportsCommands ++ [x]).map .reported := by
  obtain ⟨hs, hr, hes⟩ := clearStash_spec env (after (build x) env r)
  have hbuild : (after (build x) env r).trace = r.trace ++ [.built x r.context.polling] := rfl
  have htrace : (after (sendAfterStash x) env r).trace =
      (after clearStash env (after (build x) env r)).trace ++ [.reported x] := rfl
  refine ⟨hs, hr, ?_⟩
  rw [htrace, hes, hbuild, List.map_append]
  simp only [List.append_assoc, List.cons_append, List.nil_append]
  rfl

theorem told_sendAfterStash {x : Report} (env : Surroundings ω) (r : Runner ω)
    (ht : Desk.Tells (.idle r.stash) (.built x r.context.polling) (.due x r.stash))
    (hn : x.isTest = false) (hx : r.switches.reportsCommands = true ∨ ∃ s, x = .step s) :
    Told r (after (sendAfterStash x) env r) := by
  obtain ⟨hs, hr, htrace⟩ := sendAfterStash_spec x env r
  have hallows : r.regime.Allows (.built x r.context.polling) := by
    cases x with
    | command | step => rfl
    | test => trivial
  obtain ⟨hg, hend⟩ := @Regime.governs_reported r.regime
    (released r.stash r.switches.reportsCommands ++ [x])
  rw [Told, hs, hr]
  exact ⟨_, htrace, Desk.Tale.turn ht hn hx, ⟨hallows, rfl, hg⟩, hend⟩

/-- Once the name has been noticed a test by hand is sent like a step, while reports are on. -/
theorem reportManualTest_spec (name : Option String) (passed : Bool) (message : Option String)
    (env : Surroundings ω) (r : Runner ω) : ∃ r', Runner.Still (after noticeTest env r) r' ∧
      after (reportManualTest name passed message) env r =
        if (after noticeTest env r).switches.disableReports then r' else
          after (sendAfterStash (.test ⟨name.getD (after noticeTest env r).latestTest, passed,
            message⟩)) env r' := by
  have hmanual : after (reportManualTest name passed message) env r =
      after (if (after noticeTest env r).switches.disableReports then note _
        else if !(after noticeTest env r).switches.disableAutoTestReports then note _ >>= fun _ =>
          sendAfterStash (.test ⟨name.getD (after noticeTest env r).latestTest, passed, message⟩)
        else sendAfterStash (.test ⟨name.getD (after noticeTest env r).latestTest, passed,
          message⟩)) env (after noticeTest env r) := rfl
  rw [hmanual]
  generalize after noticeTest env r = r₁
  cases r₁.switches.disableReports with
  | true => exact ⟨_, still_note _ env r₁, rfl⟩
  | false =>
      cases r₁.switches.disableAutoTestReports with
      | true => exact ⟨r₁, Runner.Law.refl r₁, rfl⟩
      | false => exact ⟨_, still_note _ env r₁, rfl⟩

/-- A step leaves at once, right after what was aside. -/
theorem told_submitStep (report : StepReport) : Obeys Told (submitStep report : Run ω Unit) :=
  fun env r => told_sendAfterStash env r (.step _ _ _) rfl (.inr ⟨report, rfl⟩)

theorem after_submitCommand_polling (report : CommandReport) (env : Surroundings ω)
    (hp : r.context.polling = true) :
    after (submitCommand report) env r =
      { r with stash := some report, trace := r.trace ++ [.built (.command report) true] } := by
  cases r with
  | mk sw aside latest current excluded context =>
      obtain ⟨policy, polling⟩ := context
      cases hp
      rfl

/-- Outside waits a command is sent like a step. -/
theorem after_submitCommand (report : CommandReport) (env : Surroundings ω)
    (h : r.switches.reportsCommands = true) (hp : r.context.polling = false) :
    after (submitCommand report) env r = after (sendAfterStash (.command report)) env r := by
  cases r with
  | mk sw aside latest current excluded context =>
      obtain ⟨policy, polling⟩ := context
      cases hp
      cases aside with
      | none => rfl
      | some earlier =>
          show _ = after (deliver (.command report)) env (after
            (if sw.reportsCommands then deliver (.command earlier) else pure ()) env _)
          rw [if_pos h]
          rfl

/-- In a wait the report of a command is put aside; otherwise it leaves at once, right
after what was aside. -/
theorem told_submitCommand (report : CommandReport) (env : Surroundings ω)
    (h : r.switches.reportsCommands = true) : Told r (after (submitCommand report) env r) := by
  cases hp : r.context.polling with
  | true =>
      rw [after_submitCommand_polling report env hp]
      exact ⟨[.built (.command report) true], rfl, .cons (.aside _ _) (.nil _),
        ⟨hp.symm, trivial⟩, rfl⟩
  | false =>
      rw [after_submitCommand report env h hp]
      refine told_sendAfterStash env r ?_ rfl (.inl h)
      rw [hp]
      exact .command _ _

/-! ## The operations -/

theorem told_reportQuit : Obeys Told (reportQuit : Run ω Unit) := by
  refine .bind told_clearStash fun _ => .bind still_switches.silent.told fun sw => ?_
  split
  · exact silent_reportTest.told
  · exact .pure _

theorem told_reportCommand (command : Command) (params : Json)
    (answer : Except Failure Response) (policy : StepPolicy) :
    Obeys Told (reportCommand command params answer policy : Run ω Unit) := by
  unfold reportCommand
  split
  · exact told_reportQuit
  · generalize outcome answer = result
    obtain ⟨result, passed⟩ := result
    intro env r
    -- Whether commands are reported is looked at once; nothing changes it until the report
    -- is put together.
    show Told r (after (if r.switches.reportsCommands then _ else _) env r)
    cases hr : r.switches.reportsCommands with
    | false => exact (still_note _).silent.told env r
    | true =>
        have hs := (still_commandReport command params result
          (resolve passed policy.invert policy.alwaysPass) policy.capture).silent env r
        refine Runner.Law.trans hs.told (told_submitCommand _ env ?_)
        rw [hs.switches]
        exact hr

theorem rules_told : Rules (@Told ω) where
  silent h := h.told
  adjust := told_adjust
  clearStash := told_clearStash
  submitStep := told_submitStep
  execute command params :=
    (noticing_execute (fun h => h.silent.told) (told_reportCommand command params)).obeys
      silent_noticeTest.told

/-- Whatever a program does is told. -/
theorem Program.told {m : Run ω α} (h : Program m) : Obeys Told m := h.obeys rules_told

end Run

/-! ## The law -/

/-- What is true of the reports of commands and steps in a trace that begins under this
regime and leaves this report aside. -/
structure StashLaw (g : Regime) (es : List Event) (aside : Option CommandReport) : Prop where
  /-- Whether a report was put together in a wait, and whether commands were reported at a
  flush, is as the last change before it has it. -/
  marked : ∀ before e after, es = before ++ e :: after → (before.foldl Regime.next g).Allows e
  /-- The ledger lists all of them in the order in which they were put together. -/
  listed : (ledger es).map Entry.report = es.filterMap Event.building?
  /-- The reports that arrive are those the ledger has as delivered, in its order. -/
  arrivals : es.filterMap Event.arrival? = fated .delivered es
  /-- None arrives twice, and none overtakes one that was put together before it. -/
  order : (es.filterMap Event.arrival?).Sublist (es.filterMap Event.building?)
  /-- The others are commands of waits, and their fate is one of three. -/
  missing : ∀ entry ∈ ledger es, entry.fate ≠ .delivered →
    (entry.polled = true ∧ ∃ c, entry.report = .command c) ∧
      (entry.fate = .superseded ∨ entry.fate = .discarded ∨ entry.fate = .kept)
  /-- What is kept is what is aside, and nothing else. -/
  kept : fated .kept es = Desk.asideReports aside
  /-- Of a series of reports put aside without a flush none arrives before it is over, and
  no other than the last after it. -/
  series : ∀ before c during after, es = before ++ .built (.command c) true :: (during ++ after) →
    (∀ e ∈ during, e.isFlush = false) →
    during.filterMap Event.arrival? = [] ∧
    (after.filterMap Event.arrival?).Sublist
      (.command ((during.filterMap Event.aside?).getLastD c) ::
        (during.filterMap Event.own? ++ after.filterMap Event.building?))
  /-- When the next report has its own way to go, the last of the series arrives immediately
  before it; for the report of a step this depends on whether commands are reported. -/
  turn : ∀ before c during e x after,
    es = before ++ .built (.command c) true :: (during ++ e :: after) →
    (∀ e ∈ during, e.isFlush = false) → e.own? = some x →
    ∃ allowed rest, after = .flushed allowed ::
      ((released (some ((during.filterMap Event.aside?).getLastD c)) allowed ++ [x]).map
        .reported ++ rest) ∧ (allowed = true ∨ ∃ s, x = .step s)

theorem Fate.eq_of_ne_delivered {fate : Fate} (h : fate ≠ .delivered) :
    fate = .superseded ∨ fate = .discarded ∨ fate = .kept := by
  cases fate with
  | delivered => exact absurd rfl h
  | superseded => exact .inl rfl
  | discarded => exact .inr (.inl rfl)
  | kept => exact .inr (.inr rfl)

theorem Desk.Tale.law {g : Regime} {es : List Event} {aside : Option CommandReport}
    (h : Desk.Tale (.idle none) es (.idle aside)) (hg : g.Governs es) : StashLaw g es aside where
  marked before e after he := by
    rw [he] at hg
    exact hg.of_append.1
  listed := map_report_ledger es
  arrivals := by
    rw [h.fates.1, arriving, released_none]
    rfl
  order := by
    have hs := h.sublist
    exact (List.sublist_append_left _ _).trans hs
  missing entry hm hf := ⟨polled_of_mem_ledger hm hf, Fate.eq_of_ne_delivered hf⟩
  kept := by
    rw [h.fates.2, staying, released_none]
    rfl
  series before c during after he hn := by
    rw [he] at h
    obtain ⟨d, -, h⟩ := h.of_append
    cases h with
    | cons hb h =>
        cases hb with
        | quiet _ hq => cases hq
        | aside =>
            obtain ⟨d', hd, h⟩ := h.of_append
            obtain ⟨ha, hr⟩ := hd.reports_of_no_flush hn
            have hs := h.sublist
            rw [hr] at hs
            exact ⟨ha, (List.sublist_append_left _ _).trans hs⟩
  turn before c during e x after he hn hx := by
    rw [he] at h
    obtain ⟨d, -, h⟩ := h.of_append
    cases h with
    | cons hb h =>
        cases hb with
        | quiet _ hq => cases hq
        | aside => exact h.of_series hn hx

namespace Run

variable {ω α : Type}

/-- The law of the stash, for whatever a program does with a new runner, and whatever the
driver and the Agent answer. -/
theorem Program.stashLaw {m : Run ω α} (h : Program m) (env : Surroundings ω) (c : Config)
    (world : ω) :
    StashLaw (Runner.ofConfig c world).regime (after m env (.ofConfig c world)).trace
      (after m env (.ofConfig c world)).stash := by
  obtain ⟨es, he, ht, hg, -⟩ := h.told env (.ofConfig c world)
  rw [he]
  exact ht.law hg

/-- A wait of two rounds with a command in each, and then a step. -/
def titleWait : Run Unit Unit := do
  let _ ← waitUntil (fun polls => do
    let _ ← execute (.other "getTitle") .null
    return .ok (if polls = 1 then some () else none)) 1000 100
  reportManualStep (.plain "The title is there" "" true)

theorem program_titleWait : Program titleWait :=
  .bind (.waitUntil _ _ fun _ => .bind (.execute _ _) fun _ => .pure _) fun _ =>
    .reportManualStep _

/-- Surroundings in which everything passes. -/
def plainSurroundings : Surroundings Unit :=
  Script.surroundings ⟨[], [], none, ⟨.passed, "", none⟩⟩ ⟨none, "session", .w3c, []⟩
    fun _ => "step"

/-- The first of the two commands is superseded by the second, which arrives before the step. -/
theorem Program.stashLaw_titleWait :
    StashLaw (Runner.ofConfig .default ()).regime
      (after titleWait plainSurroundings (.ofConfig .default ())).trace
      (after titleWait plainSurroundings (.ofConfig .default ())).stash ∧
    (after titleWait plainSurroundings (.ofConfig .default ())).trace.filterMap
      (fun e => e.arrival?.map Report.kind) = [.command, .step] ∧
    (fated .superseded
      (after titleWait plainSurroundings (.ofConfig .default ())).trace).length = 1 :=
  ⟨Program.stashLaw program_titleWait _ _ _, by cbv, by cbv⟩

end Run
end Courier
