import Courier.Proofs.PairedRuns
import Courier.Proofs.PictureTexts
import Courier.Proofs.StepEffect
import Mathlib

/-!
# The pictures in reports

A report has no picture but one that the driver has brought, unless it was handed in with one.
That is so of what has left for the Agent and of what is put aside alike, and it stays so whatever
a program does: nothing but a report that has just been put together comes to either of them, and
the picture in it has come straight from the driver.

So reports are as good as what the driver answers. If it never answers with a text of nothing but
line breaks, no report has an empty picture, and there is an error in the log for every answer
that has no data. If it does, there is an empty picture to report and no error in the log.
-/

namespace Courier

open Desk (asideReports)

/-- The picture that goes with a report, if one does. -/
def Report.picture? : Report → Option String
  | .command c => c.screenshot
  | .step s => s.screenshot
  | .test _ => none

/-- The driver answers with this picture, at one time or another. -/
def Surroundings.Brings {ω : Type} (env : Surroundings ω) (p : String) : Prop :=
  ∃ params w response, (env.drive .screenshot params w).1 = .ok response ∧
    Screenshot.ofAnswer? response.value = some p

/-- A picture in the report is one that the driver has brought, or else the report was handed in
as it is. -/
def Report.Genuine {ω : Type} (env : Surroundings ω) (hand : ByHand) (x : Report) : Prop :=
  (∀ p, x.picture? = some p → env.Brings p) ∨ ∃ s, x = .step s ∧ hand.steps s

/-- Every picture that was sent or is aside is a genuine one. -/
structure Runner.Pictured {ω : Type} (env : Surroundings ω) (hand : ByHand) (r : Runner ω) :
    Prop where
  aside : ∀ x ∈ asideReports r.stash, x.Genuine env hand
  sent : ∀ x ∈ r.sent, x.Genuine env hand

namespace Runner.Pictured

variable {ω : Type} {env : Surroundings ω} {hand : ByHand} {r r' : Runner ω}

/-- It goes on if what has left meanwhile is genuine, and so is what is put aside now. -/
theorem goesOn {es : List Event} (h : Pictured env hand r) (ht : r'.trace = r.trace ++ es)
    (hleft : ∀ x ∈ es.filterMap Event.report?, x.Genuine env hand)
    (haside : ∀ x ∈ asideReports r'.stash, x.Genuine env hand) : Pictured env hand r' := by
  refine ⟨haside, ?_⟩
  rw [Runner.sent, ht, List.filterMap_append]
  exact List.forall_mem_append.2 ⟨h.sent, hleft⟩

theorem genuine_of_isTest {x : Report} (h : x.isTest = true) : x.Genuine env hand := by
  cases x with
  | test t => exact .inl fun p hp => by cases hp
  | command | step => cases h

/-- Tests have no pictures, so that what is silent does no harm. -/
theorem silent (h : Pictured env hand r) (hs : Runner.Silent r r') : Pictured env hand r' := by
  obtain ⟨es, ht, hq⟩ := hs.trace
  refine h.goesOn ht (fun x hx => ?_) (hs.stash ▸ h.aside)
  obtain ⟨e, he, hreport⟩ := List.mem_filterMap.1 hx
  have hquiet := (hq e he).1
  cases e with
  | reported y =>
      cases hreport
      exact genuine_of_isTest hquiet
  | called | slept | built | flushed | adjusted | ranAction | ranCodeblock | noted => cases hreport

theorem still (h : Pictured env hand r) (hs : Runner.Still r r') : Pictured env hand r' :=
  h.silent (Run.silent_of_still hs)

theorem released (h : Pictured env hand r) (allowed : Bool) :
    ∀ x ∈ Desk.released r.stash allowed, x.Genuine env hand := by
  intro x hx
  cases allowed with
  | true => exact h.aside x hx
  | false => cases hx

end Runner.Pictured

namespace Run

variable {ω α : Type} {env : Surroundings ω} {hand : ByHand} {r : Runner ω}

open Runner (Pictured)
open Occasion (shows_reported)

/-! ## The turn of what was put aside -/

theorem pictured_clearStash (h : Pictured env hand r) :
    Pictured env hand (after clearStash env r) := by
  obtain ⟨hs, -, ht⟩ := clearStash_spec env r
  refine h.goesOn ht ?_ (by simp [hs, asideReports])
  rw [List.filterMap_cons_none rfl, (shows_reported _).sent]
  exact h.released _

theorem pictured_sendAfterStash {x : Report} (hx : x.Genuine env hand)
    (h : Pictured env hand r) : Pictured env hand (after (sendAfterStash x) env r) := by
  obtain ⟨hs, -, ht⟩ := sendAfterStash_spec x env r
  refine h.goesOn ht ?_ (by simp [hs, asideReports])
  rw [List.filterMap_cons_none rfl, List.filterMap_cons_none rfl, (shows_reported _).sent]
  exact List.forall_mem_append.2 ⟨h.released _, List.forall_mem_singleton.2 hx⟩

theorem pictured_submitCommand {report : CommandReport}
    (hx : (Report.command report).Genuine env hand) (hon : r.switches.reportsCommands = true)
    (h : Pictured env hand r) : Pictured env hand (after (submitCommand report) env r) := by
  cases hp : r.context.polling with
  | true =>
      rw [after_submitCommand_polling report env hp]
      refine h.goesOn rfl (fun x hx => by cases hx) fun x hmem => ?_
      obtain rfl : x = .command report := by simpa [asideReports] using hmem
      exact hx
  | false =>
      rw [after_submitCommand report env hon hp]
      exact pictured_sendAfterStash hx h

/-! ## Reports with pictures -/

/-- A picture for a report is one that the driver has just brought. -/
theorem brings_of_pictureIn {s : Session} {wanted : Bool} {w : ω} {p : String}
    (h : ((pictureCall? s wanted).bind fun c => pictureIn (env.answer c w)) = some p) :
    env.Brings p := by
  obtain ⟨c, hcall, hpicture⟩ := Option.bind_eq_some_iff.1 h
  have hc : c.command = .screenshot := by
    unfold pictureCall? at hcall
    split at hcall
    · cases hcall
      rfl
    · cases hcall
  cases hanswer : env.answer c w with
  | error e =>
      rw [hanswer] at hpicture
      cases hpicture
  | ok response =>
      rw [hanswer] at hpicture
      rw [Surroundings.answer, hc] at hanswer
      exact ⟨c.params, w, response, hanswer, hpicture⟩

theorem pictured_reportCommand (command : Command) (params : Json)
    (answer : Except Failure Response) (policy : StepPolicy) (h : Pictured env hand r) :
    Pictured env hand (after (reportCommand command params answer policy) env r) := by
  unfold reportCommand
  split
  · have hclear := pictured_clearStash h
    show Pictured env hand (after (if !(after clearStash env r).switches.disableAutoTestReports
      then reportTest else pure ()) env (after clearStash env r))
    split
    · exact hclear.silent (silent_reportTest env _)
    · exact hclear
  · generalize outcome answer = told
    obtain ⟨told, passed⟩ := told
    show Pictured env hand (after (if r.switches.reportsCommands then
      commandReport command params told (resolve passed policy.invert policy.alwaysPass)
        policy.capture >>= submitCommand else note _) env r)
    cases hon : r.switches.reportsCommands with
    | false => exact h.still (still_note _ env r)
    | true =>
        -- The driver may have been asked about the element before; the picture is its answer in
        -- the world which that has left.
        have hdoes := does_commandReport env r command params told
          (resolve passed policy.invert policy.alwaysPass) policy.capture
        rw [if_pos rfl, after_bind, hdoes.result]
        refine pictured_submitCommand (.inl fun p hp => brings_of_pictureIn hp) ?_
          (h.still (still_commandReport _ _ _ _ _ env r))
        rw [hdoes.comes.switches]
        exact hon

theorem pictured_reportStep (description message : String) (passed pictured : Bool)
    (element : Option SearchCriteria) (inputs outputs : Option Object)
    (h : Pictured env hand r) : Pictured env hand
      (after (reportStep description message passed pictured element inputs outputs) env r) := by
  show Pictured env hand (after (if r.switches.disableReports then note _ else
    pictureIf pictured >>= fun picture => newGuid >>= fun guid =>
      submitStep ⟨guid, description, message, passed, picture, element, inputs, outputs⟩) env r)
  split
  · exact h.still (still_note _ env r)
  · have hdoes := does_pictureIf env r pictured
    have hpicture := h.still (still_pictureIf pictured env r)
    rw [after_bind, hdoes.result, after_bind]
    exact pictured_sendAfterStash (.inl fun p hp => brings_of_pictureIn hp)
      (hpicture.still (still_newGuid env _))

theorem pictured_reportManualTest (name : Option String) (passed : Bool)
    (message : Option String) (h : Pictured env hand r) :
    Pictured env hand (after (reportManualTest name passed message) env r) := by
  obtain ⟨r', hs, hafter⟩ := reportManualTest_spec name passed message env r
  have hr' : Pictured env hand r' := (h.silent (silent_noticeTest env r)).still hs
  rw [hafter]
  split
  · exact hr'
  · exact pictured_sendAfterStash (Runner.Pictured.genuine_of_isTest rfl) hr'

/-! ## A run beside itself -/

/-- The same runner twice, and there is nothing wrong with its pictures. -/
def BesidePictured (env : Surroundings ω) (hand : ByHand) (r r' : Runner ω) : Prop :=
  r = r' ∧ Pictured env hand r

theorem keeps_pictured {m : Run ω α}
    (h : ∀ r, Pictured env hand r → Pictured env hand (after m env r)) :
    Keeps (BesidePictured env hand) env env m m := by
  rintro r _ ⟨rfl, hr⟩
  exact ⟨rfl, rfl, h r hr⟩

theorem keeps_pictured_of_still {m : Run ω α} (h : Obeys Runner.Still m) :
    Keeps (BesidePictured env hand) env env m m :=
  keeps_pictured fun r hr => hr.still (h env r)

theorem keeps_pictured_of_silent {m : Run ω α} (h : Obeys Runner.Silent m) :
    Keeps (BesidePictured env hand) env env m m :=
  keeps_pictured fun r hr => hr.silent (h env r)

theorem keeps_pictured_adjust {change : Runner ω → Runner ω}
    (h : ∀ r, (change r).trace = r.trace ∧ (change r).stash = r.stash) :
    Keeps (BesidePictured env hand) env env (adjust change) (adjust change) := by
  refine keeps_pictured fun r hr => ?_
  obtain ⟨ht, hs⟩ := h r
  have htrace : (after (adjust change) env r).trace =
      r.trace ++ [.adjusted (change r).switches (change r).context] := by
    show (change r).trace ++ _ = _
    rw [ht]
  refine hr.goesOn htrace (fun x hx => by cases hx) ?_
  show ∀ x ∈ asideReports (change r).stash, _
  rw [hs]
  exact hr.aside

theorem keepsParts_pictured (env : Surroundings ω) (hand : ByHand) :
    KeepsParts (BesidePictured env hand) env env where
  session := rfl
  context h := congrArg Runner.context h.1
  clock h := congrArg Runner.clock h.1
  note _ := keeps_pictured_of_still (still_note _)
  sleep _ := keeps_pictured_of_still (still_sleep _)
  drive _ _ _ := keeps_pictured_of_still (still_drive _ _ _)
  callAction _ := keeps_pictured_of_still (still_callAction _)
  callCodeblock _ _ := keeps_pictured_of_still (still_callCodeblock _ _)
  setContext _ := keeps_pictured_adjust fun _ => ⟨rfl, rfl⟩
  enter _ _ := keeps_pictured_adjust fun _ => ⟨rfl, rfl⟩
  leave _ := keeps_pictured_adjust fun r => by split <;> exact ⟨rfl, rfl⟩
  setCurrentTest _ := keeps_pictured_of_silent (silent_setCurrentTest _)
  excludeTests _ := keeps_pictured_of_silent (silent_excludeTests _)
  noticeTest := keeps_pictured_of_silent silent_noticeTest
  clearStash := keeps_pictured fun _ => pictured_clearStash
  reportTest := keeps_pictured_of_silent silent_reportTest
  reportCommand _ _ _ _ := keeps_pictured fun _ => pictured_reportCommand _ _ _ _
  reportStep _ _ _ _ _ _ _ := keeps_pictured fun _ => pictured_reportStep _ _ _ _ _ _ _
  reportManualTest _ _ _ := keeps_pictured fun _ => pictured_reportManualTest _ _ _

end Run

/-- Whatever a program does, the pictures in the reports come from the driver. -/
theorem ProgramWith.pictured {ω α : Type} {hand : ByHand} {m : Run ω α} (hm : ProgramWith hand m)
    (env : Surroundings ω) : Keeps (Run.BesidePictured env hand) env env m m := by
  have hparts := Run.keepsParts_pictured env hand
  induction hm with
  | pure a => exact .pure a
  | bind _ _ ihm ihf => exact .bind ihm ihf
  | get => exact Run.keeps_pictured fun _ h => h
  | read => exact Run.keeps_pictured fun _ h => h
  | perform op _ => exact hparts.perform op
  | setSwitches => exact Run.keeps_pictured_adjust fun _ => ⟨rfl, rfl⟩
  | submitStep hs =>
      exact Run.keeps_pictured fun _ => Run.pictured_sendAfterStash (.inr ⟨_, rfl, hs⟩)
  | waitUntil _ _ _ ih => exact hparts.waitUntil ih _ _

/-- The driver has these answers to requests for a picture, and no others. -/
def Surroundings.AnswersWith {ω : Type} (env : Surroundings ω) (answers : Json → Prop) : Prop :=
  ∀ params w response, (env.drive .screenshot params w).1 = .ok response → answers response.value

theorem Runner.pictured_ofConfig {ω : Type} (env : Surroundings ω) (hand : ByHand) (c : Config)
    (w : ω) : Pictured env hand (.ofConfig c w) :=
  ⟨fun _ hx => (List.not_mem_nil hx).elim, fun _ hx => (List.not_mem_nil hx).elim⟩

/-! ## Empty pictures -/

namespace Screenshot

open Run

/-- Of these answers there is no empty picture anywhere. -/
structure NeverEmpty (answers : Json → Prop) : Prop where
  value : ∀ v, answers v → ofAnswer? v = none ∨ ∃ t, ofAnswer? v = some t ∧ IsFilled t
  /-- No program has a report leave with an empty picture, unless one was handed in with it. -/
  sent : ∀ {ω α : Type} {hand : ByHand} {m : Run ω α}, ProgramWith hand m →
    ∀ env : Surroundings ω, env.AnswersWith answers → ∀ c w,
      ∀ x ∈ (after m env (.ofConfig c w)).sent,
        (∃ s, x = .step s ∧ hand.steps s) ∨ ∀ t, x.picture? = some t → IsFilled t
  /-- If there are no data in the answer, there is no picture, and an error is noted. -/
  noted : ∀ {ω : Type} (env : Surroundings ω) (r : Runner ω) (purpose : Purpose)
    (response : Response),
    (env.drive .screenshot (.object [("sessionId", .str env.session.id)]) r.world).1 =
      .ok response →
    answers response.value → ¬ HasData response.value →
      result (takePicture purpose) env r = none ∧
      (after (takePicture purpose) env r).trace = r.trace ++
        [.called purpose .screenshot (.object [("sessionId", .str env.session.id)]),
          .noted (Log.error ("Driver returned no screenshot data: " ++ response.value.text))]

variable {answers : Json → Prop}

theorem isFilled_of_ofAnswer? {v : Json} {t : String} (hv : ¬ IsBlank v)
    (h : ofAnswer? v = some t) : IsFilled t := by
  by_cases hdata : HasData v
  · obtain ⟨t', ht', hfilled⟩ := ofAnswer?_of_hasData hdata
    rw [ht'] at h
    exact Option.some.inj h ▸ hfilled
  · rw [ofAnswer?_of_neither hdata hv] at h
    cases h

theorem takePicture_of_neither {ω : Type} {env : Surroundings ω} {r : Runner ω}
    {response : Response}
    (hanswer : (env.drive .screenshot (.object [("sessionId", .str env.session.id)]) r.world).1 =
      .ok response)
    (hdata : ¬ HasData response.value) (hblank : ¬ IsBlank response.value) (purpose : Purpose) :
    result (takePicture purpose) env r = none ∧
    (after (takePicture purpose) env r).trace = r.trace ++
      [.called purpose .screenshot (.object [("sessionId", .str env.session.id)]),
        .noted (Log.error ("Driver returned no screenshot data: " ++ response.value.text))] := by
  have hdrive := (does_drive env r purpose .screenshot
    (.object [("sessionId", .str env.session.id)])).result.trans hanswer
  unfold takePicture
  rw [result_bind, after_bind, result_read, after_read, result_bind, after_bind, hdrive]
  dsimp only
  rw [ofAnswer?_of_neither hdata hblank]
  exact ⟨rfl, List.append_assoc _ _ _⟩

/-- There are empty pictures of texts that are nothing but line breaks, and of no other answers. -/
theorem neverEmpty_iff : NeverEmpty answers ↔ ∀ v, answers v → ¬ IsBlank v := by
  constructor
  · intro h v hv hblank
    have hempty : ofAnswer? v = some "" := ofAnswer?_of_isBlank hblank
    rcases h.value v hv with hnone | ⟨t, ht, hfilled, -⟩
    · rw [hnone] at hempty
      cases hempty
    · rw [ht] at hempty
      exact hfilled (Option.some.inj hempty)
  · intro h
    exact {
      value := fun v hv => by
        cases ht : ofAnswer? v with
        | none => exact .inl rfl
        | some t => exact .inr ⟨t, rfl, isFilled_of_ofAnswer? (h v hv) ht⟩
      sent := fun hm env henv c w x hx => by
        obtain ⟨-, -, hpictured⟩ := hm.pictured env _ _ ⟨rfl, Runner.pictured_ofConfig env _ c w⟩
        rcases hpictured.sent x hx with hbrings | hhand
        · refine .inr fun t ht => ?_
          obtain ⟨params, w', response, hanswer, hpicture⟩ := hbrings t ht
          exact isFilled_of_ofAnswer? (h _ (henv params w' response hanswer)) hpicture
        · exact .inl hhand
      noted := fun env r purpose response hanswer hv hdata =>
        takePicture_of_neither hanswer hdata (h _ hv) purpose }

/-- A step that is told by hand, with a picture of a screen of which the driver has nothing to say
but an empty line. -/
def emptyLine : Runner Unit :=
  after (reportManualStep ⟨"Look", "", true, true, none, none, none⟩)
    (Redaction.steadySurroundings false (.ok (.ok (.str "\r\n")))) (.ofConfig .default ())

/-- It leaves with an empty picture, and nothing is noted. -/
theorem not_neverEmpty_emptyLine :
    ¬ NeverEmpty (· = .str "\r\n") ∧ ofAnswer? (.str "\r\n") = some "" ∧
    emptyLine.sent.map Report.picture? = [some ""] ∧ emptyLine.trace.all Event.isDeed = true := by
  have hempty : ofAnswer? (.str "\r\n") = some "" := by decide
  refine ⟨fun h => ?_, hempty, by cbv, by cbv⟩
  rcases h.value _ rfl with hnone | ⟨t, ht, hfilled, -⟩
  · rw [hempty] at hnone
    cases hnone
  · rw [hempty] at ht
    exact hfilled (Option.some.inj ht).symm

end Screenshot
end Courier
