import Courier.Proofs.RunnerProgram

/-!
# What a trace tells of the reports

The reports of commands and steps pass over a desk. At most one of them, of a command
of a wait, has been put aside there. One that is put together to leave at once is due,
and whatever comes next is the turn of the one put aside; then both leave, with nothing
between them. A trace that can be read as the coming and going on such a desk is a
tale, and everything about the order and the loss of reports is read off a tale by
going through its events.

Two marks in a trace are taken on trust there: that a report was put together in a wait,
and that commands were reported when something had its turn. Both are checked against
the changes of switches and context, which are events too.

What becomes of each report that was put aside depends on what comes after it alone:
on whether the next thing is another report put aside or a flush, and on whether
commands are reported at the flush. The ledger of a trace lists the reports in the
order they were put together, each with what has become of it.
-/

namespace Courier

namespace Event

/-- The report of a command or a step that is put together. -/
def building? : Event → Option Report
  | .built (.command c) _ => some (.command c)
  | .built (.step s) _ => some (.step s)
  | _ => none

/-- The report of a command or a step that leaves for the Agent. -/
def arrival? : Event → Option Report
  | .reported (.command c) => some (.command c)
  | .reported (.step s) => some (.step s)
  | _ => none

/-- The report of a command that is put together in a wait. -/
def aside? : Event → Option CommandReport
  | .built (.command c) true => some c
  | _ => none

/-- The report of a step, or of a command outside waits, that is put together. -/
def own? : Event → Option Report
  | .built (.command c) false => some (.command c)
  | .built (.step s) _ => some (.step s)
  | _ => none

/-- The event takes away what is aside. -/
def isFlush : Event → Bool
  | .flushed _ => true
  | _ => false

theorem eq_none_of_isQuiet {e : Event} (h : e.isQuiet = true) :
    e.building? = none ∧ e.arrival? = none ∧ e.aside? = none ∧ e.own? = none ∧
      e.isFlush = false := by
  cases e with
  | built r polled =>
      cases r with
      | test => exact ⟨rfl, rfl, rfl, rfl, rfl⟩
      | command | step => cases h
  | reported r =>
      cases r with
      | test => exact ⟨rfl, rfl, rfl, rfl, rfl⟩
      | command | step => cases h
  | flushed => cases h
  | called | slept | ranAction | ranCodeblock | adjusted | noted =>
      exact ⟨rfl, rfl, rfl, rfl, rfl⟩

theorem arrival?_reported {x : Report} (h : x.isTest = false) :
    (Event.reported x).arrival? = some x ∧ (Event.reported x).building? = none ∧
      (Event.reported x).own? = none ∧ (Event.reported x).aside? = none := by
  cases x with
  | command | step => exact ⟨rfl, rfl, rfl, rfl⟩
  | test => cases h

end Event

/-! ## What the reports go by -/

/-- The switches and the context of a moment. -/
structure Regime where
  switches : Switches
  context : StepContext

namespace Regime

/-- The regime after an event. -/
def next (g : Regime) : Event → Regime
  | .adjusted s c => ⟨s, c⟩
  | _ => g

/-- What an event says of the regime is so. -/
def Allows (g : Regime) : Event → Prop
  | .built (.command _) polled => polled = g.context.polling
  | .built (.step _) polled => polled = g.context.polling
  | .flushed allowed => allowed = g.switches.reportsCommands
  | _ => True

/-- What the events of a trace say of the regime is so, each at its moment. -/
def Governs (g : Regime) : List Event → Prop
  | [] => True
  | e :: es => g.Allows e ∧ (g.next e).Governs es

variable {g : Regime} {es es' : List Event}

theorem Governs.append (h : g.Governs es) (h' : (es.foldl next g).Governs es') :
    g.Governs (es ++ es') := by
  induction es generalizing g with
  | nil => exact h'
  | cons e es ih => exact ⟨h.1, ih h.2 h'⟩

theorem Governs.of_append (h : g.Governs (es ++ es')) : (es.foldl next g).Governs es' := by
  induction es generalizing g with
  | nil => exact h
  | cons e es ih => exact ih h.2

theorem governs_of_isQuiet (h : ∀ e ∈ es, e.isQuiet = true ∧ e.isAdjustment = false) :
    g.Governs es ∧ es.foldl next g = g := by
  induction es with
  | nil => exact ⟨trivial, rfl⟩
  | cons e es ih =>
      obtain ⟨⟨hq, ha⟩, hes⟩ := List.forall_mem_cons.1 h
      have he : g.Allows e ∧ g.next e = g := by
        cases e with
        | built r polled =>
            cases r with
            | test => exact ⟨trivial, rfl⟩
            | command | step => cases hq
        | flushed => cases hq
        | adjusted => cases ha
        | called | slept | reported | ranAction | ranCodeblock | noted => exact ⟨trivial, rfl⟩
      rw [Governs, List.foldl_cons, he.2]
      exact ⟨⟨he.1, (ih hes).1⟩, (ih hes).2⟩

theorem governs_reported (xs : List Report) :
    g.Governs (xs.map .reported) ∧ (xs.map .reported).foldl next g = g := by
  induction xs with
  | nil => exact ⟨trivial, rfl⟩
  | cons x xs ih => exact ⟨⟨trivial, ih.1⟩, ih.2⟩

end Regime

/-! ## The desk -/

/-- The reports that are neither gone nor given up. -/
inductive Desk where
  /-- Nothing is under way; a report may have been put aside. -/
  | idle (aside : Option CommandReport)
  /-- A report has been put together that leaves at once. -/
  | due (x : Report) (aside : Option CommandReport)
  /-- These reports leave next. -/
  | leaving (x : Report) (rest : List Report)

namespace Desk

/-- What is aside, as a list of reports. -/
def asideReports (aside : Option CommandReport) : List Report :=
  (aside.map Report.command).toList

/-- What leaves of what was put aside when it has its turn. -/
def released (aside : Option CommandReport) (allowed : Bool) : List Report :=
  if allowed then asideReports aside else []

/-- The desk on which these reports are next to leave. -/
def outgoing : List Report → Desk
  | [] => .idle none
  | x :: rest => .leaving x rest

/-- What is on the desk, in the order it was put together. -/
def reports : Desk → List Report
  | .idle aside => asideReports aside
  | .due x aside => asideReports aside ++ [x]
  | .leaving x rest => x :: rest

theorem reports_outgoing (xs : List Report) : (outgoing xs).reports = xs := by
  cases xs <;> rfl

theorem released_sublist (aside : Option CommandReport) (allowed : Bool) :
    (released aside allowed).Sublist (asideReports aside) := by
  cases allowed with
  | true => exact List.Sublist.refl _
  | false => exact List.nil_sublist _

/-- What an event can mean at a desk. -/
inductive Tells : Desk → Event → Desk → Prop where
  | quiet (aside : Option CommandReport) {e : Event} : e.isQuiet = true →
      Tells (.idle aside) e (.idle aside)
  | aside (aside : Option CommandReport) (c : CommandReport) :
      Tells (.idle aside) (.built (.command c) true) (.idle (some c))
  | command (aside : Option CommandReport) (c : CommandReport) :
      Tells (.idle aside) (.built (.command c) false) (.due (.command c) aside)
  | step (aside : Option CommandReport) (s : StepReport) (polled : Bool) :
      Tells (.idle aside) (.built (.step s) polled) (.due (.step s) aside)
  | clear (aside : Option CommandReport) (allowed : Bool) :
      Tells (.idle aside) (.flushed allowed) (outgoing (released aside allowed))
  /-- A command leaves at once only while commands are reported. -/
  | turn {x : Report} (aside : Option CommandReport) {allowed : Bool} :
      (allowed = true ∨ ∃ s, x = .step s) →
      Tells (.due x aside) (.flushed allowed) (outgoing (released aside allowed ++ [x]))
  | leave {x : Report} (rest : List Report) : x.isTest = false →
      Tells (.leaving x rest) (.reported x) (outgoing rest)

/-- A tale: what the events of a trace mean one after the other. -/
inductive Tale : Desk → List Event → Desk → Prop where
  | nil (d : Desk) : Tale d [] d
  | cons {d d' d'' : Desk} {e : Event} {es : List Event} : Tells d e d' → Tale d' es d'' →
      Tale d (e :: es) d''

variable {d d' d'' : Desk} {e : Event} {es es' : List Event} {aside aside' : Option CommandReport}
  {x : Report} {xs : List Report} {allowed : Bool}

theorem Tale.append (h : Tale d es d') (h' : Tale d' es' d'') : Tale d (es ++ es') d'' := by
  induction h with
  | nil => exact h'
  | cons he _ ih => exact .cons he (ih h')

theorem Tale.of_append (h : Tale d (es ++ es') d'') : ∃ d', Tale d es d' ∧ Tale d' es' d'' := by
  induction es generalizing d with
  | nil => exact ⟨d, .nil d, h⟩
  | cons e es ih =>
      cases h with
      | cons he h =>
          obtain ⟨d', hd, hd'⟩ := ih h
          exact ⟨d', .cons he hd, hd'⟩

theorem Tale.quiet (aside : Option CommandReport) (h : ∀ e ∈ es, e.isQuiet = true) :
    Tale (.idle aside) es (.idle aside) := by
  induction es with
  | nil => exact .nil _
  | cons e es ih =>
      obtain ⟨he, hes⟩ := List.forall_mem_cons.1 h
      exact .cons (.quiet aside he) (ih hes)

/-- What is on its way out leaves before anything else happens. -/
theorem Tale.outgoing (hx : ∀ x ∈ xs, x.isTest = false) :
    Tale (outgoing xs) (xs.map .reported) (.idle none) := by
  induction xs with
  | nil => exact .nil _
  | cons x xs ih =>
      obtain ⟨h, hxs⟩ := List.forall_mem_cons.1 hx
      exact .cons (.leave xs h) (ih hxs)

theorem isTest_of_mem_released (h : x ∈ released aside allowed) : x.isTest = false := by
  cases allowed with
  | false => cases h
  | true =>
      cases aside with
      | none => cases h
      | some c => rw [List.mem_singleton.1 h]; rfl

/-- A turn by itself, and what leaves then. -/
theorem Tale.clear (aside : Option CommandReport) (allowed : Bool) :
    Tale (.idle aside) (.flushed allowed :: (released aside allowed).map .reported) (.idle none) :=
  .cons (.clear aside allowed) (.outgoing fun _ => isTest_of_mem_released)

/-- A report that leaves at once, right after the turn it gives to what was aside. -/
theorem Tale.turn (ht : Tells (.idle aside) e (.due x aside)) (hn : x.isTest = false)
    (hx : allowed = true ∨ ∃ s, x = .step s) :
    Tale (.idle aside)
      (e :: .flushed allowed :: (released aside allowed ++ [x]).map .reported) (.idle none) := by
  refine .cons ht (.cons (.turn aside hx) (.outgoing fun y hy => ?_))
  rcases List.mem_append.1 hy with hy | hy
  · exact isTest_of_mem_released hy
  · rw [List.mem_singleton.1 hy]
    exact hn

theorem Tale.of_outgoing (h : Tale (Desk.outgoing xs) es (.idle aside)) :
    ∃ rest, es = xs.map .reported ++ rest ∧ Tale (.idle none) rest (.idle aside) := by
  induction xs generalizing es with
  | nil => exact ⟨es, rfl, h⟩
  | cons x xs ih =>
      cases h with
      | cons he h =>
          cases he with
          | leave =>
              obtain ⟨rest, rfl, hrest⟩ := ih h
              exact ⟨rest, rfl, hrest⟩

/-- A report that is due leaves right after the turn of the one put aside. -/
theorem Tale.of_due (h : Tale (.due x aside) es (.idle aside')) :
    ∃ allowed rest,
      es = .flushed allowed :: ((released aside allowed ++ [x]).map .reported ++ rest) ∧
      (allowed = true ∨ ∃ s, x = .step s) ∧ Tale (.idle none) rest (.idle aside') := by
  cases h with
  | cons he h =>
      cases he with
      | turn _ hx =>
          obtain ⟨rest, rfl, hrest⟩ := h.of_outgoing
          exact ⟨_, rest, rfl, hx, hrest⟩

/-! ## Order -/

/-- One event gives up reports or lets them leave, but adds none that is not put together. -/
theorem Tells.sublist (h : Tells d e d') :
    (e.arrival?.toList ++ d'.reports).Sublist (d.reports ++ e.building?.toList) := by
  cases h with
  | quiet aside hq =>
      obtain ⟨hb, ha, -⟩ := Event.eq_none_of_isQuiet hq
      simp [hb, ha]
  | aside aside c => exact List.sublist_append_right (asideReports aside) [.command c]
  | command | step => exact List.Sublist.refl _
  | clear aside allowed =>
      rw [reports_outgoing]
      exact (released_sublist aside allowed).trans (List.sublist_append_left _ _)
  | @turn x aside allowed =>
      rw [reports_outgoing]
      show (released aside allowed ++ [x]).Sublist (asideReports aside ++ [x] ++ [])
      rw [List.append_nil]
      exact (released_sublist aside allowed).append_right [x]
  | @leave x rest hx =>
      obtain ⟨ha, hb, -⟩ := Event.arrival?_reported hx
      rw [reports_outgoing, ha, hb]
      show (x :: rest).Sublist (x :: rest ++ [])
      simp

theorem filterMap_cons_toList {α β : Type} (f : α → Option β) (a : α) (as : List α) :
    (a :: as).filterMap f = (f a).toList ++ as.filterMap f := by
  cases h : f a <;> simp [h]

/-- Nothing arrives twice, and nothing overtakes what was put together before it. -/
theorem Tale.sublist (h : Tale d es d') :
    (es.filterMap Event.arrival? ++ d'.reports).Sublist
      (d.reports ++ es.filterMap Event.building?) := by
  induction h with
  | nil d => simp
  | @cons d d' d'' e es he _ ih =>
      rw [filterMap_cons_toList, filterMap_cons_toList, List.append_assoc e.arrival?.toList,
        ← List.append_assoc d.reports]
      have hstep := he.sublist.append_right (es.filterMap Event.building?)
      rw [List.append_assoc e.arrival?.toList] at hstep
      exact (ih.append_left e.arrival?.toList).trans hstep

/-! ## A series of reports put aside -/

/-- Between two flushes nothing leaves, and all that is left on the desk of the reports put
aside is the last. -/
theorem Tale.reports_of_no_flush {c : CommandReport} (h : Tale (.idle (some c)) es d)
    (hn : ∀ e ∈ es, e.isFlush = false) :
    es.filterMap Event.arrival? = [] ∧
    d.reports = .command ((es.filterMap Event.aside?).getLastD c) :: es.filterMap Event.own? := by
  induction es generalizing c with
  | nil =>
      cases h with
      | nil => exact ⟨rfl, rfl⟩
  | cons e es ih =>
      obtain ⟨hne, hnes⟩ := List.forall_mem_cons.1 hn
      -- After a report that is due only a flush can come.
      have hend : ∀ {x : Report}, Tale (.due x (some c)) es d →
          es = [] ∧ d.reports = [.command c, x] := by
        intro x hd
        cases hd with
        | nil => exact ⟨rfl, rfl⟩
        | cons he _ =>
            cases he with
            | turn => cases hnes _ List.mem_cons_self
      cases h with
      | cons he h =>
          cases he with
          | quiet _ hq =>
              obtain ⟨-, ha, hs, ho, -⟩ := Event.eq_none_of_isQuiet hq
              rw [List.filterMap_cons_none ha, List.filterMap_cons_none hs,
                List.filterMap_cons_none ho]
              exact ih h hnes
          | aside _ c' =>
              obtain ⟨ha, hd⟩ := ih h hnes
              refine ⟨ha, ?_⟩
              rw [hd]
              show _ = Report.command ((c' :: es.filterMap Event.aside?).getLastD c) :: _
              rw [List.getLastD_cons]
              rfl
          | command | step =>
              obtain ⟨rfl, hd⟩ := hend h
              exact ⟨rfl, hd⟩
          | clear => cases hne

/-- A report of its own kind that comes after a series takes the last of it along. -/
theorem Tale.of_series {c : CommandReport}
    (h : Tale (.idle (some c)) (es ++ e :: es') (.idle aside'))
    (hn : ∀ e ∈ es, e.isFlush = false) (he : e.own? = some x) :
    ∃ allowed rest, es' = .flushed allowed ::
      ((released (some ((es.filterMap Event.aside?).getLastD c)) allowed ++ [x]).map .reported ++
        rest) ∧ (allowed = true ∨ ∃ s, x = .step s) := by
  obtain ⟨d, hd, h⟩ := h.of_append
  obtain ⟨-, hr⟩ := hd.reports_of_no_flush hn
  cases h with
  | @cons _ d' _ _ _ ht h =>
      have hdue : ∃ aside, d.reports = asideReports aside ∧ d' = .due x aside := by
        cases ht with
        | quiet _ hq =>
            obtain ⟨-, -, -, ho, -⟩ := Event.eq_none_of_isQuiet hq
            rw [he] at ho
            cases ho
        | command a | step a =>
            cases he
            exact ⟨a, rfl, rfl⟩
        | aside | clear | turn => cases he
        | leave _ hx =>
            obtain ⟨-, -, ho, -⟩ := Event.arrival?_reported hx
            rw [he] at ho
            cases ho
      obtain ⟨a, ha, rfl⟩ := hdue
      rw [ha] at hr
      cases a with
      | none => cases hr
      | some c' =>
          obtain ⟨hc, -⟩ := List.cons.inj hr
          obtain ⟨allowed, rest, hes, hx, -⟩ := h.of_due
          rw [← Report.command.inj hc]
          exact ⟨allowed, rest, hes, hx⟩

end Desk

/-! ## The ledger -/

/-- What has become of a report. -/
inductive Fate where
  /-- It has left for the Agent. -/
  | delivered
  /-- Another one was put aside in its place. -/
  | superseded
  /-- Its turn came when commands were not reported. -/
  | discarded
  /-- It is still there. -/
  | kept
  deriving DecidableEq

/-- What becomes of a report put aside, if this comes after it. -/
def Fate.ofAside : List Event → Fate
  | [] => .kept
  | .built (.command _) true :: _ => .superseded
  | .flushed allowed :: _ => if allowed then .delivered else .discarded
  | _ :: es => ofAside es

/-- A report with what is told of it. -/
structure Entry where
  report : Report
  /-- It was put together in a wait. -/
  polled : Bool
  fate : Fate

/-- The reports of commands and steps in the order they were put together. -/
def ledger : List Event → List Entry
  | [] => []
  | .built (.command c) polled :: es =>
      ⟨.command c, polled, if polled then .ofAside es else .delivered⟩ :: ledger es
  | .built (.step s) polled :: es => ⟨.step s, polled, .delivered⟩ :: ledger es
  | _ :: es => ledger es

/-- The reports of one fate. -/
def fated (fate : Fate) (es : List Event) : List Report :=
  ((ledger es).filter fun e => e.fate = fate).map Entry.report

theorem map_report_ledger (es : List Event) :
    (ledger es).map Entry.report = es.filterMap Event.building? := by
  induction es with
  | nil => rfl
  | cons e es ih =>
      cases e with
      | built r polled =>
          cases r with
          | command c => exact congrArg (Report.command c :: ·) ih
          | step s => exact congrArg (Report.step s :: ·) ih
          | test => exact ih
      | called | slept | flushed | reported | ranAction | ranCodeblock | adjusted | noted =>
          exact ih

/-- Only a command of a wait can come to anything but being delivered. -/
theorem polled_of_mem_ledger {es : List Event} {e : Entry} (h : e ∈ ledger es)
    (hf : e.fate ≠ .delivered) : e.polled = true ∧ ∃ c, e.report = .command c := by
  induction es with
  | nil => cases h
  | cons e' es ih =>
      cases e' with
      | built r polled =>
          cases r with
          | command c =>
              rcases List.mem_cons.1 h with rfl | h
              · cases polled with
                | true => exact ⟨rfl, c, rfl⟩
                | false => exact absurd rfl hf
              · exact ih h
          | step s =>
              rcases List.mem_cons.1 h with rfl | h
              · exact absurd rfl hf
              · exact ih h
          | test => exact ih h
      | called | slept | flushed | reported | ranAction | ranCodeblock | adjusted | noted =>
          exact ih h

section Fates

variable {e : Event} {es : List Event} {aside aside' : Option CommandReport}

theorem fated_cons {entry : Entry} (fate : Fate) (h : ledger (e :: es) = entry :: ledger es) :
    fated fate (e :: es) = (if entry.fate = fate then [entry.report] else []) ++ fated fate es := by
  rw [fated, h, List.filter_cons]
  by_cases hf : entry.fate = fate
  · rw [if_pos (decide_eq_true hf), if_pos hf]
    rfl
  · rw [if_neg (by simpa using hf), if_neg hf]
    rfl

theorem fated_of_isQuiet (fate : Fate) (he : e.isQuiet = true) (es : List Event) :
    fated fate (e :: es) = fated fate es ∧ Fate.ofAside (e :: es) = Fate.ofAside es := by
  cases e with
  | built r polled =>
      cases r with
      | test => exact ⟨rfl, rfl⟩
      | command | step => cases he
  | flushed => cases he
  | called | slept | reported | ranAction | ranCodeblock | adjusted | noted => exact ⟨rfl, rfl⟩

namespace Desk

/-- What arrives of the reports on a desk, if this comes after. -/
def arriving : Desk → List Event → List Report
  | .idle aside, es => released aside (Fate.ofAside es = .delivered)
  | .due x aside, es => released aside (Fate.ofAside es = .delivered) ++ [x]
  | .leaving x rest, _ => x :: rest

/-- What stays of them. -/
def staying : Desk → List Event → List Report
  | .idle aside, es => released aside (Fate.ofAside es = .kept)
  | _, _ => []

theorem released_none (allowed : Bool) : released none allowed = [] := by cases allowed <;> rfl

theorem arriving_outgoing (xs : List Report) (es : List Event) :
    (outgoing xs).arriving es = xs := by
  cases xs with
  | nil => exact released_none _
  | cons => rfl

theorem staying_outgoing (xs : List Report) (es : List Event) :
    (outgoing xs).staying es = [] := by
  cases xs with
  | nil => exact released_none _
  | cons => rfl

/-- What arrives is what the ledger has as delivered, in its order, and what is aside in the
end is what the ledger has as kept. -/
theorem Tale.fates {d : Desk} (h : Tale d es (.idle aside')) :
    es.filterMap Event.arrival? = d.arriving es ++ fated .delivered es ∧
    asideReports aside' = d.staying es ++ fated .kept es := by
  induction es generalizing d with
  | nil =>
      cases h with
      | nil => exact ⟨rfl, (List.append_nil _).symm⟩
  | cons e es ih =>
      cases h with
      | cons he h =>
          obtain ⟨iha, ihs⟩ := ih h
          cases he with
          | quiet a hq =>
              obtain ⟨-, ha, -⟩ := Event.eq_none_of_isQuiet hq
              obtain ⟨hd, hf⟩ := fated_of_isQuiet .delivered hq es
              obtain ⟨hk, -⟩ := fated_of_isQuiet .kept hq es
              rw [List.filterMap_cons_none ha, iha, ihs, hd, hk, arriving, arriving, staying,
                staying, hf]
              exact ⟨rfl, rfl⟩
          | aside a c =>
              have hl : ledger (.built (.command c) true :: es) =
                  ⟨.command c, true, .ofAside es⟩ :: ledger es := rfl
              rw [fated_cons .delivered hl, fated_cons .kept hl, ihs]
              show es.filterMap Event.arrival? = _ ∧ _
              rw [iha]
              constructor
              · by_cases hf : Fate.ofAside es = .delivered
                · simp [arriving, released, asideReports, hf, Fate.ofAside]
                · simp [arriving, released, hf, Fate.ofAside]
              · by_cases hf : Fate.ofAside es = .kept
                · simp [staying, released, asideReports, hf, Fate.ofAside]
                · simp [staying, released, hf, Fate.ofAside]
          | command a c =>
              obtain ⟨allowed, rest, rfl, -⟩ := h.of_due
              have hl : ∀ es, ledger (.built (.command c) false :: es) =
                  ⟨.command c, false, .delivered⟩ :: ledger es := fun _ => rfl
              rw [fated_cons .delivered (hl _), fated_cons .kept (hl _), ihs]
              refine ⟨iha.trans (List.append_assoc _ _ _), ?_⟩
              cases allowed <;> rfl
          | step a s polled =>
              obtain ⟨allowed, rest, rfl, -⟩ := h.of_due
              have hl : ∀ es, ledger (.built (.step s) polled :: es) =
                  ⟨.step s, polled, .delivered⟩ :: ledger es := fun _ => rfl
              rw [fated_cons .delivered (hl _), fated_cons .kept (hl _), ihs]
              refine ⟨iha.trans (List.append_assoc _ _ _), ?_⟩
              cases allowed <;> rfl
          | clear a allowed | turn a =>
              rw [arriving_outgoing] at iha
              rw [staying_outgoing] at ihs
              constructor
              · refine iha.trans ?_
                cases ‹Bool› <;> rfl
              · refine ihs.trans ?_
                cases ‹Bool› <;> rfl
          | leave rest hx =>
              obtain ⟨ha, -⟩ := Event.arrival?_reported hx
              rw [List.filterMap_cons_some ha, iha, ihs, arriving_outgoing, staying_outgoing]
              exact ⟨rfl, rfl⟩

end Desk

end Fates

end Courier
