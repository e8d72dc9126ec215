import Courier.Proofs.QueueLife
import Mathlib

/-!
# Attempts at delivery

A worker tries a load until it is answered well or has been tried four times, and what became
of it makes no difference to what the worker does next. Over a run the attempts therefore come
in blocks, one for each load, and the answers come in the same blocks: all but the last of a
block are failures, and if the last is one too there have been four.

The invariant has the deliveries that are over in a list, and next to them the one in progress,
whose block is still open: it has been tried once more than it has failed. A caller has no part
in it. The ends of deliveries are in the history as the attempts are, so that one history says
in which order they came.
-/

namespace Courier

/-- A delivery that is over: what was posted, how often, and whether it arrived. -/
structure Delivery where
  load : Load
  tries : Nat
  delivered : Bool

namespace Delivery

/-- The attempts that make up a delivery. -/
def attempts (token : Option String) (d : Delivery) : List Attempt :=
  Queue.series token (d.load, d.tries)

/-- The answers to the attempts; only the last of them can be a good one. -/
def answers (d : Delivery) : List Bool := List.replicate (d.tries - 1) false ++ [d.delivered]

/-- The attempts and the end, as a history has them. -/
def events (token : Option String) (d : Delivery) : List QueueEvent :=
  (d.attempts token).map .attempted ++ [.settled d.load d.delivered]

/-- The load is one of this mode, and is given up after as many attempts as there can be. -/
structure IsProper (mode : QueueMode) (d : Delivery) : Prop where
  carried : mode.Carries d.load
  tried : 1 ≤ d.tries ∧ d.tries ≤ Queue.maxAttempts
  gaveUp : d.delivered = false → d.tries = Queue.maxAttempts

end Delivery

namespace QueueEvent

/-- The event is an attempt, or the end of a delivery. -/
def isPosting : QueueEvent → Bool
  | .attempted _ | .settled .. => true
  | _ => false

end QueueEvent

namespace Move

/-- The answer to an attempt, if the step is one: whether it was a good one. -/
def answer? : Move → Option Bool
  | .answer outcome => some outcome.isOk
  | _ => none

end Move

namespace Queue

variable {q q' : Queue} {heard : List Bool} {done : List Delivery}

/-- The attempts and the ends of deliveries, in their order. -/
def postings (q : Queue) : List QueueEvent := q.history.filter QueueEvent.isPosting

theorem postings_record_of_not {e : QueueEvent} (h : e.isPosting = false) :
    (q.record e).postings = q.postings := by
  rw [postings, record, List.filter_append, List.filter_cons_of_neg (by rw [h]; decide)]
  exact List.append_nil _

theorem postings_record {e : QueueEvent} (h : e.isPosting = true) :
    (q.record e).postings = q.postings ++ [e] := by
  rw [postings, record, List.filter_append, List.filter_cons_of_pos h]
  rfl

theorem postings_note (q : Queue) (e : Log.Entry) : (q.note e).postings = q.postings :=
  postings_record_of_not rfl

/-- The attempts at the load that is being posted. -/
def underway (q : Queue) : List Attempt := q.current.flatMap (series q.token)

/-- The answers to them, as far as they have been heard. -/
def failed (q : Queue) : List Bool := q.current.flatMap fun t => List.replicate (t.2 - 1) false

theorem underway_posting {load : Load} {failures : Nat} (hw : q.worker = .posting load failures) :
    q.underway = List.replicate (failures + 1) ⟨load.url, q.token, load.body⟩ := by
  rw [underway, current_posting hw]
  exact List.append_nil _

theorem failed_posting {load : Load} {failures : Nat} (hw : q.worker = .posting load failures) :
    q.failed = List.replicate failures false := by
  rw [failed, current_posting hw]
  exact List.append_nil _

theorem underway_attempt (q : Queue) (load : Load) (failures : Nat) :
    (q.attempt load failures).underway =
      List.replicate (failures + 1) ⟨load.url, q.token, load.body⟩ := underway_posting rfl

theorem failed_attempt (q : Queue) (load : Load) (failures : Nat) :
    (q.attempt load failures).failed = List.replicate failures false := failed_posting rfl

/-! ## Blocks -/

/-- What has been posted and what has been answered come in the blocks of these deliveries, and of
the one in progress. -/
structure Blocks (q : Queue) (heard : List Bool) (done : List Delivery) : Prop where
  postings : q.postings =
    done.flatMap (Delivery.events q.token) ++ q.underway.map QueueEvent.attempted
  heard : heard = done.flatMap Delivery.answers ++ q.failed
  proper : ∀ d ∈ done, d.IsProper q.mode

theorem Blocks.same (h : q.Blocks heard done) (hm : q'.mode = q.mode) (ht : q'.token = q.token)
    (hw : q'.current = q.current) (hp : q'.postings = q.postings) : q'.Blocks heard done where
  postings := by rw [hp, h.postings, underway, underway, ht, hw]
  heard := by rw [h.heard, failed, failed, hw]
  proper := hm ▸ h.proper

theorem Blocks.note (h : q.Blocks heard done) (e : Log.Entry) : (q.note e).Blocks heard done :=
  h.same rfl rfl rfl (postings_note q e)

theorem postings_attempt (q : Queue) (load : Load) (failures : Nat) :
    (q.attempt load failures).postings =
      q.postings ++ [.attempted ⟨load.url, q.token, load.body⟩] := postings_record rfl

theorem postings_settle (q : Queue) (load : Load) (delivered : Bool) :
    (q.settle load delivered).postings = q.postings ++ [.settled load delivered] :=
  postings_record rfl

theorem Blocks.begin (h : q.Blocks heard done) (hw : q.current = []) (load : Load) :
    (q.attempt load 0).Blocks heard done where
  postings := by
    rw [postings_attempt, h.postings, underway_attempt, underway, hw]
    exact congrArg (· ++ _) (List.append_nil _)
  heard := by
    rw [h.heard, failed_attempt, failed, hw]
    rfl
  proper := h.proper

theorem Blocks.retry (h : q.Blocks heard done) {load : Load} {failures : Nat}
    (hw : q.worker = .posting load failures) :
    (q.attempt load (failures + 1)).Blocks (heard ++ [false]) done where
  postings := by
    have hseries : (q.attempt load (failures + 1)).underway =
        q.underway ++ [⟨load.url, q.token, load.body⟩] := by
      rw [underway_attempt, underway_posting hw]
      exact List.replicate_succ'
    rw [postings_attempt, h.postings, hseries, List.map_append, List.append_assoc]
    rfl
  heard := by
    rw [h.heard, failed_attempt, failed_posting hw, List.append_assoc, List.replicate_succ']
  proper := h.proper

theorem Blocks.settle (h : q.Blocks heard done) {load : Load} {failures : Nat} {delivered : Bool}
    (hw : q.worker = .posting load failures)
    (hd : Delivery.IsProper q.mode ⟨load, failures + 1, delivered⟩) :
    (q.settle load delivered).Blocks (heard ++ [delivered])
      (done ++ [⟨load, failures + 1, delivered⟩]) where
  postings := by
    rw [postings_settle, h.postings, underway_posting hw, List.flatMap_append, List.append_assoc]
    simp only [List.flatMap_singleton, List.append_assoc]
    exact congrArg _ (List.append_nil _).symm
  heard := by
    rw [h.heard, failed_posting hw, List.flatMap_append, List.append_assoc]
    simp only [List.flatMap_singleton, List.append_assoc]
    exact congrArg _ (List.append_nil _).symm
  proper := List.forall_mem_append.2 ⟨h.proper, List.forall_mem_singleton.2 hd⟩

/-- A step of the worker, which is none while it waits for an answer, begins a block or does
nothing to them. -/
theorem Blocks.step (h : q.Blocks heard done) (hs : q.step = some q') :
    q'.Blocks heard done := by
  have hnone : ∀ {load failures}, q.worker ≠ .posting load failures := fun hw => by
    cases (step_eq_none_of_posting hw).symm.trans hs
  have hidle : q.current = [] := current_eq_nil fun _ _ => hnone
  cases step_works hs with
  | leave e =>
      have hl : Blocks { q with worker := .finished } heard done := h.same rfl rfl hidle.symm rfl
      exact hl.note e
  | wait | rouse | begin | breakDown | gather => exact h.same rfl rfl hidle.symm rfl
  | skip => exact h.same rfl rfl rfl rfl
  | stall => exact h
  | @single p rest =>
      have hc : Blocks { q with channel := rest } heard done := h.same rfl rfl rfl rfl
      exact hc.begin hidle _
  | dispatch => exact (h.note _).begin hidle _
  | succeed hw | retry _ _ hw | giveUp _ _ hw => exact absurd hw hnone

/-- An answer is the next of the block that is open, and closes it if it is a good one or the
fourth. -/
theorem Blocks.answer (h : q.Blocks heard done) (hf : q.Formed) {load : Load} {failures : Nat}
    (hw : q.worker = .posting load failures) (outcome : Except Failure Unit) :
    ∃ done', (q.answer outcome).Blocks (heard ++ [outcome.isOk]) done' := by
  obtain ⟨hl, hn⟩ : q.mode.Carries load ∧ failures < maxAttempts := by
    have hq := hf.worker
    rwa [hw] at hq
  have htried : 1 ≤ failures + 1 ∧ failures + 1 ≤ maxAttempts := ⟨Nat.le_add_left _ _, hn⟩
  rcases answer_cases hw outcome with ⟨ho, he⟩ | ⟨ho, -, e, e', he⟩ | ⟨ho, hm, e, e', he⟩
  · rw [he, ho]
    exact ⟨_, h.settle hw ⟨hl, htried, nofun⟩⟩
  · rw [he, ho]
    exact ⟨done, ((h.note e).note e').retry hw⟩
  · rw [he, ho]
    exact ⟨_, ((h.note e).note e').settle hw ⟨hl, htried, fun _ => Nat.le_antisymm hn hm⟩⟩

/-! ## What the blocks say -/

theorem attempts_eq (q : Queue) : q.attempts = q.postings.filterMap QueueEvent.attempt? := by
  rw [attempts, postings, List.filterMap_filter]
  congr 1
  funext e
  cases e <;> rfl

theorem finished_eq (q : Queue) : q.finished = q.postings.flatMap QueueEvent.concluded := by
  rw [finished, postings]
  induction q.history with
  | nil => rfl
  | cons e es ih =>
      cases e with
      | attempted | settled => exact congrArg (_ ++ ·) ih
      | accepted | dropped | noted => exact ih

theorem filterMap_attempted (as : List Attempt) :
    (as.map QueueEvent.attempted).filterMap QueueEvent.attempt? = as := by
  rw [List.filterMap_map]
  exact List.filterMap_some

theorem flatMap_attempted (as : List Attempt) :
    (as.map QueueEvent.attempted).flatMap QueueEvent.concluded = [] := by
  induction as with
  | nil => rfl
  | cons a as ih => exact ih

theorem Blocks.attempts (h : q.Blocks heard done) :
    q.attempts = done.flatMap (Delivery.attempts q.token) ++ q.underway := by
  have hevents : ∀ d : Delivery,
      (d.events q.token).filterMap QueueEvent.attempt? = d.attempts q.token := fun d => by
    rw [Delivery.events, List.filterMap_append, filterMap_attempted]
    exact List.append_nil _
  rw [attempts_eq, h.postings, List.filterMap_append, filterMap_attempted, List.filterMap_flatMap]
  simp only [hevents]

theorem Blocks.finished (h : q.Blocks heard done) :
    q.finished = done.flatMap fun d => d.load.parcels := by
  have hevents : ∀ d : Delivery,
      (d.events q.token).flatMap QueueEvent.concluded = d.load.parcels := fun d => by
    rw [Delivery.events, List.flatMap_append, flatMap_attempted]
    exact List.append_nil _
  rw [finished_eq, h.postings, List.flatMap_append, flatMap_attempted, List.append_nil,
    List.flatMap_assoc]
  simp only [hevents]

theorem answer_over {load : Load} {failures : Nat} (hw : q.worker = .posting load failures)
    {outcome : Except Failure Unit} (ho : outcome.isOk = true ∨ failures + 1 = maxAttempts) :
    (q.answer outcome).postings = q.postings ++ [.settled load outcome.isOk] ∧
      (q.answer outcome).pending = q.pending - load.parcels.length := by
  rcases answer_cases hw outcome with ⟨hok, he⟩ | ⟨hok, hn, -⟩ | ⟨hok, -, e, e', he⟩
  · rw [he, hok]
    exact ⟨postings_settle _ _ _, rfl⟩
  · exact absurd ho (by simp [hok, Nat.ne_of_lt hn])
  · rw [he, hok, postings_settle, postings_note, postings_note]
    exact ⟨rfl, rfl⟩

theorem answer_again {load : Load} {failures : Nat} (hw : q.worker = .posting load failures)
    {outcome : Except Failure Unit} (ho : outcome.isOk = false)
    (hn : failures + 1 < maxAttempts) :
    (q.answer outcome).postings = q.postings ++ [.attempted ⟨load.url, q.token, load.body⟩] ∧
      (q.answer outcome).pending = q.pending := by
  rcases answer_cases hw outcome with ⟨hok, -⟩ | ⟨-, -, e, e', he⟩ | ⟨-, hm, -⟩
  · cases ho.symm.trans hok
  · rw [he, postings_attempt, postings_note, postings_note]
    exact ⟨rfl, rfl⟩
  · exact absurd hn (Nat.not_lt.2 hm)

theorem Works.finished_of_broken (h : Works q q') (hb : q'.worker = .broken) :
    q'.finished = q.finished := by
  cases h with
  | breakDown | skip | stall => rfl
  | leave | rouse | wait | single | begin | gather | dispatch | succeed | retry | giveUp =>
      cases hb

end Queue

/-! ## Along a run -/

namespace Scene

variable {s t : Scene} {m : Move} {ms : List Move} {mode : QueueMode} {token : Option String}
  {heard : List Bool} {done : List Delivery}

theorem Step.postings_of_caller (h : Step s m t) (hm : m.byWorker = false) :
    t.queue.postings = s.queue.postings ∧ t.queue.worker = s.queue.worker := by
  have hdropped : ∀ (q : Queue) (p : Parcel) (e : Log.Entry),
      ((q.record (.dropped p)).note e).postings = q.postings := fun q p e =>
    (Queue.postings_note _ e).trans (Queue.postings_record_of_not rfl)
  cases h with
  | work | answer => cases hm
  | enter | raise | stop => exact ⟨rfl, rfl⟩
  | refuse => exact ⟨hdropped _ _ _, rfl⟩
  | send =>
      unfold Queue.send
      split
      · exact ⟨hdropped _ _ _, rfl⟩
      · exact ⟨Queue.postings_record_of_not rfl, rfl⟩
  | wake =>
      refine ⟨?_, Queue.wake_worker _⟩
      rw [Queue.postings, Queue.wake_history, Queue.postings]

theorem Step.blocks (h : Step s m t) (hf : s.queue.Formed) (hb : s.queue.Blocks heard done) :
    ∃ done', t.queue.Blocks (heard ++ m.answer?.toList) done' := by
  by_cases hm : m.byWorker = true
  · cases h with
    | work hq => exact ⟨done, (List.append_nil heard).symm ▸ hb.step hq⟩
    | answer outcome hw => exact hb.answer hf hw outcome
    | enter | refuse | raise | send | stop | wake => cases hm
  · have hnone : m.answer? = none := by
      cases m with
      | work | answer => exact absurd rfl hm
      | submit | raise | send | stop | wake => rfl
    obtain ⟨hp, hw⟩ := h.postings_of_caller (Bool.eq_false_iff.2 hm)
    refine ⟨done, ?_⟩
    rw [hnone, Option.toList_none, List.append_nil]
    exact hb.same h.frame.1 h.frame.2 (by rw [Queue.current, Queue.current, hw]) hp

theorem Runs.blocks (h : Runs (start mode token) ms s) :
    ∃ done, s.queue.Blocks (ms.filterMap Move.answer?) done := by
  induction h with
  | nil => exact ⟨[], rfl, rfl, List.forall_mem_nil _⟩
  | @snoc t u ms m hr hm ih =>
      obtain ⟨done, hb⟩ := ih
      have hheard : (ms ++ [m]).filterMap Move.answer? =
          ms.filterMap Move.answer? ++ m.answer?.toList := by
        rw [List.filterMap_append]
        cases m <;> rfl
      rw [hheard]
      exact hm.blocks hr.formed hb

theorem Step.finished_of_broken (h : Step s m t) (hb : t.queue.worker = .broken) :
    t.queue.finished = s.queue.finished := by
  by_cases hm : m.byWorker = true
  · exact (h.works hm).1.finished_of_broken hb
  · rw [Queue.finished_eq, Queue.finished_eq, (h.postings_of_caller (Bool.eq_false_iff.2 hm)).1]

theorem Runs.order (h : Runs (start mode token) ms s) :
    s.queue.finished ++ s.queue.held <+: Courier.submitted ms := by
  induction h with
  | nil => exact List.prefix_refl _
  | @snoc t u ms m hr hm ih =>
      rcases (hr.snoc hm).sound_or_stuck with hs | ⟨hs, -⟩
      · rw [(hr.snoc hm).submitted hs, hs.accounts.order, List.append_assoc _ u.queue.queued]
        exact List.prefix_append _ _
      · -- What a broken worker had in hand is lost; what was over before is a prefix still.
        have hheld : u.queue.held = [] := by rw [Queue.held, hs.broken]
        rw [hheld, List.append_nil, hm.finished_of_broken hs.broken, submitted_snoc]
        exact (List.prefix_append _ _).trans (ih.trans (List.prefix_append _ _))

theorem Runs.counted (h : Runs (start mode token) ms s) {load : Load} {failures : Nat}
    (hw : s.queue.worker = .posting load failures) : load.parcels.length ≤ s.queue.pending := by
  rcases h.sound_or_stuck with hs | ⟨hs, -⟩
  · have hc := hs.accounts.count
    rw [Queue.held_posting hw] at hc
    omega
  · cases hs.broken.symm.trans hw

/-- The attempts of a run, in the blocks of the deliveries that are over and of the one in
progress. -/
structure Posts (mode : QueueMode) (token : Option String) (ms : List Move) (s : Scene)
    (done : List Delivery) : Prop where
  /-- All attempts of a block are alike; `Delivery.attempts` and `Queue.series` repeat one. -/
  attempts : s.queue.attempts =
    done.flatMap (Delivery.attempts token) ++ s.queue.current.flatMap (Queue.series token)
  /-- The answers come in the same blocks. Nothing but the last of a block is a success. -/
  answers : ms.filterMap Move.answer? = done.flatMap Delivery.answers ++ s.queue.failed
  proper : ∀ d ∈ done, d.IsProper mode
  current : ∀ t ∈ s.queue.current, mode.Carries t.1 ∧ 1 ≤ t.2 ∧ t.2 ≤ Queue.maxAttempts
  /-- The blocks come in the order of the reports, each of which is in one of them. -/
  order : (done.flatMap fun d => d.load.parcels) ++ s.queue.held <+: submitted ms
  /-- A delivery is over before the first attempt of the next. -/
  apart : s.queue.postings = done.flatMap (Delivery.events token) ++
    (s.queue.current.flatMap (Queue.series token)).map .attempted
  /-- The success or the fourth failure ends the delivery, and takes its reports off the count. -/
  settles : ∀ load failures outcome t, s.queue.worker = .posting load failures →
    Step s (.answer outcome) t → outcome.isOk = true ∨ failures + 1 = Queue.maxAttempts →
    t.queue.postings = s.queue.postings ++ [.settled load outcome.isOk] ∧
      t.queue.pending + load.parcels.length = s.queue.pending
  /-- Any other failure leads to one more attempt, and the count is as it was. -/
  retries : ∀ load failures outcome t, s.queue.worker = .posting load failures →
    Step s (.answer outcome) t → outcome.isOk = false → failures + 1 ≠ Queue.maxAttempts →
    t.queue.postings = s.queue.postings ++ [.attempted ⟨load.url, token, load.body⟩] ∧
      t.queue.pending = s.queue.pending

/-- Over any run, and however its attempts are answered, the attempts come in blocks, one for each
delivery, and no block begins before the one before it is closed. -/
theorem attempts_in_blocks (h : Runs (start mode token) ms s) :
    ∃ done, Posts mode token ms s done := by
  obtain ⟨done, hb⟩ := h.blocks
  obtain ⟨hmode, htoken⟩ := h.frame
  have hworker := h.formed.worker
  refine ⟨done, ?_⟩
  constructor
  case attempts => rw [hb.attempts, htoken, Queue.underway, htoken]
  case answers => exact hb.heard
  case proper => exact hmode ▸ hb.proper
  case current =>
    intro t ht
    cases hw : s.queue.worker with
    | posting load failures =>
        rw [Queue.current_posting hw, List.mem_singleton] at ht
        rw [hw, hmode] at hworker
        rw [ht]
        exact ⟨hworker.1, Nat.le_add_left _ _, hworker.2⟩
    | deciding | waiting | collecting | finished | broken =>
        rw [Queue.current, hw] at ht
        cases ht
  case order =>
    rw [← hb.finished]
    exact h.order
  case apart => rw [hb.postings, htoken, Queue.underway, htoken]
  case settles =>
    intro load failures outcome t hw ht ho
    cases ht with
    | answer =>
        obtain ⟨hp, hn⟩ := Queue.answer_over hw ho
        exact ⟨hp, hn ▸ Nat.sub_add_cancel (h.counted hw)⟩
  case retries =>
    intro load failures outcome t hw ht ho hm
    rw [hw] at hworker
    cases ht with
    | answer => exact htoken ▸ Queue.answer_again hw ho (Nat.lt_of_le_of_ne hworker.2 hm)

/-- The first of two reports is given up after four failures, and the other arrives at the second
attempt. -/
theorem attempts_in_blocks_givenUp : ∃ ms s,
    Runs (start .single none) ms s ∧
      ms.filterMap Move.answer? = [false, false, false, false, false, true] ∧
      s.queue.attempts.length = 6 ∧ s.queue.pending = 0 ∧ ∃ done, Posts .single none ms s done := by
  have hrefused : ∀ {ms : List Move} {t : Scene} {load : Load} {failures : Nat},
      Runs (start .single none) ms t → t.queue.worker = .posting load failures →
      Runs (start .single none) (ms ++ [.answer (.error (.general "refused"))])
        { t with queue := t.queue.answer (.error (.general "refused")) } :=
    fun h hw => h.snoc (.answer _ hw)
  have hboth := ((Runs.nil (start .single none)).submit rfl rfl .blank).submit rfl rfl .blank
  have hfirst := (hboth.work rfl).work rfl
  have hgivenUp := hrefused (hrefused (hrefused (hrefused hfirst rfl) rfl) rfl) rfl
  have hsecond := (hgivenUp.work rfl).work rfl
  have hall := (hrefused hsecond rfl).snoc (.answer (.ok ()) rfl)
  exact ⟨_, _, hall, rfl, rfl, rfl, attempts_in_blocks hall⟩

end Scene
end Courier
