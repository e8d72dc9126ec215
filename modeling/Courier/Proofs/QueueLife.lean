import Courier.Proofs.QueueOrder
import Courier.Queue.Clock

/-!
# The life of a queue in time

Where the calls to a queue come one after the other, all that can happen to it between
its start and its end is a step of the worker, an answer, a report, a stop, or a note.
Over such a life the attempts come in series, one for each load: a load is tried once
or up to four times over, and then the next one has its turn. The loads taken together
hold the reports in the order they were accepted, without a gap. This is so of a worker
that breaks down as well, which leaves the reports that come after unposted.

In time an attempt is made in two moments. The worker decides on it, and then it goes
out; what has gone out lags behind what was decided by one attempt at most.
-/

namespace Courier

namespace Queue

/-- The queues of this mode and token, in all that they can go through. -/
inductive Lives (mode : QueueMode) (token : Option String) : Queue → Prop where
  | start : Lives mode token (start mode token)
  | work {q q' : Queue} : Lives mode token q → Works q q' → Lives mode token q'
  | submit {q : Queue} (p : Parcel) : Lives mode token q → Lives mode token (q.submit p)
  | beginStop {q : Queue} : Lives mode token q → Lives mode token q.beginStop
  | note {q : Queue} (e : Log.Entry) : Lives mode token q → Lives mode token (q.note e)
  | await {q : Queue} : Lives mode token q → Lives mode token { q with awaited := true }

variable {mode : QueueMode} {token : Option String} {q q' : Queue}

/-! ## What the caller leaves alone -/

/-- What may have happened to the channel, the counters and the log, but nothing to what
the worker does, nor to what it has done. -/
structure Apart (q q' : Queue) : Prop where
  mode : q'.mode = q.mode
  token : q'.token = q.token
  worker : q'.worker = q.worker
  attempts : q'.attempts = q.attempts
  finished : q'.finished = q.finished
  formed : ∀ e ∈ q'.history, e ∈ q.history ∨ e.Formed q.mode q.token

theorem apart_record (q : Queue) {e : QueueEvent} (ha : QueueEvent.attempt? e = none)
    (hc : e.concluded = []) (hf : e.Formed q.mode q.token) : q.Apart (q.record e) where
  mode := rfl
  token := rfl
  worker := rfl
  attempts := by simp [attempts, record, ha]
  finished := by rw [finished_record, hc, List.append_nil]
  formed e' he := (List.mem_append.1 he).imp id fun h => by rwa [List.mem_singleton.1 h]

theorem Apart.trans {q q' q'' : Queue} (h : q.Apart q') (h' : q'.Apart q'') : q.Apart q'' where
  mode := h'.mode.trans h.mode
  token := h'.token.trans h.token
  worker := h'.worker.trans h.worker
  attempts := h'.attempts.trans h.attempts
  finished := h'.finished.trans h.finished
  formed e he := (h'.formed e he).elim (h.formed e) fun hf => .inr (by rwa [h.mode, h.token] at hf)

theorem apart_of_history {q q' : Queue} (hm : q'.mode = q.mode) (ht : q'.token = q.token)
    (hw : q'.worker = q.worker) (hh : q'.history = q.history) : q.Apart q' where
  mode := hm
  token := ht
  worker := hw
  attempts := by rw [attempts, hh, attempts]
  finished := by rw [finished, hh, finished]
  formed e he := .inl (hh ▸ he)

theorem apart_note (q : Queue) (e : Log.Entry) : q.Apart (q.note e) :=
  apart_record q rfl rfl trivial

theorem apart_refuse (q : Queue) (p : Parcel) : q.Apart (q.refuse p) :=
  (apart_record q (e := .dropped p) rfl rfl trivial).trans (apart_note _ _)

theorem apart_submit (q : Queue) (p : Parcel) : q.Apart (q.submit p) := by
  unfold submit
  split
  · have hraise : q.Apart q.raise := apart_of_history rfl rfl rfl rfl
    refine hraise.trans ?_
    unfold send
    split
    · have hlower : q.raise.Apart { q.raise with pending := q.raise.pending - 1 } :=
        apart_of_history rfl rfl rfl rfl
      exact (hlower.trans (apart_record _ (e := .dropped p) rfl rfl trivial)).trans (apart_note _ _)
    · have hsend : q.raise.Apart { q.raise with channel := q.raise.channel ++ [.parcel p] } :=
        apart_of_history rfl rfl rfl rfl
      exact hsend.trans (apart_record _ (e := .accepted p) rfl rfl trivial)
  · exact apart_refuse q p

theorem apart_beginStop (q : Queue) : q.Apart q.beginStop := by
  have hclose : q.Apart q.close := apart_of_history rfl rfl rfl rfl
  refine hclose.trans ?_
  show q.close.Apart q.close.wake
  unfold wake
  split
  · exact apart_of_history rfl rfl rfl rfl
  · exact apart_of_history rfl rfl rfl rfl

theorem Formed.of_apart (hf : q.Formed) (h : q.Apart q') : q'.Formed where
  worker := by
    rw [h.worker, h.mode]
    exact hf.worker
  history e he := by
    rw [h.mode, h.token]
    exact (h.formed e he).elim (hf.history e) id

/-! ## What a life keeps -/

theorem Lives.frame (h : Lives mode token q) : q.mode = mode ∧ q.token = token := by
  have hapart : ∀ {q q' : Queue}, q.Apart q' → q.mode = mode ∧ q.token = token →
      q'.mode = mode ∧ q'.token = token := fun h ih => ⟨h.mode.trans ih.1, h.token.trans ih.2⟩
  induction h with
  | start => exact ⟨rfl, rfl⟩
  | work _ hw ih => exact ⟨hw.frame.1.trans ih.1, hw.frame.2.1.trans ih.2⟩
  | submit p _ ih => exact hapart (apart_submit _ p) ih
  | beginStop _ ih => exact hapart (apart_beginStop _) ih
  | note e _ ih => exact hapart (apart_note _ e) ih
  | await _ ih => exact ih

theorem Lives.formed (h : Lives mode token q) : q.Formed := by
  induction h with
  | start => exact ⟨trivial, fun e he => by rw [List.mem_singleton.1 he]; trivial⟩
  | work _ hw ih => exact hw.formed ih
  | submit p _ ih => exact ih.of_apart (apart_submit _ p)
  | beginStop _ ih => exact ih.of_apart (apart_beginStop _)
  | note e _ ih => exact ih.note e
  | await _ ih => exact ih.become rfl rfl rfl ih.worker

/-- The reports are in their places, or the worker has broken down. -/
def Kept (q : Queue) : Prop :=
  (q.Accounts q.accepted 0 ∧ q.worker ≠ .broken ∧
    (q.worker = .finished → q.running = false ∧ q.pending = 0)) ∨
  (q.worker = .broken ∧ q.finished <+: q.accepted)

theorem accepted_submit_of_gone (hr : q.running = true) (hg : q.isGone = true) (p : Parcel) :
    (q.submit p).accepted = q.accepted := by
  have hg' : q.raise.isGone = true := hg
  rw [submit, if_pos hr, send, if_pos hg', accepted_note, accepted_record]
  exact List.append_nil _

theorem accepted_submit_of_closed (hr : q.running = false) (p : Parcel) :
    (q.submit p).accepted = q.accepted := by
  rw [submit, hr, if_neg Bool.false_ne_true, accepted_refuse]

theorem accepted_submit_of_open (hr : q.running = true) (hg : q.isGone = false) (p : Parcel) :
    (q.submit p).accepted = q.accepted ++ [p] := by
  have hg' : q.raise.isGone = false := hg
  rw [submit, if_pos hr, accepted_send hg']
  rfl

theorem running_submit (q : Queue) (p : Parcel) : (q.submit p).running = q.running := by
  unfold submit
  split
  · exact send_running _ _
  · rfl

theorem Works.not_broken (h : Works q q') : q.worker ≠ .broken := by
  intro hb
  cases h with
  | leave _ hw | wait hw | rouse hw | single hw | begin hw | breakDown hw | gather hw | skip hw
  | dispatch hw | stall hw | succeed hw | retry _ _ hw | giveUp _ _ hw => rw [hb] at hw; cases hw

theorem Works.kept (h : Works q q') (hk : q.Kept) : q'.Kept := by
  rcases hk with ⟨ha, -, -⟩ | ⟨hb, -⟩
  · by_cases hb : q'.worker = .broken
    · -- What is given up in a breakdown is all that is not over.
      refine .inr ⟨hb, ?_⟩
      cases h with
      | breakDown =>
          have horder := ha.order
          rw [List.append_assoc] at horder
          exact ⟨q.held ++ q.queued, horder.symm⟩
      | skip hc | stall hc => cases hc.symm.trans hb
      | leave | rouse | wait | single | begin | gather | dispatch | succeed | retry | giveUp =>
          cases hb
    · refine .inl ⟨?_, hb, h.leaves⟩
      rw [h.accepted]
      exact h.accounts ha hb
  · exact absurd hb h.not_broken

theorem isGone_eq_false_of_running (hr : q.running = true) (hb : q.worker ≠ .broken)
    (hf : q.worker = .finished → q.running = false ∧ q.pending = 0) : q.isGone = false := by
  cases hq : q.worker with
  | finished =>
      have hclosed := (hf hq).1
      rw [hr] at hclosed
      cases hclosed
  | broken => exact absurd hq hb
  | deciding | waiting | collecting | posting => rw [isGone, hq]

theorem Kept.submit (h : q.Kept) (p : Parcel) : (q.submit p).Kept := by
  have hw := (apart_submit q p).worker
  cases hr : q.running with
  | false =>
      rw [Kept, accepted_submit_of_closed hr, hw, (apart_submit q p).finished]
      rw [Queue.submit, hr, if_neg Bool.false_ne_true]
      exact h.imp (fun ⟨ha, hb, hf⟩ => ⟨ha.refuse p, hb, fun h => hf h⟩) id
  | true =>
      rcases h with ⟨ha, hb, hf⟩ | ⟨hb, hp⟩
      · have hg := isGone_eq_false_of_running hr hb hf
        left
        rw [accepted_submit_of_open hr hg, hw]
        refine ⟨?_, hb, fun h => ?_⟩
        · rw [Queue.submit, if_pos hr]
          exact ha.raise.send hg p
        · have hclosed := (hf h).1
          rw [hr] at hclosed
          cases hclosed
      · right
        have hg : q.isGone = true := by rw [isGone, hb]
        rw [hw, accepted_submit_of_gone hr hg, (apart_submit q p).finished]
        exact ⟨hb, hp⟩

theorem Kept.beginStop (h : q.Kept) : q.beginStop.Kept := by
  have hacc : q.beginStop.accepted = q.accepted := accepted_wake q.close
  rw [Kept, hacc, (apart_beginStop q).worker, (apart_beginStop q).finished]
  refine h.imp (fun ⟨ha, hb, hf⟩ => ⟨?_, hb, fun h => ?_⟩) id
  · have hclose : q.close.Accounts q.accepted 0 := ⟨ha.order, ha.count⟩
    exact hclose.wake
  · refine ⟨wake_running q.close, ?_⟩
    show q.close.wake.pending = 0
    rw [wake_pending]
    exact (hf h).2

theorem Lives.kept (h : Lives mode token q) : q.Kept := by
  induction h with
  | start => exact .inl ⟨⟨rfl, rfl⟩, nofun, nofun⟩
  | work _ hw ih => exact hw.kept ih
  | submit p _ ih => exact ih.submit p
  | beginStop _ ih => exact ih.beginStop
  | @note q e _ ih =>
      rw [Kept, accepted_note, finished_note]
      exact ih.imp (fun ⟨ha, hb, hf⟩ => ⟨ha.note e, hb, hf⟩) id
  | await _ ih => exact ih.imp (fun ⟨ha, hb, hf⟩ => ⟨⟨ha.order, ha.count⟩, hb, hf⟩) id

/-- A worker breaks down for want of room only. -/
theorem Lives.not_broken (h : Lives mode token q) (hf : mode.fits = true) :
    q.worker ≠ .broken := by
  induction h with
  | start => nofun
  | @work q q' hl hw ih =>
      intro hb
      rcases hl.kept with ⟨ha, -, -⟩ | ⟨hbroken, -⟩
      · have hroom := (hw.breaks ha hb).1
        rw [hl.frame.1, hf] at hroom
        cases hroom
      · exact ih hbroken
  | submit p _ ih => exact fun hb => ih ((apart_submit _ p).worker.symm.trans hb)
  | beginStop _ ih => exact fun hb => ih ((apart_beginStop _).worker.symm.trans hb)
  | note _ _ ih => exact ih
  | await _ ih => exact ih

/-- Where there is room for batches, the reports are in their places. -/
theorem Lives.accounts (h : Lives mode token q) (hf : mode.fits = true) :
    q.Accounts q.accepted 0 := by
  rcases h.kept with ⟨ha, -, -⟩ | ⟨hb, -⟩
  · exact ha
  · exact absurd hb (h.not_broken hf)

/-- A worker that has left has left nothing behind. -/
theorem Lives.closed_of_gone (h : Lives mode token q) (hf : mode.fits = true)
    (hg : q.isGone = true) : q.running = false ∧ q.pending = 0 := by
  rcases h.kept with ⟨-, hb, hleft⟩ | ⟨hb, -⟩
  · unfold isGone at hg
    split at hg
    · next hw => exact hleft hw
    · next hw => exact absurd hw hb
    · cases hg
  · exact absurd hb (h.not_broken hf)

theorem Accounts.eq_nil {came : List Parcel} (ha : q.Accounts came 0) (hp : q.pending = 0) :
    q.held = [] ∧ q.queued = [] := by
  have hcount := ha.count
  rw [hp] at hcount
  exact ⟨List.length_eq_zero_iff.1 (by omega), List.length_eq_zero_iff.1 (by omega)⟩

/-- When the worker has left, all that was accepted is over. -/
theorem Lives.finished_eq_accepted (h : Lives mode token q) (hf : mode.fits = true)
    (hg : q.isGone = true) : q.finished = q.accepted := by
  have ha := h.accounts hf
  obtain ⟨hheld, hqueued⟩ := ha.eq_nil (h.closed_of_gone hf hg).2
  rw [ha.order, hheld, hqueued, List.append_nil, List.append_nil]

/-- The deliveries that are over and the one in progress are of reports as they came. -/
theorem Lives.order (h : Lives mode token q) : q.finished ++ q.held <+: q.accepted := by
  rcases h.kept with ⟨ha, -, -⟩ | ⟨hb, hp⟩
  · exact ⟨q.queued, ha.order.symm⟩
  · have hh : q.held = [] := by rw [held, hb]
    rw [hh, List.append_nil]
    exact hp

/-! ## Series of attempts -/

/-- So many attempts at a load. -/
def series (token : Option String) (t : Load × Nat) : List Attempt :=
  List.replicate t.2 ⟨t.1.url, token, t.1.body⟩

/-- These attempts are made at these reports: the loads hold the reports as they stand here, and
each load is tried once or up to four times over before the next one is. -/
def AttemptsAt (mode : QueueMode) (token : Option String) (as : List Attempt)
    (ps : List Parcel) : Prop :=
  ∃ ts : List (Load × Nat), as = ts.flatMap (series token) ∧
    (∀ t ∈ ts, 1 ≤ t.2 ∧ t.2 ≤ maxAttempts ∧ mode.Carries t.1) ∧
    ps = ts.flatMap fun t => t.1.parcels

theorem attemptsAt_nil (mode : QueueMode) (token : Option String) : AttemptsAt mode token [] [] :=
  ⟨[], rfl, List.forall_mem_nil _, rfl⟩

theorem AttemptsAt.append {as as' : List Attempt} {ps ps' : List Parcel}
    (h : AttemptsAt mode token as ps) (h' : AttemptsAt mode token as' ps') :
    AttemptsAt mode token (as ++ as') (ps ++ ps') := by
  obtain ⟨ts, rfl, hts, rfl⟩ := h
  obtain ⟨ts', rfl, hts', rfl⟩ := h'
  refine ⟨ts ++ ts', List.flatMap_append.symm, fun t ht => ?_, List.flatMap_append.symm⟩
  exact (List.mem_append.1 ht).elim (hts t) (hts' t)

/-- The load that is being posted, and how often it has been tried. -/
def current (q : Queue) : List (Load × Nat) :=
  match q.worker with
  | .posting load failures => [(load, failures + 1)]
  | _ => []

theorem current_posting {load : Load} {failures : Nat} (hw : q.worker = .posting load failures) :
    q.current = [(load, failures + 1)] := by
  rw [current, hw]

theorem current_eq_nil (hw : ∀ load failures, q.worker ≠ .posting load failures) :
    q.current = [] := by
  cases h : q.worker with
  | posting load failures => exact absurd h (hw load failures)
  | deciding | waiting | collecting | finished | broken => rw [current, h]

/-- The attempts that were made are those of these loads and of the one being posted. -/
structure Tried (q : Queue) (done : List (Load × Nat)) : Prop where
  attempts : q.attempts = (done ++ q.current).flatMap (series q.token)
  finished : q.finished = done.flatMap fun t => t.1.parcels
  bounds : ∀ t ∈ done, 1 ≤ t.2 ∧ t.2 ≤ maxAttempts ∧ q.mode.Carries t.1

variable {done : List (Load × Nat)}

theorem Tried.same (h : q.Tried done) (hm : q'.mode = q.mode) (ht : q'.token = q.token)
    (ha : q'.attempts = q.attempts) (hf : q'.finished = q.finished)
    (hc : q'.current = q.current) : q'.Tried done := by
  constructor
  · rw [ha, hc, ht]
    exact h.attempts
  · exact hf.trans h.finished
  · rw [hm]
    exact h.bounds

theorem Tried.note (h : q.Tried done) (e : Log.Entry) : (q.note e).Tried done :=
  h.same rfl rfl (apart_note q e).attempts (finished_note q e) rfl

theorem attempts_attempt (q : Queue) (load : Load) (failures : Nat) :
    (q.attempt load failures).attempts = q.attempts ++ [⟨load.url, q.token, load.body⟩] := by
  simp [attempts, attempt, record, QueueEvent.attempt?]

theorem finished_attempt (q : Queue) (load : Load) (failures : Nat) :
    (q.attempt load failures).finished = q.finished := by
  rw [attempt, finished_record]
  exact List.append_nil _

theorem attempts_settle (q : Queue) (load : Load) (delivered : Bool) :
    (q.settle load delivered).attempts = q.attempts := by
  simp [attempts, settle, record, QueueEvent.attempt?]

theorem finished_settle (q : Queue) (load : Load) (delivered : Bool) :
    (q.settle load delivered).finished = q.finished ++ load.parcels := by
  rw [settle, finished_record]
  rfl

theorem Tried.begin (h : q.Tried done) (hw : q.current = []) (load : Load) :
    (q.attempt load 0).Tried done := by
  refine ⟨?_, (finished_attempt q load 0).trans h.finished, h.bounds⟩
  rw [attempts_attempt, h.attempts, hw, List.append_nil, List.flatMap_append]
  rfl

theorem Tried.retry (h : q.Tried done) {load : Load} {failures : Nat}
    (hw : q.worker = .posting load failures) : (q.attempt load (failures + 1)).Tried done := by
  refine ⟨?_, (finished_attempt q load _).trans h.finished, h.bounds⟩
  rw [attempts_attempt, h.attempts, current_posting hw, List.flatMap_append, List.flatMap_append,
    List.append_assoc]
  refine congrArg _ ?_
  show List.replicate (failures + 1) _ ++ [] ++ [_] = List.replicate (failures + 2) _ ++ []
  rw [List.append_nil, List.append_nil]
  exact List.replicate_succ'.symm

theorem Tried.settle (h : q.Tried done) {load : Load} {failures : Nat}
    (hw : q.worker = .posting load failures) (hn : failures < maxAttempts)
    (hl : q.mode.Carries load) (delivered : Bool) :
    (q.settle load delivered).Tried (done ++ [(load, failures + 1)]) := by
  constructor
  · rw [attempts_settle, h.attempts, current_posting hw]
    exact congrArg _ (List.append_nil _).symm
  · rw [finished_settle, h.finished, List.flatMap_append]
    exact congrArg _ (List.append_nil _).symm
  · intro t ht
    rcases List.mem_append.1 ht with ht | ht
    · exact h.bounds t ht
    · rw [List.mem_singleton.1 ht]
      exact ⟨Nat.succ_le_succ (Nat.zero_le _), hn, hl⟩

theorem Works.tried (h : Works q q') (hf : q.Formed) (ht : q.Tried done) :
    ∃ done', q'.Tried done' := by
  have hw := hf.worker
  cases h with
  | leave e hd =>
      have hl : Tried { q with worker := .finished } done :=
        ht.same rfl rfl rfl rfl (by rw [current, current, hd])
      exact ⟨done, hl.note e⟩
  | wait hd | rouse hd => exact ⟨done, ht.same rfl rfl rfl rfl (by rw [current, current, hd])⟩
  | begin hd | breakDown hd => exact ⟨done, ht.same rfl rfl rfl rfl (by rw [current, current, hd])⟩
  | gather hd => exact ⟨done, ht.same rfl rfl rfl rfl (by rw [current, current, hd])⟩
  | skip => exact ⟨done, ht.same rfl rfl rfl rfl rfl⟩
  | stall => exact ⟨done, ht⟩
  | @single p rest hd =>
      have hc : Tried { q with channel := rest } done := ht.same rfl rfl rfl rfl rfl
      exact ⟨done, hc.begin (by rw [current]; simp only [hd]) _⟩
  | dispatch hd => exact ⟨done, (ht.note _).begin (by rw [current]; simp only [note, record, hd]) _⟩
  | succeed hp =>
      rw [hp] at hw
      exact ⟨_, ht.settle hp hw.2 hw.1 true⟩
  | retry e e' hp => exact ⟨done, ((ht.note e).note e').retry hp⟩
  | giveUp e e' hp =>
      rw [hp] at hw
      exact ⟨_, ((ht.note e).note e').settle hp hw.2 hw.1 false⟩

theorem Tried.of_apart (h : q.Tried done) (ha : q.Apart q') : q'.Tried done :=
  h.same ha.mode ha.token ha.attempts ha.finished (by rw [current, current, ha.worker])

theorem Lives.tried (h : Lives mode token q) : ∃ done, q.Tried done := by
  induction h with
  | start => exact ⟨[], rfl, rfl, List.forall_mem_nil _⟩
  | work hl hw ih =>
      obtain ⟨done, ht⟩ := ih
      exact hw.tried hl.formed ht
  | submit p _ ih => exact ih.imp fun _ ht => ht.of_apart (apart_submit _ p)
  | beginStop _ ih => exact ih.imp fun _ ht => ht.of_apart (apart_beginStop _)
  | note e _ ih => exact ih.imp fun _ ht => ht.note e
  | await _ ih => exact ih.imp fun _ ht => ht.same rfl rfl rfl rfl rfl

/-! ## What goes out -/

/-- One thing on the side of the worker decides on one attempt, or on none. -/
theorem Works.attempts (h : Works q q') :
    (∃ load failures, q'.worker = .posting load failures ∧
      q'.attempts = q.attempts ++ [⟨load.url, q.token, load.body⟩]) ∨
    ((∀ load failures, q'.worker ≠ .posting load failures) ∧ q'.attempts = q.attempts) := by
  cases h with
  | leave e => exact .inr ⟨nofun, (apart_note _ e).attempts⟩
  | wait | rouse | begin | breakDown | gather => exact .inr ⟨nofun, rfl⟩
  | skip hc | stall hc =>
      refine .inr ⟨fun load failures hp => ?_, rfl⟩
      cases hc.symm.trans hp
  | single => exact .inl ⟨_, _, rfl, attempts_attempt _ _ _⟩
  | dispatch =>
      refine .inl ⟨_, _, rfl, (attempts_attempt _ _ _).trans ?_⟩
      rw [(apart_note _ _).attempts]
      rfl
  | succeed => exact .inr ⟨nofun, attempts_settle _ _ _⟩
  | retry e e' =>
      refine .inl ⟨_, _, rfl, (attempts_attempt _ _ _).trans ?_⟩
      rw [(apart_note _ _).attempts, (apart_note _ _).attempts]
      rfl
  | giveUp e e' =>
      refine .inr ⟨nofun, (attempts_settle _ _ _).trans ?_⟩
      rw [(apart_note _ _).attempts, (apart_note _ _).attempts]

theorem step_eq_none_of_posting {load : Load} {failures : Nat}
    (hw : q.worker = .posting load failures) : q.step = none := by
  rw [step, hw]

theorem not_posting_of_step (h : q.step = some q') (load : Load) (failures : Nat) :
    q.worker ≠ .posting load failures := by
  intro hw
  rw [step_eq_none_of_posting hw] at h
  cases h

theorem step_eq_none_of_gone (hg : q.isGone = true) : q.step = none := by
  unfold isGone at hg
  unfold step
  split at hg
  · next hw => rw [hw]
  · next hw => rw [hw]
  · cases hg

end Queue

namespace Dispatch

variable {d : Dispatch} {mode : QueueMode} {token : Option String}

/-- The attempts that have gone out: the last one has not, until there is an answer to it. -/
def sent (d : Dispatch) : List Attempt :=
  match d.queue.worker, d.arrival with
  | .posting _ _, none => d.queue.attempts.dropLast
  | _, _ => d.queue.attempts

/-- The queue is in the midst of its life, and only an attempt is answered. -/
structure Lives (mode : QueueMode) (token : Option String) (d : Dispatch) : Prop where
  queue : d.queue.Lives mode token
  answered : d.arrival ≠ none → ∃ load failures, d.queue.worker = .posting load failures

theorem Lives.arrival_eq_none (h : d.Lives mode token)
    (hw : ∀ load failures, d.queue.worker ≠ .posting load failures) : d.arrival = none := by
  cases ha : d.arrival with
  | none => rfl
  | some a =>
      obtain ⟨load, failures, hposting⟩ := h.answered (by rw [ha]; exact nofun)
      exact absurd hposting (hw load failures)

theorem sent_of_not_posting (hw : ∀ load failures, d.queue.worker ≠ .posting load failures) :
    d.sent = d.queue.attempts := by
  unfold sent
  split
  · next hp _ => exact absurd hp (hw _ _)
  · rfl

theorem sent_of_arrival {a : Arrival} (ha : d.arrival = some a) :
    d.sent = d.queue.attempts := by
  unfold sent
  split
  · next hn => rw [ha] at hn; cases hn
  · rfl

theorem sent_of_posting {load : Load} {failures : Nat}
    (hw : d.queue.worker = .posting load failures) (ha : d.arrival = none) :
    d.sent = d.queue.attempts.dropLast := by
  unfold sent
  rw [hw, ha]

theorem sent_of_gone (hg : d.queue.isGone = true) : d.sent = d.queue.attempts := by
  refine sent_of_not_posting fun load failures hw => ?_
  rw [Queue.isGone, hw] at hg
  cases hg

/-- What is decided on goes out later. -/
theorem sent_of_works {q q' : Queue} (h : Queue.Works q q') :
    Dispatch.sent ⟨q', none⟩ = q.attempts := by
  rcases h.attempts with ⟨load, failures, hw, ha⟩ | ⟨hw, ha⟩
  · rw [sent_of_posting hw rfl]
    show q'.attempts.dropLast = _
    rw [ha, List.dropLast_concat]
  · rw [sent_of_not_posting hw]
    exact ha

theorem sent_of_apart {q' : Queue} (h : d.queue.Apart q') :
    Dispatch.sent { d with queue := q' } = d.sent := by
  unfold sent
  rw [h.worker, h.attempts]

theorem Lives.of_apart {q' : Queue} (hl : d.Lives mode token) (h : d.queue.Apart q')
    (hq : q'.Lives mode token) : Dispatch.Lives mode token { d with queue := q' } :=
  ⟨hq, fun hn => (hl.answered hn).imp fun _ hw => hw.imp fun _ hw => h.worker.trans hw⟩

/-- The attempt that is being made is the last one that was decided on. -/
theorem Lives.attempts_eq (h : d.Lives mode token) {load : Load} {failures : Nat}
    (hw : d.queue.worker = .posting load failures) :
    d.queue.attempts = d.queue.attempts.dropLast ++ [⟨load.url, d.queue.token, load.body⟩] := by
  obtain ⟨done, ht⟩ := h.queue.tried
  rw [ht.attempts, Queue.current_posting hw, List.flatMap_append]
  have hs : [(load, failures + 1)].flatMap (Queue.series d.queue.token) =
      List.replicate failures ⟨load.url, d.queue.token, load.body⟩ ++
        [⟨load.url, d.queue.token, load.body⟩] := by
    show List.replicate (failures + 1) _ ++ [] = _
    rw [List.append_nil]
    exact List.replicate_succ'
  rw [hs, ← List.append_assoc, List.dropLast_concat]

/-- While a load is being posted, some of the attempts at it have gone out. -/
theorem Lives.sent_posting (h : d.Lives mode token) {load : Load} {failures : Nat}
    (hw : d.queue.worker = .posting load failures) {done : List (Load × Nat)}
    (ht : d.queue.Tried done) : ∃ k, k ≤ failures + 1 ∧
      d.sent = done.flatMap (Queue.series token) ++
        List.replicate k ⟨load.url, token, load.body⟩ := by
  have hall := ht.attempts
  rw [h.queue.frame.2, Queue.current_posting hw, List.flatMap_append] at hall
  replace hall : d.queue.attempts = done.flatMap (Queue.series token) ++
      (List.replicate (failures + 1) ⟨load.url, token, load.body⟩ ++ []) := hall
  rw [List.append_nil] at hall
  cases ha : d.arrival with
  | some a => exact ⟨failures + 1, Nat.le_refl _, by rw [sent_of_arrival ha, hall]⟩
  | none =>
      refine ⟨failures, Nat.le_succ _, ?_⟩
      rw [sent_of_posting hw ha, hall, List.replicate_succ', ← List.append_assoc,
        List.dropLast_concat]

/-- What has gone out are attempts at the reports in the order they were accepted. -/
theorem Lives.sent_attemptsAt (h : d.Lives mode token) :
    ∃ ps, Queue.AttemptsAt mode token d.sent ps ∧ ps <+: d.queue.accepted := by
  obtain ⟨done, ht⟩ := h.queue.tried
  have hbounds := ht.bounds
  rw [h.queue.frame.1] at hbounds
  have hdone : (done.flatMap fun t => t.1.parcels) <+: d.queue.accepted :=
    ht.finished ▸ (List.prefix_append _ _).trans h.queue.order
  by_cases hw : ∃ load failures, d.queue.worker = .posting load failures
  · obtain ⟨load, failures, hw⟩ := hw
    obtain ⟨hl, hn⟩ : d.queue.mode.Carries load ∧ failures < Queue.maxAttempts := by
      have hf := h.queue.formed.worker
      rwa [hw] at hf
    rw [h.queue.frame.1] at hl
    obtain ⟨k, hk, hsent⟩ := h.sent_posting hw ht
    cases k with
    | zero => exact ⟨_, ⟨done, by rw [hsent]; exact List.append_nil _, hbounds, rfl⟩, hdone⟩
    | succ k =>
        have hlast : Queue.AttemptsAt mode token
            (List.replicate (k + 1) ⟨load.url, token, load.body⟩) load.parcels := by
          refine ⟨[(load, k + 1)], (List.append_nil _).symm, fun t hmem => ?_,
            (List.append_nil _).symm⟩
          rw [List.mem_singleton.1 hmem]
          exact ⟨Nat.le_add_left 1 k, Nat.le_trans hk hn, hl⟩
        have hall : Queue.AttemptsAt mode token (done.flatMap (Queue.series token)) _ :=
          ⟨done, rfl, hbounds, rfl⟩
        refine ⟨_, hsent ▸ hall.append hlast, ?_⟩
        rw [← ht.finished, ← Queue.held_posting hw]
        exact h.queue.order
  · have hw' : ∀ load failures, d.queue.worker ≠ .posting load failures :=
      fun load failures h => hw ⟨load, failures, h⟩
    refine ⟨_, ⟨done, ?_, hbounds, rfl⟩, hdone⟩
    rw [sent_of_not_posting hw', ht.attempts, h.queue.frame.2, Queue.current_eq_nil hw',
      List.append_nil]

/-- When the worker has left, they are attempts at all of the reports. -/
theorem Lives.sent_all (h : d.Lives mode token) (hf : mode.fits = true)
    (hg : d.queue.isGone = true) : Queue.AttemptsAt mode token d.sent d.queue.accepted := by
  obtain ⟨done, ht⟩ := h.queue.tried
  have hcurrent : d.queue.current = [] := Queue.current_eq_nil fun load failures hw => by
    rw [Queue.isGone, hw] at hg
    cases hg
  refine ⟨done, ?_, h.queue.frame.1 ▸ ht.bounds, ?_⟩
  · rw [sent_of_gone hg, ht.attempts, hcurrent, List.append_nil, h.queue.frame.2]
  · rw [← ht.finished, h.queue.finished_eq_accepted hf hg]

end Dispatch

namespace Clocked

variable {ω : Type} {post : Sender ω} {mode : QueueMode} {token : Option String}
  {c c' c'' : Clocked ω}

/-- One thing that happens to a queue at work. -/
inductive Ticks (post : Sender ω) (c : Clocked ω) : Clocked ω → Prop where
  | send {load : Load} {failures : Nat} : c.queue.worker = .posting load failures →
      c.arrival = none →
      Ticks post c { c with
        world := (post ⟨load.url, c.queue.token, load.body⟩ c.world).2
        arrival := some ⟨c.now + (post ⟨load.url, c.queue.token, load.body⟩ c.world).1.delay,
          (post ⟨load.url, c.queue.token, load.body⟩ c.world).1.outcome⟩ }
  | hear {load : Load} {failures : Nat} {a : Arrival} :
      c.queue.worker = .posting load failures → c.arrival = some a →
      Ticks post c
        { c with now := max c.now a.time, queue := c.queue.answer a.outcome, arrival := none }
  | work {q : Queue} : c.queue.step = some q → Ticks post c { c with queue := q }

theorem tick_ticks {deadline : Option Nat} (h : c.tick post deadline = some c') :
    c.Ticks post c' := by
  unfold tick at h
  split at h
  · next hw ha =>
      cases h
      exact .send hw ha
  · next hw ha =>
      split at h
      · cases h
        exact .hear hw ha
      · cases h
  · obtain ⟨q, hq, rfl⟩ := Option.map_eq_some_iff.1 h
    exact .work hq

/-- What happens to a queue at work while somebody waits for it, or looks on. -/
inductive Goes (post : Sender ω) (c : Clocked ω) : Clocked ω → Prop where
  | refl : Goes post c c
  | tick {c' c'' : Clocked ω} : Goes post c c' → Ticks post c' c'' → Goes post c c''
  | note {c' : Clocked ω} (e : Log.Entry) : Goes post c c' →
      Goes post c { c' with queue := c'.queue.note e }
  | await {c' : Clocked ω} : Goes post c c' →
      Goes post c { c' with queue := { c'.queue with awaited := true } }
  | wait {c' : Clocked ω} (now : Nat) : Goes post c c' → Goes post c { c' with now }

theorem goes_ticks {deadline : Option Nat} {steps : Nat} (h : c.Goes post c') :
    c.Goes post (c'.ticks post deadline steps) := by
  induction steps generalizing c' with
  | zero => exact h
  | succ steps ih =>
      unfold ticks
      split
      · next hn => exact ih (h.tick (tick_ticks hn))
      · exact h

theorem goes_stop (post : Sender ω) (timeout : Nat) (c : Clocked ω) :
    (c.apply Queue.beginStop).Goes post (c.stop post timeout) := by
  have hnotes : ∀ {c' : Clocked ω}, (c.apply Queue.beginStop).Goes post c' →
      (c.apply Queue.beginStop).Goes post (c'.apply (stopNotes timeout)) := by
    intro c' h
    show Goes post _ { c' with queue := stopNotes timeout c'.queue }
    unfold stopNotes
    dsimp only
    split
    · split
      · exact h.note _
      · exact h
    · split
      · exact (h.note _).note _
      · exact h.note _
  unfold stop
  dsimp only
  split
  · exact .refl
  · refine hnotes ?_
    have hrefl : (c.apply Queue.beginStop).Goes post (c.apply Queue.beginStop) := .refl
    have hawait := hrefl.await
    unfold await
    split
    · exact hawait
    · dsimp only
      split
      · exact goes_ticks hawait
      · exact (goes_ticks hawait).wait _

/-! ## What happens in time -/

theorem Ticks.isGone_eq_false (h : c.Ticks post c') : c.queue.isGone = false := by
  refine Bool.eq_false_iff.2 fun hg => ?_
  cases h with
  | send hw | hear hw =>
      rw [Queue.isGone, hw] at hg
      cases hg
  | work hq => cases hq.symm.trans (Queue.step_eq_none_of_gone hg)

/-- A worker that has left does not come back. -/
theorem Goes.gone (h : c.Goes post c') (hg : c.queue.isGone = true) :
    c'.queue.isGone = true ∧ c'.queue.attempts = c.queue.attempts := by
  induction h with
  | refl => exact ⟨hg, rfl⟩
  | tick _ ht ih => cases ih.1.symm.trans ht.isGone_eq_false
  | note e _ ih => exact ⟨ih.1, (Queue.apart_note _ e).attempts.trans ih.2⟩
  | await _ ih => exact ih
  | wait _ _ ih => exact ih

theorem Ticks.works (h : c.Ticks post c') : c'.queue = c.queue ∨ Queue.Works c.queue c'.queue := by
  cases h with
  | send => exact .inl rfl
  | hear hw _ => exact .inr (Queue.answer_works hw _)
  | work hq => exact .inr (Queue.step_works hq)

theorem Ticks.lives (h : c.Ticks post c') (hl : c.toDispatch.Lives mode token) :
    c'.toDispatch.Lives mode token := by
  refine ⟨?_, ?_⟩
  · rcases h.works with he | hw
    · exact he ▸ hl.queue
    · exact hl.queue.work hw
  · cases h with
    | send hw _ => exact fun _ => ⟨_, _, hw⟩
    | hear => exact fun hn => absurd rfl hn
    | @work q hq =>
        intro hn
        obtain ⟨load, failures, hw⟩ := hl.answered hn
        cases (Queue.step_eq_none_of_posting hw).symm.trans hq

/-- These attempts go out one after the other. -/
inductive Posted (post : Sender ω) (w : ω) : List Attempt → ω → Prop where
  | nil : Posted post w [] w
  | snoc {as : List Attempt} {w' : ω} (a : Attempt) : Posted post w as w' →
      Posted post w (as ++ [a]) (post a w').2

theorem Ticks.posts (h : c.Ticks post c') (hl : c.toDispatch.Lives mode token) {w : ω}
    {as : List Attempt} (hp : Posted post w as c.world) :
    ∃ new, c'.toDispatch.sent = c.toDispatch.sent ++ new ∧ Posted post w (as ++ new) c'.world := by
  cases h with
  | send hw ha =>
      -- The attempt has been decided on before; it is now that it goes out.
      refine ⟨_, ?_, hp.snoc _⟩
      rw [Dispatch.sent_of_arrival rfl, Dispatch.sent_of_posting hw ha]
      exact hl.attempts_eq hw
  | hear hw ha =>
      refine ⟨[], ?_, by rw [List.append_nil]; exact hp⟩
      rw [List.append_nil, Dispatch.sent_of_arrival ha]
      exact Dispatch.sent_of_works (Queue.answer_works hw _)
  | @work q hq =>
      refine ⟨[], ?_, by rw [List.append_nil]; exact hp⟩
      have hnp := Queue.not_posting_of_step hq
      have hn : c.arrival = none := hl.arrival_eq_none hnp
      rw [List.append_nil, Dispatch.sent_of_not_posting hnp]
      show Dispatch.sent ⟨q, c.arrival⟩ = _
      rw [hn]
      exact Dispatch.sent_of_works (Queue.step_works hq)

theorem Goes.lives (h : c.Goes post c') (hl : c.toDispatch.Lives mode token) :
    c'.toDispatch.Lives mode token := by
  induction h with
  | refl => exact hl
  | tick _ ht ih => exact ht.lives ih
  | note e _ ih => exact ⟨ih.queue.note e, ih.answered⟩
  | await _ ih => exact ⟨ih.queue.await, ih.answered⟩
  | wait _ _ ih => exact ih

/-- Whether reports are accepted is not for the worker to say, nor does it accept any. -/
theorem Goes.calls (h : c.Goes post c') :
    c'.queue.running = c.queue.running ∧ c'.queue.accepted = c.queue.accepted := by
  induction h with
  | refl => exact ⟨rfl, rfl⟩
  | tick _ ht ih =>
      rcases ht.works with he | hw
      · rw [he]
        exact ih
      · exact ⟨hw.frame.2.2.trans ih.1, hw.accepted.trans ih.2⟩
  | note e _ ih => exact ⟨ih.1, (Queue.accepted_note _ e).trans ih.2⟩
  | await _ ih => exact ih
  | wait _ _ ih => exact ih

theorem Goes.posts (h : c.Goes post c') (hl : c.toDispatch.Lives mode token) :
    ∃ new, c'.toDispatch.sent = c.toDispatch.sent ++ new ∧
      Posted post c.world new c'.world := by
  induction h with
  | refl => exact ⟨[], (List.append_nil _).symm, .nil⟩
  | tick hg ht ih =>
      obtain ⟨new, hs, hp⟩ := ih
      obtain ⟨new', hs', hp'⟩ := ht.posts (hg.lives hl) hp
      exact ⟨new ++ new', by rw [hs', hs, List.append_assoc], hp'⟩
  | note e _ ih =>
      obtain ⟨new, hs, hp⟩ := ih
      exact ⟨new, (Dispatch.sent_of_apart (Queue.apart_note _ e)).trans hs, hp⟩
  | await _ ih => exact ih
  | wait _ _ ih => exact ih

end Clocked
end Courier
