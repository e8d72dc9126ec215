import Courier.Proofs.QueueRun

/-!
# A queue loses nothing and keeps the order

A report that was accepted is in one of three places: its delivery is over, or in
progress, or it waits in the channel. Read in this order the three places are the
accepted reports in the order they came, and the counter of the queue counts the
last two. Wake-ups are in no place and are never counted, so it makes no difference
where between the reports they lie.

Each thing the worker does moves reports from the head of one place to the end of
the one before it. The only exception is a worker that breaks down for want of room
for a batch: it takes the channel with it, and then the counter never goes back to
zero. The invariant is therefore stated with that case beside it, and the case is
excluded where there is room.

What a load says is tied to the reports it is made of by an invariant of its own,
which holds of broken workers too.
-/

namespace Courier

namespace QueueEvent

/-- What was sent and what was delivered is a load of this mode. -/
def Formed (mode : QueueMode) (token : Option String) : QueueEvent → Prop
  | .attempted a => ∃ load, mode.Carries load ∧ a = ⟨load.url, token, load.body⟩
  | .settled load _ => mode.Carries load
  | _ => True

end QueueEvent

/-- What a worker is at work on can be a load of this mode. -/
def Worker.Formed (mode : QueueMode) : Worker → Prop
  | .collecting taken =>
      ∃ url limit, mode = .batch url limit ∧ taken ≠ [] ∧ taken.length ≤ max 1 limit
  | .posting load failures => mode.Carries load ∧ failures < Queue.maxAttempts
  | _ => True

namespace Queue

variable {q q' : Queue} {came : List Parcel} {raised : Nat}

/-! ## Loads -/

/-- All that goes out of a queue is made of reports as its mode has it. -/
structure Formed (q : Queue) : Prop where
  worker : q.worker.Formed q.mode
  history : ∀ e ∈ q.history, e.Formed q.mode q.token

theorem Formed.become (hf : q.Formed) (hm : q'.mode = q.mode) (ht : q'.token = q.token)
    (hh : q'.history = q.history) (hw : q'.worker.Formed q.mode) : q'.Formed := by
  constructor
  · rw [hm]; exact hw
  · rw [hm, ht, hh]; exact hf.history

theorem Formed.record (hf : q.Formed) {e : QueueEvent} (he : e.Formed q.mode q.token) :
    (q.record e).Formed := by
  refine ⟨hf.worker, fun e' h => ?_⟩
  rcases List.mem_append.1 h with h | h
  · exact hf.history e' h
  · rw [List.mem_singleton.1 h]; exact he

theorem Formed.note (hf : q.Formed) (e : Log.Entry) : (q.note e).Formed := hf.record trivial

theorem Formed.attempt (hf : q.Formed) {load : Load} {failures : Nat}
    (hl : q.mode.Carries load) (hn : failures < maxAttempts) :
    (q.attempt load failures).Formed := by
  have hp : Formed { q with worker := .posting load failures } :=
    hf.become rfl rfl rfl ⟨hl, hn⟩
  exact hp.record ⟨load, hl, rfl⟩

theorem Formed.settle (hf : q.Formed) {load : Load} (hl : q.mode.Carries load)
    (delivered : Bool) : (q.settle load delivered).Formed := by
  have hp : Formed
      { q with worker := .deciding, pending := q.pending - load.parcels.length } :=
    hf.become rfl rfl rfl trivial
  exact hp.record hl

theorem Works.formed (h : Works q q') (hf : q.Formed) : q'.Formed := by
  have hw := hf.worker
  cases h with
  | leave e =>
      have hl : Formed { q with worker := .finished } := hf.become rfl rfl rfl trivial
      exact hl.note e
  | wait | rouse | breakDown => exact hf.become rfl rfl rfl trivial
  | @single p rest _ _ hm =>
      have hc : Formed { q with channel := rest } := hf.become rfl rfl rfl hw
      have hl : q.mode.Carries ⟨p.url, p.body, [p]⟩ := by rw [hm]; exact ⟨p, rfl⟩
      exact hc.attempt hl (Nat.lt_of_sub_pos (Nat.succ_pos _))
  | begin _ _ hm _ =>
      refine hf.become rfl rfl rfl ⟨_, _, hm, by simp, ?_⟩
      exact Nat.le_max_left 1 _
  | gather hc hm hl _ =>
      refine hf.become rfl rfl rfl ⟨_, _, hm, by simp, ?_⟩
      rw [List.length_append, List.length_singleton]
      exact Nat.le_trans hl (Nat.le_max_right _ _)
  | skip hc hm _ => exact hf.become rfl rfl rfl hw
  | dispatch hc hm _ =>
      rw [hc] at hw
      obtain ⟨url, limit, hm', hne, hle⟩ := hw
      cases hm.symm.trans hm'
      refine (hf.note _).attempt ?_ (by decide)
      rw [note_mode, hm]
      exact ⟨rfl, hne, hle⟩
  | stall => exact hf
  | succeed hp => rw [hp] at hw; exact hf.settle hw.1 true
  | retry e e' hp hn => rw [hp] at hw; exact ((hf.note e).note e').attempt hw.1 hn
  | giveUp e e' hp _ => rw [hp] at hw; exact ((hf.note e).note e').settle hw.1 false

/-! ## The three places -/

/-- The reports that came are in their places, in order, and are counted until their
delivery is over; so many more are counted that are yet to come. -/
structure Accounts (q : Queue) (came : List Parcel) (raised : Nat) : Prop where
  order : came = q.finished ++ q.held ++ q.queued
  count : q.pending = q.held.length + q.queued.length + raised

/-- Reports may go from one place to the one before it. -/
theorem Accounts.shift (ha : q.Accounts came raised) (hf : q'.finished = q.finished)
    (hl : q'.held ++ q'.queued = q.held ++ q.queued) (hp : q'.pending = q.pending) :
    q'.Accounts came raised := by
  have hn := congrArg List.length hl
  rw [List.length_append, List.length_append] at hn
  constructor
  · rw [ha.order, hf, List.append_assoc, List.append_assoc, hl]
  · rw [hp, ha.count, hn]

theorem Accounts.note (ha : q.Accounts came raised) (e : Log.Entry) :
    (q.note e).Accounts came raised := ha.shift (finished_note q e) rfl rfl

theorem Accounts.attempt (ha : q.Accounts came raised) {load : Load}
    (hl : q.held = load.parcels) (failures : Nat) :
    (q.attempt load failures).Accounts came raised := by
  refine ha.shift ?_ ?_ rfl
  · rw [Queue.attempt, finished_record]
    exact List.append_nil _
  · rw [hl]; rfl

theorem Accounts.settle (ha : q.Accounts came raised) {load : Load}
    (hl : q.held = load.parcels) (delivered : Bool) :
    (q.settle load delivered).Accounts came raised := by
  have hf : (q.settle load delivered).finished = q.finished ++ q.held := by
    rw [Queue.settle, finished_record, hl]; rfl
  have hc := ha.count
  rw [hl] at hc
  constructor
  · rw [hf, ha.order]
    simp [held, queued, Queue.settle, record]
  · show q.pending - load.parcels.length = 0 + q.queued.length + raised
    omega

theorem held_posting {load : Load} {failures : Nat} (hw : q.worker = .posting load failures) :
    q.held = load.parcels := by rw [held, hw]

/-- A worker that does not break down keeps the accounts. -/
theorem Works.accounts (h : Works q q') (ha : q.Accounts came raised)
    (hb : q'.worker ≠ .broken) : q'.Accounts came raised := by
  cases h with
  | leave e hw =>
      have hl : Accounts { q with worker := .finished } came raised :=
        ha.shift rfl (by simp [held, queued, hw]) rfl
      exact hl.note e
  | wait hw => exact ha.shift rfl (by simp [held, queued, hw]) rfl
  | rouse hw hc => exact ha.shift rfl (by simp [held, queued, hw, hc, List.filterMap_cons]) rfl
  | single hw hc =>
      refine ha.shift ?_ ?_ rfl
      · rw [Queue.attempt, finished_record]
        exact List.append_nil _
      · simp [held, queued, hw, hc, Queue.attempt, record]
  | begin hw hc => exact ha.shift rfl (by simp [held, queued, hw, hc]) rfl
  | breakDown => exact absurd rfl hb
  | gather hw _ _ hc => exact ha.shift rfl (by simp [held, queued, hw, hc]) rfl
  | skip hw _ hc =>
      exact ha.shift rfl (by simp [held, queued, hw, hc, List.filterMap_cons]) rfl
  | @dispatch taken url _ hw _ _ =>
      have hl : q.held = (batchLoad url taken).parcels := by rw [held, hw]; rfl
      exact (ha.note _).attempt hl 0
  | stall => exact ha
  | succeed hw => exact ha.settle (held_posting hw) true
  | retry e e' hw => exact ((ha.note e).note e').attempt (held_posting hw) _
  | giveUp e e' hw => exact ((ha.note e).note e').settle (held_posting hw) false

/-- A worker breaks down only for want of room, and over a report that stays counted. -/
theorem Works.breaks (h : Works q q') (ha : q.Accounts came raised)
    (hb : q'.worker = .broken) : q.mode.fits = false ∧ raised < q'.pending := by
  cases h with
  | breakDown hw hc hr =>
      have hn := ha.count
      rw [queued_parcel hc, List.length_cons] at hn
      refine ⟨hr, ?_⟩
      show raised < q.pending
      omega
  | skip hc => exact absurd (hc.symm.trans hb) nofun
  | stall hc => exact absurd (hc.symm.trans hb) nofun
  | leave | wait | rouse | single | begin | gather | dispatch | succeed | retry | giveUp =>
      cases hb

/-- A worker leaves only when the queue is closed and nothing is pending. -/
theorem Works.leaves (h : Works q q') (hl : q'.worker = .finished) :
    q'.running = false ∧ q'.pending = 0 := by
  cases h with
  | leave e _ hr hp => exact ⟨hr, hp⟩
  | skip hc => exact absurd (hc.symm.trans hl) nofun
  | stall hc => exact absurd (hc.symm.trans hl) nofun
  | wait | rouse | single | begin | breakDown | gather | dispatch | succeed | retry | giveUp =>
      cases hl

/-! ## What the caller does to the accounts -/

theorem Accounts.raise (ha : q.Accounts came 0) : q.raise.Accounts came 1 := by
  have hc := ha.count
  refine ⟨ha.order, ?_⟩
  show q.pending + 1 = q.held.length + q.queued.length + 1
  omega

theorem Accounts.refuse (ha : q.Accounts came raised) (p : Parcel) :
    (q.refuse p).Accounts came raised := by
  have hd : (q.record (.dropped p)).Accounts came raised := by
    refine ha.shift ?_ rfl rfl
    rw [finished_record]
    exact List.append_nil _
  exact hd.note _

/-- A report that is sent while the worker is there goes to the end of the channel. -/
theorem send_eq (hg : q.isGone = false) (p : Parcel) :
    q.send p = { q with channel := q.channel ++ [Slot.parcel p] }.record (.accepted p) := by
  simp [send, hg]

theorem Accounts.send (ha : q.Accounts came 1) (hg : q.isGone = false) (p : Parcel) :
    (q.send p).Accounts (came ++ [p]) 0 := by
  have hc := ha.count
  have hq : (q.send p).queued = q.queued ++ [p] := by
    rw [send_eq hg]
    simp [queued, record]
  have hf : (q.send p).finished = q.finished := by
    rw [send_eq hg, finished_record]
    exact List.append_nil _
  have hh : (q.send p).held = q.held := by rw [send_eq hg]; rfl
  have hp : (q.send p).pending = q.pending := by rw [send_eq hg]; rfl
  constructor
  · rw [ha.order, hf, hh, hq]
    simp only [List.append_assoc]
  · rw [hp, hh, hq, List.length_append, List.length_singleton]
    omega

theorem accepted_refuse (q : Queue) (p : Parcel) : (q.refuse p).accepted = q.accepted := by
  rw [refuse, accepted_note, accepted_record]
  exact List.append_nil _

theorem accepted_send (hg : q.isGone = false) (p : Parcel) :
    (q.send p).accepted = q.accepted ++ [p] := by
  rw [send_eq hg, accepted_record]
  rfl

theorem accepted_wake (q : Queue) : q.wake.accepted = q.accepted := by
  rw [accepted, wake_history, accepted]

theorem Accounts.wake (ha : q.Accounts came raised) : q.wake.Accounts came raised := by
  unfold Queue.wake
  split
  · exact ha
  · exact ha.shift rfl (by simp [held, queued]) rfl

end Queue

/-! ## Along a run -/

namespace Scene

variable {s t : Scene} {m : Move} {ms : List Move} {mode : QueueMode} {token : Option String}

/-- What holds of a queue whose worker has not broken down. -/
structure Sound (s : Scene) : Prop where
  accounts : s.queue.Accounts s.queue.accepted s.call.raised
  /-- A submit that goes on has found the queue running, and nobody else can stop it. -/
  entered : ∀ p, s.call = .admitting p ∨ s.call = .sending p → s.queue.running = true
  left : s.queue.worker = .finished → s.queue.running = false ∧ s.queue.pending = 0
  whole : s.queue.worker ≠ .broken

/-- The worker has broken down and left a report counted. -/
structure Stuck (s : Scene) : Prop where
  broken : s.queue.worker = .broken
  counted : s.call.raised < s.queue.pending

theorem Sound.isGone_eq_false (hs : s.Sound) (hr : s.queue.running = true) :
    s.queue.isGone = false := by
  cases hw : s.queue.worker with
  | finished =>
      have hl := (hs.left hw).1
      rw [hr] at hl
      cases hl
  | broken => exact absurd hw hs.whole
  | deciding | waiting | collecting | posting => simp [Queue.isGone, hw]

theorem Step.sound (h : Step s m t) (hs : s.Sound) (hb : t.queue.worker ≠ .broken) :
    t.Sound := by
  have ha := hs.accounts
  by_cases hm : m.byWorker = true
  · obtain ⟨hw, ht⟩ := h.works hm
    rw [ht]
    have hr : t.queue.running = s.queue.running := hw.frame.2.2
    refine ⟨?_, fun p hp => hr.trans (hs.entered p hp), hw.leaves, hb⟩
    rw [hw.accepted]
    exact hw.accounts ha hb
  · cases h with
    | work | answer => exact absurd rfl hm
    | enter hc hr =>
        rw [hc] at ha
        exact ⟨ha, fun _ _ => hr, hs.left, hs.whole⟩
    | @refuse p hc hr =>
        refine ⟨?_, fun p hp => ?_, hs.left, hs.whole⟩
        · rw [Queue.accepted_refuse]
          exact ha.refuse p
        · exact absurd (hs.entered p hp) (by rw [hr]; exact nofun)
    | @raise p hc =>
        rw [hc] at ha
        have hr := hs.entered p (.inl hc)
        refine ⟨ha.raise, fun _ _ => hr, fun hw => ?_, hs.whole⟩
        exact absurd (hs.left hw).1 (by rw [hr]; exact nofun)
    | @send p hc =>
        rw [hc] at ha
        have hr := hs.entered p (.inr hc)
        have hg := hs.isGone_eq_false hr
        refine ⟨?_, nofun, fun hw => ?_, hb⟩
        · rw [Queue.accepted_send hg]
          exact ha.send hg p
        · rw [Queue.send_eq hg] at hw
          exact absurd (hs.left hw).1 (by rw [hr]; exact nofun)
    | stop hc =>
        rw [hc] at ha
        exact ⟨⟨ha.order, ha.count⟩, nofun, fun hw => ⟨rfl, (hs.left hw).2⟩, hs.whole⟩
    | wake hc =>
        rw [hc] at ha
        refine ⟨?_, nofun, fun hw => ?_, hb⟩
        · rw [Queue.accepted_wake]
          exact ha.wake
        · rw [Queue.wake_worker] at hw
          rw [Queue.wake_running, Queue.wake_pending]
          exact hs.left hw

/-- A worker that breaks down does so for want of room, and the queue is stuck. -/
theorem Step.breaks (h : Step s m t) (hs : s.Sound) (hb : t.queue.worker = .broken) :
    t.Stuck ∧ s.queue.mode.fits = false := by
  by_cases hm : m.byWorker = true
  · obtain ⟨hw, ht⟩ := h.works hm
    obtain ⟨hf, hl⟩ := hw.breaks hs.accounts hb
    refine ⟨⟨hb, ?_⟩, hf⟩
    rw [ht]
    exact hl
  · refine absurd ?_ hs.whole
    cases h with
    | work | answer => exact absurd rfl hm
    | enter | refuse | raise | stop => exact hb
    | send =>
        simp only [Queue.send] at hb
        split at hb <;> exact hb
    | wake => rwa [Queue.wake_worker] at hb

/-- A queue that is stuck stays so: what is sent to it is taken off the count again. -/
theorem Step.stuck (h : Step s m t) (hs : s.Stuck) : t.Stuck := by
  have hw := hs.broken
  have hc := hs.counted
  cases h with
  | enter h₁ _ | stop h₁ =>
      rw [h₁] at hc
      exact ⟨hw, hc⟩
  | refuse => exact ⟨hw, hc⟩
  | raise h₁ =>
      rw [h₁] at hc
      refine ⟨hw, ?_⟩
      show 1 < s.queue.pending + 1
      exact Nat.succ_lt_succ hc
  | send h₁ =>
      rw [h₁] at hc
      have hg : s.queue.isGone = true := by simp [Queue.isGone, hw]
      simp only [Queue.send, hg, if_true]
      refine ⟨hw, ?_⟩
      show 0 < s.queue.pending - 1
      exact Nat.sub_pos_of_lt hc
  | wake h₁ =>
      rw [h₁] at hc
      refine ⟨?_, ?_⟩
      · rw [Queue.wake_worker]; exact hw
      · rw [Queue.wake_pending]; exact hc
  | work hq =>
      rw [Queue.step, hw] at hq
      cases hq
  | answer _ hp =>
      rw [hw] at hp
      cases hp

theorem start_sound (mode : QueueMode) (token : Option String) : (start mode token).Sound :=
  ⟨⟨rfl, rfl⟩, nofun, nofun, nofun⟩

theorem Runs.sound_or_stuck (h : Runs (start mode token) ms s) :
    s.Sound ∨ (s.Stuck ∧ mode.fits = false) := by
  induction h with
  | nil => exact .inl (start_sound mode token)
  | @snoc t u ms _ hr hm ih =>
      rcases ih with ht | ⟨ht, hf⟩
      · by_cases hb : u.queue.worker = .broken
        · obtain ⟨hu, hf⟩ := hm.breaks ht hb
          exact .inr ⟨hu, hr.frame.1 ▸ hf⟩
        · exact .inl (hm.sound ht hb)
      · exact .inr ⟨hm.stuck ht, hf⟩

/-- Where there is room no worker breaks down. -/
theorem Runs.sound (h : Runs (start mode token) ms s) (hf : mode.fits = true) : s.Sound := by
  rcases h.sound_or_stuck with hs | ⟨_, hn⟩
  · exact hs
  · rw [hf] at hn
    cases hn

theorem Step.formed (h : Step s m t) (hf : s.queue.Formed) : t.queue.Formed := by
  by_cases hm : m.byWorker = true
  · exact (h.works hm).1.formed hf
  · cases h with
    | work | answer => exact absurd rfl hm
    | enter => exact hf
    | raise | stop => exact hf.become rfl rfl rfl hf.worker
    | @refuse p =>
        have hd : (s.queue.record (.dropped p)).Formed := hf.record trivial
        exact hd.note _
    | @send p =>
        simp only [Queue.send]
        split
        · have hd : Queue.Formed { s.queue with pending := s.queue.pending - 1 } :=
            hf.become rfl rfl rfl hf.worker
          have hr := hd.record (e := .dropped p) trivial
          exact hr.note _
        · have hd : Queue.Formed
              { s.queue with channel := s.queue.channel ++ [Slot.parcel p] } :=
            hf.become rfl rfl rfl hf.worker
          exact hd.record trivial
    | wake =>
        simp only [Queue.wake]
        split
        · exact hf
        · exact hf.become rfl rfl rfl hf.worker

theorem Runs.formed (h : Runs (start mode token) ms s) : s.queue.Formed := by
  induction h with
  | nil => exact ⟨trivial, fun e he => by rw [List.mem_singleton.1 he]; trivial⟩
  | snoc _ hm ih => exact hm.formed ih

/-! ## What was submitted -/

/-- Only a stop closes a queue. -/
theorem Step.running (h : Step s m t) : t.queue.running = (s.queue.running && !m.isStop) := by
  by_cases hm : m.byWorker = true
  · obtain ⟨hn, -⟩ := Move.of_byWorker hm
    rw [(h.works hm).1.frame.2.2, hn, Bool.not_false, Bool.and_true]
  · cases h with
    | work | answer => exact absurd rfl hm
    | enter | refuse | raise => exact (Bool.and_true _).symm
    | send =>
        rw [Queue.send_running]
        exact (Bool.and_true _).symm
    | stop => exact (Bool.and_false _).symm
    | wake =>
        rw [Queue.wake_running]
        exact (Bool.and_true _).symm

theorem Runs.running (h : Runs (start mode token) ms s) :
    s.queue.running = !ms.any Move.isStop := by
  induction h with
  | nil => rfl
  | snoc _ hm ih =>
      rw [hm.running, ih, List.any_append, Bool.not_or]
      simp

/-- A step of a sound run brings what it is named for, if the queue is running. -/
theorem Step.accepted (h : Step s m t) (hs : s.Sound) :
    t.queue.accepted ++ t.call.underway =
      s.queue.accepted ++ s.call.underway ++
        if s.queue.running then m.parcel?.toList else [] := by
  by_cases hm : m.byWorker = true
  · obtain ⟨hw, ht⟩ := h.works hm
    obtain ⟨-, -, hn⟩ := Move.of_byWorker hm
    rw [ht, hn, hw.accepted]
    simp
  · cases h with
    | work | answer => exact absurd rfl hm
    | @enter p hc hr =>
        rw [hc, hr]
        exact congrArg (· ++ [p]) (List.append_nil _).symm
    | @refuse p hc hr =>
        rw [Queue.accepted_refuse, hr]
        exact (List.append_nil _).symm
    | raise hc =>
        rw [hc]
        simp [Queue.raise, Queue.accepted, Call.underway, Move.parcel?]
    | @send p hc =>
        have hr := hs.entered p (.inr hc)
        rw [Queue.accepted_send (hs.isGone_eq_false hr), hc]
        simp [Call.underway, Move.parcel?]
    | stop hc =>
        rw [hc]
        simp [Queue.close, Queue.accepted, Call.underway, Move.parcel?]
    | wake hc =>
        rw [Queue.accepted_wake, hc]
        simp [Call.underway, Move.parcel?]

theorem Step.sound_of (h : Step s m t) (ht : t.Sound) (hst : s.Sound ∨ s.Stuck) : s.Sound :=
  hst.resolve_right fun hs => ht.whole (h.stuck hs).broken

/-- What was submitted while the queue was running is what it has accepted, but for the
submit that goes on. -/
theorem Runs.submitted (h : Runs (start mode token) ms s) (hs : s.Sound) :
    submitted ms = s.queue.accepted ++ s.call.underway := by
  induction h with
  | nil => rfl
  | @snoc t u ms m hr hm ih =>
      have ht : t.Sound := hm.sound_of hs (hr.sound_or_stuck.imp_right And.left)
      rw [submitted_snoc, ih ht, hm.accepted ht, hr.running]
      cases ms.any Move.isStop <;> rfl

/-- No report is lost, doubled or overtaken. Those submitted while the queue was running
are accepted, and they are, in order, those whose delivery is over, those of the delivery
in progress and those in the channel. The counter counts the last two, and one more while
a submit is between counting its report and sending it; so it is never lowered below
zero. What is posted for a report is the report. -/
theorem submitted_eq_finished_held_queued (hf : mode.fits = true)
    (h : Runs (start mode token) ms s) :
    Courier.submitted ms = s.queue.accepted ++ s.call.underway ∧
    s.queue.accepted = s.queue.finished ++ s.queue.held ++ s.queue.queued ∧
    s.queue.pending = s.queue.held.length + s.queue.queued.length + s.call.raised ∧
    (s.queue.pending = 0 ↔
      s.queue.held = [] ∧ s.queue.queued = [] ∧ s.call.raised = 0) ∧
    (∀ load failures, s.queue.worker = .posting load failures →
      mode.Carries load ∧ load.parcels.length ≤ s.queue.pending) ∧
    (∀ load delivered, .settled load delivered ∈ s.queue.history → mode.Carries load) := by
  have hs := h.sound hf
  have hw := h.formed
  have hm := h.frame.1
  have hc := hs.accounts.count
  refine ⟨h.submitted hs, hs.accounts.order, hc, ?_, ?_, ?_⟩
  · rw [hc, ← List.length_eq_zero_iff, ← List.length_eq_zero_iff]
    omega
  · intro load failures hp
    have hl := hw.worker
    rw [hp, hm] at hl
    refine ⟨hl.1, ?_⟩
    rw [hc, Queue.held_posting hp]
    omega
  · intro load delivered he
    have hl := hw.history _ he
    rwa [hm] at hl

/-- A stop that comes while a batch is being collected: its wake-up is in the channel
behind a report, and counts for nothing. -/
theorem submitted_eq_finished_held_queued_collecting :
    (QueueMode.batch (.loopback "batch") 2).fits = true ∧
    ∃ ms s, Runs (start (.batch (.loopback "batch") 2) none) ms s ∧
      s.queue.worker = .collecting [.blank] ∧ s.queue.channel = [.parcel .blank, .wake] ∧
      Courier.submitted ms = s.queue.accepted ++ s.call.underway ∧
      s.queue.accepted = s.queue.finished ++ s.queue.held ++ s.queue.queued ∧
      s.queue.pending = s.queue.held.length + s.queue.queued.length + s.call.raised := by
  have h₁ := (Runs.nil (start (.batch (.loopback "batch") 2) none)).submit rfl rfl .blank
  have h₂ := (h₁.work rfl).work rfl
  have h₃ := (h₂.submit rfl rfl .blank).stop rfl
  obtain ⟨hsub, hacc, hcount, -⟩ := submitted_eq_finished_held_queued rfl h₃
  exact ⟨rfl, _, _, h₃, rfl, rfl, hsub, hacc, hcount⟩

end Scene
end Courier
