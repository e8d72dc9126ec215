import Courier.Proofs.QueueOrder

/-!
# A stopped queue drains

The worker looks whether it is done and then waits for something to come into the
channel. Between the two the queue may be closed, and a worker that waits on an
empty channel is woken by nothing but what a stop sends. What saves it is that each
stop sends its wake-up after it has closed the queue: a worker that waits since
before has it still to come, or in front of it, and one that goes to wait after has
seen the queue closed with a report pending, which is in the channel, because with
the queue closed no submit is on its way.

Each thing the worker does, and each answer it gets, takes something off the
`work` of its queue, and a further stop adds no more than its wake-up. So a run in
which only so many calls are made comes to its end, and it can only end where the
worker has left. None of this depends on where a wake-up lies between the reports,
since the worker looks again after each batch.

All of it rests on the room for a batch. A worker that finds none is gone while the
queue is running, and what it has taken stays pending for good.
-/

namespace Courier

namespace Queue

variable {q q' : Queue}

/-- A worker that begins to wait has seen the queue running or a report pending. -/
theorem Works.waits (h : Works q q') (hw : q'.worker = .waiting) :
    q'.channel = q.channel ∧ q.held = [] ∧ (q.running = true ∨ q.pending ≠ 0) := by
  cases h with
  | wait hd hr => exact ⟨rfl, by rw [held, hd], hr⟩
  | skip hc | stall hc => cases hc.symm.trans hw
  | leave | rouse | single | begin | breakDown | gather | dispatch | succeed | retry | giveUp =>
      cases hw

/-- A worker that is neither gone nor waiting on an empty channel goes on. -/
theorem step_or_posting (hg : q.isGone = false) (hc : q.worker = .waiting → q.channel ≠ []) :
    (∃ q', q.step = some q') ∨ ∃ load failures, q.worker = .posting load failures := by
  cases hw : q.worker with
  | deciding =>
      left
      simp only [step, hw]
      split <;> exact ⟨_, rfl⟩
  | waiting =>
      left
      have hne := hc hw
      simp only [step, hw]
      split
      · exact ⟨_, rfl⟩
      · exact ⟨_, rfl⟩
      · next h => exact absurd h hne
  | collecting taken =>
      left
      simp only [step, hw]
      exact ⟨_, rfl⟩
  | posting load failures => exact .inr ⟨load, failures, rfl⟩
  | finished | broken =>
      rw [isGone, hw] at hg
      cases hg

/-! ## The work that is left -/

theorem channelCost_append (c : List Slot) (x : Slot) :
    channelCost (c ++ [x]) = channelCost c + channelCost [x] := by
  induction c with
  | nil => rw [List.nil_append, channelCost, Nat.zero_add]
  | cons y c ih =>
      cases y <;> rw [List.cons_append, channelCost, channelCost, ih, Nat.add_assoc]

theorem work_wake_le (q : Queue) : q.wake.work ≤ q.work + 2 := by
  unfold wake
  split
  · exact Nat.le_add_right _ _
  · show Worker.rank q.worker + channelCost (q.channel ++ [.wake]) ≤ q.work + 2
    rw [channelCost_append, work]
    show _ + (_ + (2 + 0)) ≤ _
    omega

/-- Whatever the worker does leaves less to do. -/
theorem Works.work_lt (h : Works q q') (hf : q.Formed) : q'.work < q.work := by
  have hw := hf.worker
  cases h with
  | leave _ hd => simp [work, hd, Worker.rank, note, record]
  | wait hd => simp [work, hd, Worker.rank]
  | rouse hd hc => simp only [work, hd, hc, Worker.rank, channelCost]; omega
  | single hd hc =>
      simp only [work, hd, hc, Worker.rank, channelCost, attempt, record, maxAttempts]; omega
  | begin hd hc => simp only [work, hd, hc, Worker.rank, channelCost]; omega
  | breakDown hd hc => simp only [work, hd, hc, Worker.rank, channelCost]; omega
  | gather hd _ _ hc => simp only [work, hd, hc, Worker.rank, channelCost]; omega
  | skip hd _ hc => simp only [work, hd, hc, Worker.rank, channelCost]; omega
  | dispatch hd =>
      simp only [work, hd, Worker.rank, attemptBatch, attempt, record, note, maxAttempts]; omega
  | stall hd hm =>
      rw [hd, hm] at hw
      obtain ⟨_, _, hb, _⟩ := hw
      cases hb
  | succeed hp => simp only [work, hp, Worker.rank, settle, record]; omega
  | retry _ _ hp hn =>
      simp only [work, hp, Worker.rank, attempt, record, note]; omega
  | giveUp _ _ hp => simp only [work, hp, Worker.rank, settle, record, note]; omega

end Queue

namespace Scene

variable {s t : Scene} {m : Move} {ms ms' : List Move} {mode : QueueMode}
  {token : Option String}

/-! ## No wake-up is lost -/

/-- What a stop has done so far reaches the worker. -/
structure Alert (s : Scene) : Prop where
  closed : s.woken = true ∨ s.call = .waking → s.queue.running = false
  /-- A worker that waits although it has been woken has something to take. -/
  heard : s.woken = true → s.queue.worker = .waiting → s.queue.channel ≠ []

/-- Once the queue is closed no submit is on its way. -/
theorem Sound.raised_eq_zero (hs : s.Sound) (hr : s.queue.running = false) :
    s.call.raised = 0 := by
  cases hc : s.call with
  | sending p =>
      have hrun := hs.entered p (.inr hc)
      rw [hr] at hrun
      cases hrun
  | idle | admitting | waking => rfl

theorem Sound.channel_ne_nil (hs : s.Sound) (hr : s.queue.running = false)
    (hh : s.queue.held = []) (hp : s.queue.pending ≠ 0) : s.queue.channel ≠ [] := by
  intro hc
  have hn := hs.accounts.count
  rw [hs.raised_eq_zero hr, hh, Queue.queued, hc] at hn
  exact hp hn

theorem Step.alert (h : Step s m t) (hs : s.Sound) (ha : s.Alert) : t.Alert := by
  by_cases hm : m.byWorker = true
  · obtain ⟨hw, ht⟩ := h.works hm
    rw [ht]
    have hr := hw.frame.2.2
    refine ⟨fun hc => hr.trans (ha.closed hc), fun hc hwait => ?_⟩
    obtain ⟨hch, hh, hor⟩ := hw.waits hwait
    have hcl := ha.closed (.inl hc)
    rw [hch]
    rcases hor with hrun | hp
    · rw [hcl] at hrun
      cases hrun
    · exact hs.channel_ne_nil hcl hh hp
  · cases h with
    | work | answer => exact absurd rfl hm
    | enter h₁ =>
        refine ⟨fun hc => ha.closed ?_, ha.heard⟩
        exact .inl (hc.resolve_right nofun)
    | refuse h₁ => exact ⟨ha.closed, ha.heard⟩
    | @raise p h₁ =>
        refine ⟨fun hc => ha.closed ?_, ha.heard⟩
        exact .inl (hc.resolve_right nofun)
    | @send p h₁ =>
        -- A submit goes on only in a running queue, which no stop has woken.
        have hr := hs.entered p (.inr h₁)
        have hn : s.woken ≠ true := fun hc => by
          rw [ha.closed (.inl hc)] at hr
          cases hr
        exact ⟨fun hc => absurd (hc.resolve_right nofun) hn, fun hc => absurd hc hn⟩
    | stop h₁ => exact ⟨fun _ => rfl, ha.heard⟩
    | wake h₁ =>
        refine ⟨fun _ => ?_, fun _ hwait => ?_⟩
        · rw [Queue.wake_running]
          exact ha.closed (.inr h₁)
        · rw [Queue.wake_worker] at hwait
          have hg : s.queue.isGone = false := by rw [Queue.isGone, hwait]
          simp [Queue.wake, hg]

theorem Runs.alert (h : Runs (start mode token) ms s) (hf : mode.fits = true) : s.Alert := by
  induction h with
  | nil => exact ⟨fun hc => hc.elim nofun nofun, nofun⟩
  | snoc hr hm ih => exact hm.alert (hr.sound hf) ih

/-- A worker that has been woken and is not gone has something to do, or waits for an
answer. -/
theorem Runs.lively (h : Runs (start mode token) ms s) (hf : mode.fits = true)
    (hw : s.woken = true) (hg : s.queue.isGone = false) (outcome : Except Failure Unit) :
    ∃ m t, (m = .work ∨ m = .answer outcome) ∧ Step s m t := by
  rcases Queue.step_or_posting hg ((h.alert hf).heard hw) with ⟨q, hq⟩ | ⟨load, n, hp⟩
  · exact ⟨.work, _, .inl rfl, .work hq⟩
  · exact ⟨.answer outcome, _, .inr rfl, .answer outcome hp⟩

/-! ## The end of a run -/

theorem Step.woken (h : Step s m t) (hw : s.woken = true) : t.woken = true := by
  cases h with
  | wake => rfl
  | enter | refuse | raise | send | stop | work | answer => exact hw

theorem Runs.woken (h : Runs s ms t) (hw : s.woken = true) : t.woken = true := by
  induction h with
  | nil => exact hw
  | snoc _ hm ih => exact hm.woken ih

/-- After a stop only a further one adds to the work, and no more than its wake-up. -/
theorem Step.work_le (h : Step s m t) (hs : s.Sound) (ha : s.Alert) (hf : s.queue.Formed)
    (hw : s.woken = true) :
    t.queue.work + m.byWorker.toNat ≤ s.queue.work + 2 * m.isWake.toNat := by
  have hr := ha.closed (.inl hw)
  by_cases hm : m.byWorker = true
  · have hl := (h.works hm).1.work_lt hf
    rw [hm, Bool.toNat_true]
    omega
  · cases h with
    | work | answer => exact absurd rfl hm
    | enter _ hrun =>
        rw [hr] at hrun
        cases hrun
    | @raise p hc =>
        have hrun := hs.entered p (.inl hc)
        rw [hr] at hrun
        cases hrun
    | @send p hc =>
        have hrun := hs.entered p (.inr hc)
        rw [hr] at hrun
        cases hrun
    | refuse => exact Nat.le_refl _
    | stop => exact Nat.le_refl _
    | wake => exact Queue.work_wake_le s.queue

/-- The worker does no more than is left, and two things for each further stop. -/
theorem Runs.work_le (h : Runs (start mode token) ms s) (hf : mode.fits = true)
    (hw : s.woken = true) (h' : Runs s ms' t) :
    t.queue.work + ms'.countP Move.byWorker ≤ s.queue.work + 2 * ms'.countP Move.isWake := by
  induction h' with
  | nil => exact Nat.le_refl _
  | @snoc t u ms' m hr hm ih =>
      have ht := h.append hr
      have hle := hm.work_le (ht.sound hf) (ht.alert hf) ht.formed (hr.woken hw)
      rw [List.countP_append, List.countP_append, List.countP_singleton, List.countP_singleton]
      cases hb : m.byWorker <;> cases hk : m.isWake <;> simp [hb, hk] at hle ⊢ <;> omega

/-- Where the worker cannot go on it has left, and nothing is left behind. -/
theorem Runs.drained (h : Runs (start mode token) ms s) (hf : mode.fits = true)
    (hw : s.woken = true) (hend : ∀ m t, m.byWorker = true → ¬ Step s m t) :
    s.queue.worker = .finished ∧ s.queue.pending = 0 ∧ s.queue.queued = [] := by
  have hs := h.sound hf
  have hg : s.queue.isGone = true := by
    cases hg : s.queue.isGone with
    | true => rfl
    | false =>
        obtain ⟨m, t, hm, hstep⟩ := h.lively hf hw hg (.ok ())
        refine absurd hstep (hend m t ?_)
        rcases hm with rfl | rfl <;> rfl
  have hfin : s.queue.worker = .finished := by
    cases hc : s.queue.worker with
    | finished => rfl
    | broken => exact absurd hc hs.whole
    | deciding | waiting | collecting | posting =>
        rw [Queue.isGone, hc] at hg
        cases hg
  have hp := (hs.left hfin).2
  have hn := hs.accounts.count
  refine ⟨hfin, hp, List.length_eq_zero_iff.1 ?_⟩
  omega

/-- A worker that is there has seen no end yet. -/
theorem Runs.stays (h : Runs (start mode token) ms s) (hf : mode.fits = true)
    (hg : s.queue.isGone = true) : s.queue.running = false ∧ s.queue.pending = 0 := by
  have hs := h.sound hf
  cases hw : s.queue.worker with
  | finished => exact hs.left hw
  | broken => exact absurd hw hs.whole
  | deciding | waiting | collecting | posting =>
      rw [Queue.isGone, hw] at hg
      cases hg

/-- Any stretch of an endless run is a run. -/
theorem runs_of_steps {σ : Nat → Scene} {μ : Nat → Move}
    (h : ∀ i, Step (σ i) (μ i) (σ (i + 1))) (n k : Nat) :
    Runs (σ n) ((List.range k).map fun j => μ (n + j)) (σ (n + k)) := by
  induction k with
  | zero => exact .nil _
  | succ k ih =>
      rw [List.range_succ, List.map_append]
      exact .snoc ih (h (n + k))

/-- The worker does not go on for ever by itself. -/
theorem Runs.not_endless {σ : Nat → Scene} {μ : Nat → Move}
    (h : Runs (start mode token) ms (σ 0)) (hf : mode.fits = true)
    (hw : (σ 0).woken = true) (hstep : ∀ i, Step (σ i) (μ i) (σ (i + 1))) (n : Nat) :
    ∃ i, n ≤ i ∧ (μ i).byWorker = false := by
  refine Classical.byContradiction fun hn => ?_
  have hall : ∀ j, (μ (n + j)).byWorker = true := fun j => by
    cases hj : (μ (n + j)).byWorker with
    | true => rfl
    | false => exact absurd ⟨n + j, Nat.le_add_right n j, hj⟩ hn
  have hzero := runs_of_steps hstep 0 n
  rw [Nat.zero_add] at hzero
  have hle := (h.append hzero).work_le hf (hzero.woken hw)
    (runs_of_steps hstep n ((σ n).queue.work + 1))
  have hcount : ((List.range ((σ n).queue.work + 1)).map fun j => μ (n + j)).countP
      Move.byWorker = (σ n).queue.work + 1 := by
    rw [List.countP_eq_length.2, List.length_map, List.length_range]
    intro m hm
    obtain ⟨j, _, rfl⟩ := List.mem_map.1 hm
    exact hall j
  have hwake : ((List.range ((σ n).queue.work + 1)).map fun j => μ (n + j)).countP
      Move.isWake = 0 := by
    rw [List.countP_eq_zero]
    intro m hm
    obtain ⟨j, _, rfl⟩ := List.mem_map.1 hm
    obtain ⟨-, hw, -⟩ := Move.of_byWorker (hall j)
    rw [hw]
    exact nofun
  omega

/-! ## Drains -/

/-- A queue that is stopped delivers or gives up what it holds, and its worker leaves
then and not before. -/
structure Drains (mode : QueueMode) (token : Option String) : Prop where
  /-- A worker that has been woken and is still there is never left waiting: with the
  answer it waits for, if it does, it goes on. -/
  lively : ∀ ms s, Runs (start mode token) ms s → s.woken = true → s.queue.isGone = false →
    ∀ outcome, ∃ m t, (m = .work ∨ m = .answer outcome) ∧ Step s m t
  /-- However the attempts end, the worker does no more than so much, and no more than two
  things on top for each further stop. -/
  bounded : ∀ ms s, Runs (start mode token) ms s → s.woken = true → ∀ ms' t, Runs s ms' t →
    ms'.countP Move.byWorker ≤ s.queue.work + 2 * ms'.countP Move.isWake
  /-- A run without an end needs calls without an end. -/
  ends : ∀ ms (σ : Nat → Scene) (μ : Nat → Move), Runs (start mode token) ms (σ 0) →
    (σ 0).woken = true → (∀ i, Step (σ i) (μ i) (σ (i + 1))) →
    ∀ n, ∃ i, n ≤ i ∧ (μ i).byWorker = false
  /-- Where the run ends the worker has left, nothing is pending and nothing is in the
  channel. -/
  drained : ∀ ms s, Runs (start mode token) ms s → s.woken = true → ∀ ms' t, Runs s ms' t →
    (∀ m u, m.byWorker = true → ¬ Step t m u) →
    t.queue.worker = .finished ∧ t.queue.pending = 0 ∧ t.queue.queued = []
  /-- The worker is there while the queue is running or something is pending. -/
  stays : ∀ ms s, Runs (start mode token) ms s → s.queue.isGone = true →
    s.queue.running = false ∧ s.queue.pending = 0

theorem drains_of_fits (hf : mode.fits = true) : Drains mode token where
  lively ms s h hw hg := h.lively hf hw hg
  bounded ms s h hw ms' t h' := by
    have hle := h.work_le hf hw h'
    omega
  ends ms σ μ h hw hstep n := h.not_endless hf hw hstep n
  drained ms s h hw ms' t h' hend := (h.append h').drained hf (h'.woken hw) hend
  stays ms s h hg := h.stays hf hg

/-- Without room the worker breaks down over the first report, and a stop leaves it
pending. -/
theorem exists_broken (hf : mode.fits = false) (p : Parcel) :
    ∃ ms s, Runs (start mode token) ms s ∧ s.woken = true ∧ s.queue.isGone = true ∧
      s.queue.pending = 1 := by
  have h₁ := (Runs.nil (start mode token)).submit rfl rfl p
  have h₂ := h₁.stop rfl
  have h₃ := h₂.work (q := { (Queue.submit (.start mode token) p).beginStop with
    worker := .waiting }) rfl
  cases mode with
  | single => cases hf
  | batch url limit =>
      have hr : QueueMode.hasRoom limit = false := hf
      have h₄ := h₃.work (q := { (Queue.submit (.start (.batch url limit) token) p).beginStop with
        worker := .broken, channel := [] }) (by
          show some (if QueueMode.hasRoom limit = true then _ else _) = _
          rw [hr]
          rfl)
      exact ⟨_, _, h₄, rfl, rfl, rfl⟩

theorem not_drains_of_not_fits (hf : mode.fits = false) : ¬ Drains mode token := by
  intro hd
  obtain ⟨ms, s, h, _, hg, hp⟩ := @exists_broken mode token hf .blank
  rw [(hd.stays ms s h hg).2] at hp
  cases hp

/-- A queue drains exactly if there is room for its batches. -/
theorem drains_iff_fits : Drains mode token ↔ mode.fits = true := by
  constructor
  · intro hd
    cases hf : mode.fits with
    | true => rfl
    | false => exact absurd hd (not_drains_of_not_fits hf)
  · exact drains_of_fits

/-- The largest limit that can be asked for leaves no room: a report and a stop, and the
worker is gone with the report still pending. -/
theorem not_drains_largest_limit :
    ¬ Drains (.ofLimit (.loopback "batch") 18446744073709551615) none ∧
    ∃ ms s, Runs (start (.ofLimit (.loopback "batch") 18446744073709551615) none) ms s ∧
      s.woken = true ∧ s.queue.isGone = true ∧ s.queue.pending = 1 :=
  ⟨not_drains_of_not_fits rfl, exists_broken rfl .blank⟩

end Scene
end Courier
