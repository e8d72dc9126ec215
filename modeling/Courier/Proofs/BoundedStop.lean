import Courier.Proofs.TimedDrain
import Courier.Queue.Scripted

/-!
# A stop is bounded, a drain is not

A stop waits for the worker for as long as its timeout says, and no longer. What the worker
has before it at that moment stands in a list, and the list says all there is to say: how
long the worker would still need, which of its attempts are over when the caller is back, and
which are not. The reports of the latter are what is pending.

The worker has no part in this. It stays at work on the same list when the caller has gone,
so that in the end the same attempts have gone out as if somebody had waited for all of them.
Nothing that comes later makes a difference to it: a further stop is back at once, and a
report is turned away.

All of this asks for one thing, that there is room for a batch. A worker that breaks down for
want of it leaves its report pending, however much time the stop had. So the stops of a mode
are bounded in this sense exactly if the mode fits.
-/

namespace Courier

namespace Queue

variable {q q' : Queue}

theorem Works.awaited (h : Works q q') : q'.awaited = q.awaited := by
  cases h <;> rfl

theorem awaited_submit (q : Queue) (p : Parcel) : (q.submit p).awaited = q.awaited := by
  unfold submit send
  split
  · split <;> rfl
  · rfl

theorem awaited_beginStop (q : Queue) : q.beginStop.awaited = q.awaited := by
  show q.close.wake.awaited = q.awaited
  unfold wake
  split <;> rfl

theorem submit_eq_refuse (hr : q.running = false) (p : Parcel) : q.submit p = q.refuse p := by
  rw [submit, hr, if_neg Bool.false_ne_true]

theorem Lives.isGone_eq_false {mode : QueueMode} {token : Option String} (h : Lives mode token q)
    (hfits : mode.fits = true) (hr : q.running = true) : q.isGone = false := by
  refine Bool.eq_false_iff.2 fun hg => ?_
  rw [(h.closed_of_gone hfits hg).1] at hr
  cases hr

/-- A queue without room for its batches, before it has begun a delivery. -/
structure Cramped (q : Queue) : Prop where
  fits : q.mode.fits = false
  taken : ∀ taken, q.worker ≠ .collecting taken
  posted : ∀ load failures, q.worker ≠ .posting load failures

/-- Its worker may look at reports, but takes none of them on. -/
theorem Works.cramped (h : Works q q') (hq : q.Cramped) :
    q'.Cramped ∧ q'.pending = q.pending := by
  have hfits := hq.fits
  cases h with
  | leave | wait | rouse | breakDown =>
      exact ⟨⟨hfits, fun _ h => Worker.noConfusion h, fun _ _ h => Worker.noConfusion h⟩, rfl⟩
  | single _ _ hm =>
      rw [hm] at hfits
      cases hfits
  | begin _ _ hm hr =>
      rw [hm] at hfits
      exact absurd hr (Bool.eq_false_iff.1 hfits)
  | gather hw | skip hw | dispatch hw | stall hw => exact absurd hw (hq.taken _)
  | succeed hw | retry _ _ hw | giveUp _ _ hw => exact absurd hw (hq.posted _ _)

end Queue

namespace Clocked

variable {ω : Type} {post : Sender ω} {mode : QueueMode} {token : Option String}
  {c c' c'' : Clocked ω} {n : Nat}

/-! ## What can come of a queue -/

/-- What can come of a queue at work, with the number of stops on the way there. The worker goes
its own way, and time passes as it likes. -/
inductive Reaches (post : Sender ω) (c : Clocked ω) : Nat → Clocked ω → Prop where
  | refl : Reaches post c 0 c
  | tick {n : Nat} {c' c'' : Clocked ω} : Reaches post c n c' → Ticks post c' c'' →
      Reaches post c n c''
  | pass {n : Nat} {c' : Clocked ω} (now : Nat) : Reaches post c n c' → c'.now ≤ now →
      Reaches post c n { c' with now }
  | submit {n : Nat} {c' : Clocked ω} (p : Parcel) : Reaches post c n c' →
      Reaches post c n (c'.apply fun q => q.submit p)
  | stop {n : Nat} {c' : Clocked ω} (timeout : Nat) : Reaches post c n c' →
      Reaches post c (n + 1) (c'.stop post timeout)

theorem Reaches.ticks {deadline : Option Nat} {steps : Nat} (h : c.Reaches post n c') :
    c.Reaches post n (c'.ticks post deadline steps) := by
  induction steps generalizing c' with
  | zero => exact h
  | succ steps ih =>
      unfold Clocked.ticks
      cases htick : c'.tick post deadline with
      | none => exact h
      | some next => exact ih (h.tick (tick_ticks htick))

/-- A caller who waits does nothing else than let things happen and time pass. -/
theorem Reaches.flush (h : c.Reaches post n c') : c.Reaches post n (c'.flush post) := by
  unfold Clocked.flush
  split
  · exact h
  · exact h.ticks

theorem Reaches.sleep (h : c.Reaches post n c') (ms : Nat) :
    c.Reaches post n (c'.sleep post ms) := by
  unfold Clocked.sleep
  split
  · exact h
  · exact h.ticks.pass _ (now_ticks_le (Nat.le_add_right _ _))

theorem lives_start (mode : QueueMode) (token : Option String) (w : ω) :
    (start (.start mode token) w).toDispatch.Lives mode token := ⟨.start, fun h => absurd rfl h⟩

theorem Reaches.lives (h : c.Reaches post n c') (hl : c.toDispatch.Lives mode token) :
    c'.toDispatch.Lives mode token := by
  induction h with
  | refl => exact hl
  | tick _ ht ih => exact ht.lives ih
  | pass now _ _ ih => exact ih
  | submit p _ ih => exact ih.of_apart (Queue.apart_submit _ p) (ih.queue.submit p)
  | @stop n c' timeout _ ih =>
      have hbegin : (c'.apply Queue.beginStop).toDispatch.Lives mode token :=
        ih.of_apart (Queue.apart_beginStop _) ih.queue.beginStop
      exact (goes_stop post timeout c').lives hbegin

theorem Ticks.awaited (h : c.Ticks post c') : c'.queue.awaited = c.queue.awaited := by
  rcases h.works with he | hw
  · rw [he]
  · exact hw.awaited

/-- Before the first stop the queue is open. -/
theorem Reaches.opened (h : c.Reaches post n c') (hn : n = 0) (hr : c.queue.running = true)
    (ha : c.queue.awaited = false) : c'.queue.running = true ∧ c'.queue.awaited = false := by
  induction h with
  | refl => exact ⟨hr, ha⟩
  | tick _ ht ih =>
      obtain ⟨hr', ha'⟩ := ih hn
      exact ⟨(Goes.refl.tick ht).calls.1.trans hr', ht.awaited.trans ha'⟩
  | pass _ _ _ ih => exact ih hn
  | submit p _ ih =>
      obtain ⟨hr', ha'⟩ := ih hn
      exact ⟨(Queue.running_submit _ p).trans hr', (Queue.awaited_submit _ p).trans ha'⟩
  | stop => cases hn

/-! ## After the first stop -/

/-- A queue that was stopped, out of which these attempts will have gone in the end. -/
structure Stopped (post : Sender ω) (mode : QueueMode) (token : Option String)
    (out : List Attempt) (c : Clocked ω) : Prop where
  closed : c.toDispatch.Closed mode token
  awaited : c.queue.awaited = true
  posts : c.posts post token = out

variable {out : List Attempt}

theorem Stopped.of_apart (h : Stopped post mode token out c) {q : Queue} (hq : c.queue.Apart q)
    (hl : q.Lives mode token) (ha : q.Alert) (hw : q.awaited = true)
    (hqueued : q.queued = c.queue.queued) : Stopped post mode token out { c with queue := q } where
  closed := ⟨h.closed.fits, h.closed.lives.of_apart hq hl, ha⟩
  awaited := hw
  posts := (posts_of_apart hq hqueued).trans h.posts

theorem stop_of_awaited (h : c.queue.awaited = true) (timeout : Nat) :
    c.stop post timeout = c.apply Queue.beginStop := by
  have hbegin : (c.apply Queue.beginStop).queue.awaited = true :=
    (Queue.awaited_beginStop c.queue).trans h
  unfold stop
  dsimp only
  rw [if_pos hbegin]

theorem Reaches.stopped (h : c.Reaches post n c') (hs : Stopped post mode token out c) :
    Stopped post mode token out c' := by
  induction h with
  | refl => exact hs
  | tick _ ht ih =>
      exact ⟨ht.closed ih.closed, ht.awaited.trans ih.awaited,
        (ht.course ih.closed.lives ih.closed.fits).posts.trans ih.posts⟩
  | pass now _ _ ih => exact ⟨ih.closed, ih.awaited, (posts_now _ now).trans ih.posts⟩
  | @submit n c' p _ ih =>
      -- A closed queue does no more than write down what it turns away.
      have hrefuse := Queue.submit_eq_refuse ih.closed.alert.closed p
      show Stopped post mode token out { c' with queue := c'.queue.submit p }
      refine ih.of_apart (Queue.apart_submit _ p) (ih.closed.lives.queue.submit p) ?_
        ((Queue.awaited_submit _ p).trans ih.awaited) ?_
      · rw [hrefuse]
        exact ⟨ih.closed.alert.closed, ih.closed.alert.heard⟩
      · rw [hrefuse]
        rfl
  | @stop n c' timeout _ ih =>
      rw [stop_of_awaited ih.awaited]
      exact ih.of_apart (Queue.apart_beginStop _) ih.closed.lives.queue.beginStop
        (Queue.alert_beginStop _) ((Queue.awaited_beginStop _).trans ih.awaited)
        (Queue.queued_beginStop _)

/-! ## The wait -/

/-- The queue when the caller begins to wait. -/
def called (c : Clocked ω) : Clocked ω :=
  { c with queue := { c.queue.beginStop with awaited := true } }

theorem apart_called (c : Clocked ω) : c.queue.Apart c.called.queue :=
  (Queue.apart_beginStop c.queue).trans (Queue.apart_of_history rfl rfl rfl rfl)

theorem ahead_called (c : Clocked ω) : c.called.ahead post = c.ahead post :=
  ahead_of_apart (apart_called c) (Queue.queued_beginStop c.queue)

theorem stopped_called (post : Sender ω) (hl : c.toDispatch.Lives mode token)
    (hfits : mode.fits = true) : Stopped post mode token (c.posts post token) c.called where
  closed :=
    { fits := hfits
      lives := hl.of_apart (apart_called c) hl.queue.beginStop.await
      alert := ⟨(Queue.alert_beginStop c.queue).closed, (Queue.alert_beginStop c.queue).heard⟩ }
  awaited := rfl
  posts := posts_of_apart (apart_called c) (Queue.queued_beginStop c.queue)

/-- The first stop waits. -/
theorem stop_eq (h : c.queue.awaited = false) (timeout : Nat) :
    c.stop post timeout = (c.called.await post timeout).apply (stopNotes timeout) := by
  have hbegin : (c.apply Queue.beginStop).queue.awaited = false :=
    (Queue.awaited_beginStop c.queue).trans h
  unfold stop
  dsimp only
  rw [if_neg (by rw [hbegin]; exact Bool.false_ne_true)]
  rfl

/-- How a wait for the worker ends: it does not even begin, or the worker leaves, or the time is
over. -/
theorem await_cases (post : Sender ω) (hg : c.queue.isGone = false) (timeout : Nat) :
    (timeout = 0 ∧ c.await post timeout = c) ∨
    (0 < timeout ∧ (c.run post (some (c.now + timeout))).queue.isGone = true ∧
      c.await post timeout = c.run post (some (c.now + timeout))) ∨
    (0 < timeout ∧ (c.run post (some (c.now + timeout))).queue.isGone = false ∧
      c.await post timeout =
        { c.run post (some (c.now + timeout)) with now := c.now + timeout }) := by
  unfold await
  rw [hg, Bool.false_or]
  rcases Nat.eq_zero_or_pos timeout with hzero | hpos
  · exact .inl ⟨hzero, by simp [hzero]⟩
  · right
    have hne : (decide (timeout = 0)) = false := decide_eq_false (Nat.ne_of_gt hpos)
    rw [hne, if_neg Bool.false_ne_true]
    dsimp only
    split
    · next hdone => exact .inl ⟨hpos, hdone, rfl⟩
    · next hdone => exact .inr ⟨hpos, Bool.eq_false_iff.2 hdone, rfl⟩

theorem stopNotes_of_done (timeout : Nat) {q : Queue} (hg : q.isGone = true)
    (hp : q.pending = 0) : stopNotes timeout q = q := by
  unfold stopNotes
  dsimp only
  rw [if_pos hg, hp, if_neg (Nat.lt_irrefl 0)]

/-- What a caller is told who is back too early. -/
def lateNotes (timeout pending : Nat) : List Log.Entry :=
  [Log.warn ("Reports queue did not finish within " ++ toString timeout ++ "ms"),
    Log.warn ("There are " ++ toString pending ++ " unreported items in the queue")]

theorem stopNotes_of_late (timeout : Nat) {q : Queue} (hg : q.isGone = false)
    (hp : 0 < q.pending) : ∃ e e' : Log.Entry, stopNotes timeout q = (q.note e).note e' ∧
      [e, e'] = lateNotes timeout q.pending := by
  refine ⟨_, _, ?_, rfl⟩
  unfold stopNotes
  dsimp only
  rw [hg, if_neg Bool.false_ne_true]
  exact if_pos hp

theorem log_note (q : Queue) (e : Log.Entry) : (q.note e).log = q.log ++ [e] := by
  simp [Queue.log, Queue.note, Queue.record, Queue.QueueEvent.entry?]

theorem Reaches.await (h : c.Reaches post n c') (timeout : Nat) :
    c.Reaches post n (c'.await post timeout) := by
  unfold Clocked.await
  split
  · exact h
  · dsimp only
    split
    · exact h.ticks
    · exact h.ticks.pass _ (now_ticks_le (Nat.le_add_right _ _))

theorem Stopped.note (h : Stopped post mode token out c) (e : Log.Entry) :
    Stopped post mode token out { c with queue := c.queue.note e } :=
  h.of_apart (Queue.apart_note _ e) (h.closed.lives.queue.note e)
    ⟨h.closed.alert.closed, h.closed.alert.heard⟩ h.awaited rfl

theorem stopped_stop (post : Sender ω) (hl : c.toDispatch.Lives mode token)
    (hfits : mode.fits = true) (ha : c.queue.awaited = false) (timeout : Nat) :
    Stopped post mode token (c.posts post token) (c.stop post timeout) := by
  have hwaited : Stopped post mode token (c.posts post token) (c.called.await post timeout) :=
    (Reaches.refl.await timeout).stopped (stopped_called post hl hfits)
  rw [stop_eq ha]
  show Stopped post mode token _ { c.called.await post timeout with
    queue := stopNotes timeout (c.called.await post timeout).queue }
  unfold stopNotes
  dsimp only
  split
  · split
    · exact hwaited.note _
    · exact hwaited
  · split
    · exact (hwaited.note _).note _
    · exact hwaited.note _

/-! ## How a stop ends -/

/-- The caller was back before the worker was done. What has been heard of is what comes in the
time of the wait; a caller who does not wait hears of nothing. -/
structure BreaksOff (post : Sender ω) (timeout : Nat) (heard left : List Leg) (c s : Clocked ω) :
    Prop extends Halfway post heard left c s where
  before : ∀ leg ∈ heard, 0 < timeout ∧ leg.time ≤ s.now
  after : ∀ leg ∈ left, timeout = 0 ∨ s.now < leg.time

theorem Halfway.stopNotes {heard left : List Leg} {s : Clocked ω}
    (h : Halfway post heard left c s) (timeout : Nat) (hg : s.queue.isGone = false)
    (hp : 0 < s.queue.pending) :
    Halfway post heard left c (s.apply (stopNotes timeout)) ∧
    (s.apply (Clocked.stopNotes timeout)).queue.log =
      s.queue.log ++ lateNotes timeout (s.apply (Clocked.stopNotes timeout)).queue.pending := by
  obtain ⟨e, e', hnotes, htold⟩ := stopNotes_of_late timeout hg hp
  have hqueue : (s.apply (Clocked.stopNotes timeout)).queue = (s.queue.note e).note e' := hnotes
  refine ⟨⟨h.legs, ?_, ?_, ?_⟩, ?_⟩
  · rw [hqueue, Queue.finished_note, Queue.finished_note]
    exact h.finished
  · rw [hqueue, Queue.finished_note, Queue.finished_note, Queue.accepted_note, Queue.accepted_note]
    exact h.unfinished
  · rw [hqueue]
    exact h.pending
  · rw [hqueue, log_note, log_note, List.append_assoc]
    exact congrArg (s.queue.log ++ ·) htold

theorem accepted_stop (post : Sender ω) (timeout : Nat) (c : Clocked ω) :
    (c.stop post timeout).queue.accepted = c.queue.accepted :=
  (goes_stop post timeout c).calls.2.trans (Queue.accepted_wake c.queue.close)

theorem Halfway.of_called {heard left : List Leg} {s : Clocked ω}
    (h : Halfway post heard left c.called s) : Halfway post heard left c s where
  legs := by
    rw [← ahead_called c]
    exact h.legs
  finished := by
    rw [← (apart_called c).finished]
    exact h.finished
  unfinished := h.unfinished
  pending := h.pending

theorem accepted_called (c : Clocked ω) : c.called.queue.accepted = c.queue.accepted :=
  Queue.accepted_wake c.queue.close

theorem Drained.of_called {s : Clocked ω} (h : Drained post token c.called s)
    (hposts : c.called.posts post token = c.posts post token) : Drained post token c s where
  gone := h.gone
  now := by
    rw [← ahead_called c]
    exact h.now
  sent := h.sent.trans hposts
  finished := h.finished.trans (accepted_called c)
  pending := h.pending

/-- A first stop is back when the worker is done, or when the time is over before that. -/
theorem stop_cases (hl : c.toDispatch.Lives mode token) (hfits : mode.fits = true)
    (hr : c.queue.running = true) (ha : c.queue.awaited = false) {timeout : Nat}
    (hne : c.remaining post ≠ timeout) :
    (Drained post token c (c.stop post timeout) ∧
      (c.stop post timeout).now ≤ c.now + timeout) ∨
    ((c.stop post timeout).now = c.now + timeout ∧
      c.now + timeout < (c.ahead post).time ∧
      (∃ heard left, BreaksOff post timeout heard left c (c.stop post timeout)) ∧
      ∃ earlier, (c.stop post timeout).queue.log =
        earlier ++ lateNotes timeout (c.stop post timeout).queue.pending) := by
  have hcalled := stopped_called post hl hfits
  have hclosed := hcalled.closed
  have hnow : c.called.now = c.now := rfl
  have hg : c.called.queue.isGone = false := by
    rw [Queue.isGone, (apart_called c).worker]
    exact hl.queue.isGone_eq_false hfits hr
  have hle : c.now ≤ c.now + timeout := Nat.le_add_right _ _
  rw [stop_eq ha]
  rcases await_cases post hg timeout with
    ⟨hzero, hawait⟩ | ⟨hpos, hdone, hawait⟩ | ⟨hpos, hlate, hawait⟩
  · right
    subst hzero
    have hlt : c.now < (c.ahead post).time := by
      rw [remaining] at hne
      omega
    have hhalf := (Passes.refl post token c.called).halfway hclosed.lives hclosed.lives hfits rfl
    have hp : 0 < c.called.queue.pending :=
      pending_pos post hclosed.lives hfits (by rwa [ahead_called])
    obtain ⟨hhalf', hlog⟩ := hhalf.stopNotes 0 hg hp
    rw [hawait]
    exact ⟨rfl, hlt, ⟨[], _, hhalf'.of_called, List.forall_mem_nil _, fun _ _ => .inl rfl⟩,
      _, hlog⟩
  · left
    have hdrained : Drained post token c.called _ := drained_run hclosed hdone
    have hnotes : ∀ s : Clocked ω, s.queue.isGone = true → s.queue.pending = 0 →
        s.apply (stopNotes timeout) = s := fun s hs hp => by
      unfold apply
      rw [stopNotes_of_done timeout hs hp]
    rw [hawait, hnotes _ hdone hdrained.pending]
    exact ⟨hdrained.of_called hcalled.posts, now_ticks_le hle⟩
  · right
    obtain ⟨htime, htime', heard, left, hhalf, hbefore, hafter⟩ := halfway_run hclosed hle hlate
    have hlives := (advances_run post hclosed (some (c.now + timeout))).closed.lives
    have hp := pending_pos post hlives hfits (Nat.lt_of_le_of_lt (now_ticks_le hle) htime')
    -- The clock is put forward to the end of the wait.
    have hhalf' : Halfway post heard left c.called
        { c.called.run post (some (c.now + timeout)) with now := c.now + timeout } :=
      ⟨hhalf.legs, hhalf.finished, hhalf.unfinished, hhalf.pending⟩
    obtain ⟨hnoted, hlog⟩ := hhalf'.stopNotes timeout hlate hp
    rw [ahead_called] at htime
    rw [hawait]
    exact ⟨rfl, htime, ⟨heard, left, hnoted.of_called, fun leg hm => ⟨hpos, hbefore leg hm⟩,
      fun leg hm => .inr (hafter leg hm)⟩, _, hlog⟩

/-- What a first stop comes to, and what comes after it. -/
structure StopsWithin (post : Sender ω) (token : Option String) (timeout : Nat)
    (c s : Clocked ω) : Prop where
  /-- The time that the worker needs is the one that it takes if somebody waits without an end. -/
  needs : Drained post token c ((c.apply Queue.beginStop).run post none)
  returns : s.now = c.now + min (c.remaining post) timeout
  accepted : s.queue.accepted = c.queue.accepted
  inTime : c.remaining post < timeout →
    s.queue.finished = s.queue.accepted ∧ s.queue.pending = 0
  tooLate : timeout < c.remaining post →
    (∃ heard left, BreaksOff post timeout heard left c s) ∧
    ∃ earlier, s.queue.log = earlier ++ lateNotes timeout s.queue.pending
  /-- Whatever comes, the posts after the return are those that were still to come. -/
  goesOn : ∀ n s', s.Reaches post n s' → ∃ later, (s'.run post none).sent = s.sent ++ later ∧
    ((c.apply Queue.beginStop).run post none).sent = s.sent ++ later
  stop : ∀ n s', s.Reaches post n s' → ∀ again, (s'.stop post again).now = s'.now ∧
    (s'.stop post again).queue.pending = s'.queue.pending
  submit : ∀ n s', s.Reaches post n s' → ∀ p, s'.queue.submit p = s'.queue.refuse p ∧
    (s'.queue.submit p).pending = s'.queue.pending

theorem drained_beginStop (post : Sender ω) (hl : c.toDispatch.Lives mode token)
    (hfits : mode.fits = true) :
    Drained post token c ((c.apply Queue.beginStop).run post none) := by
  have hapart := Queue.apart_beginStop c.queue
  have hqueued := Queue.queued_beginStop c.queue
  have hclosed : (c.apply Queue.beginStop).toDispatch.Closed mode token :=
    ⟨hfits, hl.of_apart hapart hl.queue.beginStop, Queue.alert_beginStop c.queue⟩
  have hahead : (c.apply Queue.beginStop).ahead post = c.ahead post := ahead_of_apart hapart hqueued
  have hposts : (c.apply Queue.beginStop).posts post token = c.posts post token :=
    posts_of_apart hapart hqueued
  obtain ⟨hgone, hnow, hsent, hfinished, hpending⟩ := drained_run_none post hclosed
  exact ⟨hgone, hahead ▸ hnow, hposts ▸ hsent, hfinished.trans (Queue.accepted_wake c.queue.close),
    hpending⟩

theorem stopsWithin (hl : c.toDispatch.Lives mode token) (hfits : mode.fits = true)
    (hr : c.queue.running = true) (ha : c.queue.awaited = false) {timeout : Nat}
    (hne : c.remaining post ≠ timeout) :
    StopsWithin post token timeout c (c.stop post timeout) := by
  have hstopped := stopped_stop post hl hfits ha timeout
  have hneeds := drained_beginStop post hl hfits
  have hfrom : c.now ≤ (c.ahead post).time := (from_ahead hl).time
  have hcases := stop_cases hl hfits hr ha hne
  have haccepted := accepted_stop post timeout c
  refine ⟨hneeds, ?_, haccepted, fun hlt => ?_, fun hlt => ?_, fun n s' hs' => ?_,
    fun n s' hs' again => ?_, fun n s' hs' p => ?_⟩
  · rcases hcases with ⟨hdone, hle⟩ | ⟨hnow, hlt, -⟩
    · rw [hdone.now] at hle ⊢
      unfold remaining
      omega
    · rw [hnow]
      unfold remaining
      omega
  · rcases hcases with ⟨hdone, -⟩ | ⟨-, hlate, -⟩
    · exact ⟨hdone.finished.trans haccepted.symm, hdone.pending⟩
    · unfold remaining at hlt
      omega
  · rcases hcases with ⟨hdone, hle⟩ | ⟨-, -, hlate⟩
    · rw [hdone.now] at hle
      unfold remaining at hlt
      omega
    · exact hlate
  · have hend := drained_run_none post (hs'.stopped hstopped).closed
    refine ⟨((c.stop post timeout).unsent post).map (Leg.attempt token), ?_, ?_⟩
    · rw [hend.sent, (hs'.stopped hstopped).posts, ← hstopped.posts]
      rfl
    · rw [hneeds.sent, ← hstopped.posts]
      rfl
  · rw [stop_of_awaited (hs'.stopped hstopped).awaited]
    exact ⟨rfl, Queue.wake_pending s'.queue.close⟩
  · have hrefuse := Queue.submit_eq_refuse (hs'.stopped hstopped).closed.alert.closed p
    refine ⟨hrefuse, ?_⟩
    rw [hrefuse]
    rfl

/-! ## Which queues stop in time -/

/-- Whatever a queue of this mode posts to and however it has come to where it is: its first
stop is back when the worker is done or the time is over, whichever is first, and leaves the
worker to go on. -/
def StopsInTime (mode : QueueMode) (token : Option String) : Prop :=
  ∀ (ω : Type) (post : Sender ω) (w : ω) (c : Clocked ω) (timeout : Nat),
    (start (.start mode token) w).Reaches post 0 c → c.remaining post ≠ timeout →
    StopsWithin post token timeout c (c.stop post timeout)

theorem stopsInTime_of_fits (hfits : mode.fits = true) : StopsInTime mode token := by
  intro ω post w c timeout hc hne
  obtain ⟨hr, ha⟩ := hc.opened rfl rfl rfl
  exact stopsWithin (hc.lives (lives_start mode token w)) hfits hr ha hne

/-- A queue of this mode with so many reports in it. -/
def holding (mode : QueueMode) (token : Option String) (reports : Nat) : Clocked Nat :=
  (fun c => c.apply fun q => q.submit .blank)^[reports] (start (.start mode token) 0)

theorem reaches_holding (post : Sender Nat) (mode : QueueMode) (token : Option String)
    (reports : Nat) :
    (start (.start mode token) 0).Reaches post 0 (holding mode token reports) := by
  induction reports with
  | zero => exact .refl
  | succ reports ih =>
      rw [holding, Function.iterate_succ_apply']
      exact ih.submit .blank

/-- Without room for its batches a queue never begins a delivery. Whatever is pending stays so. -/
theorem Goes.cramped (h : c.Goes post c') (hc : c.queue.Cramped) :
    c'.queue.Cramped ∧ c'.queue.pending = c.queue.pending := by
  induction h with
  | refl => exact ⟨hc, rfl⟩
  | tick _ ht ih =>
      rcases ht.works with he | hw
      · rw [he]
        exact ih
      · obtain ⟨hcramped, hpending⟩ := hw.cramped ih.1
        exact ⟨hcramped, hpending.trans ih.2⟩
  | note e _ ih => exact ⟨⟨ih.1.fits, ih.1.taken, ih.1.posted⟩, ih.2⟩
  | await _ ih => exact ⟨⟨ih.1.fits, ih.1.taken, ih.1.posted⟩, ih.2⟩
  | wait _ _ ih => exact ih

/-- A sender that succeeds with everything, and at once. -/
def prompt : Sender Nat := PostScript.sender (PostScript.ofList [])

/-- Nothing would keep the worker from its only report, but it breaks down over it. -/
theorem pending_stop_of_not_fits (hf : mode.fits = false) :
    (holding mode token 1).remaining prompt = 0 ∧
    ((holding mode token 1).stop prompt 1).queue.pending = 1 := by
  refine ⟨?_, ?_⟩
  · cases mode with
    | single => cases hf
    | batch => rfl
  · have hcramped : ((holding mode token 1).apply Queue.beginStop).queue.Cramped :=
      ⟨hf, fun _ h => Worker.noConfusion h, fun _ _ h => Worker.noConfusion h⟩
    exact ((goes_stop prompt 1 _).cramped hcramped).2

theorem not_stopsInTime_of_not_fits (hf : mode.fits = false) : ¬ StopsInTime mode token := by
  intro hstops
  obtain ⟨hneeds, hpending⟩ := @pending_stop_of_not_fits mode token hf
  have hwithin := hstops Nat prompt 0 (holding mode token 1) 1 (reaches_holding _ _ _ _)
    (by rw [hneeds]; exact Nat.zero_ne_one)
  rw [(hwithin.inTime (by rw [hneeds]; exact Nat.one_pos)).2] at hpending
  cases hpending

/-- The stops of a queue are bounded exactly if there is room for its batches. -/
theorem stopsInTime_iff_fits : StopsInTime mode token ↔ mode.fits = true := by
  constructor
  · intro hstops
    cases hf : mode.fits with
    | true => rfl
    | false => exact absurd hstops (not_stopsInTime_of_not_fits hf)
  · exact stopsInTime_of_fits

/-- Three reports go out in two batches, the first of which is tried twice, and the caller is back
between them. -/
theorem stopsWithin_betweenBatches :
    let post := PostScript.sender (PostScript.ofList
      [.fail (.general "overloaded"), .stall 5, .stall 5])
    let c := holding (.batch (.loopback "batch") 2) none 3
    c.remaining post = 10 ∧ StopsWithin post none 7 c (c.stop post 7) ∧
      (c.stop post 7).queue.pending = 1 := by
  refine ⟨by decide +kernel, ?_, by decide +kernel⟩
  exact stopsInTime_iff_fits.2 rfl _ _ _ _ _ (reaches_holding _ _ _ _) (by decide +kernel)

/-- The largest limit that can be asked for leaves no room: the only report would be gone at
once, and is still pending when the stop is back. -/
theorem not_stopsInTime_largest_limit :
    let mode := QueueMode.ofLimit (.loopback "batch") 18446744073709551615
    let c := holding mode none 1
    ¬ StopsInTime mode none ∧ (start (.start mode none) 0).Reaches prompt 0 c ∧
      c.remaining prompt = 0 ∧ (c.stop prompt 1).queue.pending = 1 :=
  ⟨not_stopsInTime_of_not_fits rfl, reaches_holding _ _ _ _, pending_stop_of_not_fits rfl⟩

end Clocked
end Courier
