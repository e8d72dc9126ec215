import Courier.Proofs.QueueCourse
import Courier.Proofs.QueueDrain

/-!
# A run goes through what lies ahead

A run that somebody waits for ends for one of two reasons: the worker has left, or an answer is on
its way that comes after the deadline. That it ends in no other way is due to two things. A stop
sends a wake-up, without which the worker might wait on an empty channel, and the work that is
left covers the fuel of the run.

In either case what lay ahead at the beginning splits in two. The attempts before the end of the
run have been heard of and those after it are what still lies ahead, so that a run without a
deadline goes through all of it, and is over when the list says.

Which attempts these are does not depend on the time at all, only when they are heard of does. So
however long the worker is left alone in between, the same attempts go out in the end.
-/

namespace Courier

namespace Queue

variable {q q' : Queue} {mode : QueueMode} {token : Option String}

/-! ## The worker of a closed queue -/

/-- The queue is closed, and its worker is not left waiting. -/
structure Alert (q : Queue) : Prop where
  closed : q.running = false
  heard : q.worker = .waiting → q.channel ≠ []

theorem Works.alert (h : Works q q') (hk : q.Kept) (ha : q.Alert) : q'.Alert := by
  refine ⟨h.frame.2.2.trans ha.closed, fun hwait => ?_⟩
  obtain ⟨hchannel, hheld, hopen⟩ := h.waits hwait
  rw [hchannel]
  intro hempty
  rcases hopen with hrun | hpending
  · rw [ha.closed] at hrun
    cases hrun
  · rcases hk with ⟨hacc, -, -⟩ | ⟨hbroken, -⟩
    · -- No report is held, so one that is pending is in the channel.
      have hcount := hacc.count
      rw [hheld, queued, hempty] at hcount
      exact hpending hcount
    · exact h.not_broken hbroken

theorem alert_beginStop (q : Queue) : q.beginStop.Alert := by
  refine ⟨wake_running q.close, fun hwait => ?_⟩
  have hworker : q.close.worker = .waiting := (wake_worker q.close).symm.trans hwait
  have hg : q.close.isGone = false := by rw [isGone, hworker]
  show q.close.wake.channel ≠ []
  simp [wake, hg]

theorem queued_beginStop (q : Queue) : q.beginStop.queued = q.queued := by
  show q.close.wake.queued = q.queued
  unfold wake
  split
  · rfl
  · show (q.channel ++ [Slot.wake]).filterMap Slot.parcel? = _
    rw [List.filterMap_append]
    exact List.append_nil _

theorem Apart.agenda (h : q.Apart q') (hq : q'.queued = q.queued) : q'.agenda = q.agenda := by
  unfold Queue.agenda
  rw [h.mode, h.worker, hq]

/-- Where no report is left there is nothing to deliver. -/
theorem agenda_eq_nil (hf : q.Formed) (h : q.held ++ q.queued = []) : q.agenda = [] := by
  obtain ⟨hheld, hqueued⟩ := List.append_eq_nil_iff.1 h
  have hw := hf.worker
  unfold agenda
  rw [hqueued]
  cases hq : q.worker with
  | posting load failures =>
      rw [hq] at hw
      rw [held, hq] at hheld
      cases hm : q.mode with
      | single =>
          rw [hm] at hw
          obtain ⟨⟨p, rfl⟩, -⟩ := hw
          cases hheld
      | batch url limit =>
          rw [hm] at hw
          exact absurd hheld hw.1.2.1
  | collecting taken =>
      rw [hq] at hw
      rw [held, hq] at hheld
      obtain ⟨url, limit, -, hne, -⟩ := hw
      exact absurd hheld hne
  | deciding | waiting | finished | broken => cases q.mode <;> rfl

end Queue

/-! ## The attempts do not depend on the time -/

/-- The same attempts, whenever they are heard of. -/
structure Ahead.Alike {ω : Type} (a b : Ahead ω) : Prop where
  loads : a.legs.map Leg.load = b.legs.map Leg.load
  world : a.world = b.world

namespace Ahead

variable {ω : Type} {a b : Ahead ω}

theorem Alike.cons (h : a.Alike b) (load : Load) (time time' : Nat) (closes : Bool) :
    (a.cons ⟨load, time, closes⟩).Alike (b.cons ⟨load, time', closes⟩) :=
  ⟨congrArg (load :: ·) h.loads, h.world⟩

theorem Alike.andThen (h : a.Alike b) {f : Nat → ω → Ahead ω}
    (hf : ∀ time time' w, (f time w).Alike (f time' w)) : (a.andThen f).Alike (b.andThen f) := by
  have hnext := hf a.time b.time b.world
  refine ⟨?_, ?_⟩
  · show (a.legs ++ (f a.time a.world).legs).map Leg.load =
      (b.legs ++ (f b.time b.world).legs).map Leg.load
    rw [List.map_append, List.map_append, h.loads, h.world, hnext.loads]
  · show (f a.time a.world).world = (f b.time b.world).world
    rw [h.world, hnext.world]

end Ahead

section Alike

variable {ω : Type} {post : Sender ω} {token : Option String}

theorem alike_attemptsAhead (load : Load) (left now now' : Nat) (w : ω) :
    (attemptsAhead post token load left now w).Alike
      (attemptsAhead post token load left now' w) := by
  induction left generalizing now now' w with
  | zero => exact ⟨rfl, rfl⟩
  | succ left ih =>
      unfold attemptsAhead
      dsimp only
      split
      · exact ⟨rfl, rfl⟩
      · exact (ih _ _ _).cons _ _ _ _

theorem alike_answerAhead (load : Load) (left : Nat) (outcome : Except Failure Unit)
    (time time' : Nat) (w : ω) :
    (answerAhead post token load left outcome time w).Alike
      (answerAhead post token load left outcome time' w) := by
  unfold answerAhead
  split
  · exact ⟨rfl, rfl⟩
  · exact (alike_attemptsAhead load left _ _ w).cons _ _ _ _

theorem alike_triesAhead (tries : List (Load × Nat)) (now now' : Nat) (w : ω) :
    (triesAhead post token tries now w).Alike (triesAhead post token tries now' w) := by
  induction tries generalizing now now' w with
  | nil => exact ⟨rfl, rfl⟩
  | cons t tries ih => exact (alike_attemptsAhead t.1 t.2 now now' w).andThen ih

end Alike

/-- A closed queue in the midst of its life, whose batches there is room for. -/
structure Dispatch.Closed (mode : QueueMode) (token : Option String) (d : Dispatch) : Prop where
  fits : mode.fits = true
  lives : d.Lives mode token
  alert : d.queue.Alert

namespace Clocked

variable {ω : Type} {post : Sender ω} {mode : QueueMode} {token : Option String}
  {c c' : Clocked ω}

/-! ## A run comes to its end -/

/-- How many things can still happen at most. -/
def weight (c : Clocked ω) : Nat := 2 * c.queue.work - if c.arrival.isSome then 1 else 0

theorem weight_of_none (h : c.arrival = none) : c.weight = 2 * c.queue.work := by
  rw [weight, h]
  rfl

theorem weight_of_some {a : Arrival} (h : c.arrival = some a) :
    c.weight = 2 * c.queue.work - 1 := by
  rw [weight, h]
  rfl

theorem Ticks.weight_lt (h : c.Ticks post c') (hl : c.toDispatch.Lives mode token) :
    c'.weight < c.weight := by
  have hformed := hl.queue.formed
  cases h with
  | send hw harr =>
      have hpos : 0 < c.queue.work := by
        rw [Queue.work, hw, Queue.Worker.rank]
        omega
      rw [weight_of_none harr, weight_of_some rfl]
      show 2 * c.queue.work - 1 < 2 * c.queue.work
      omega
  | @hear _ _ a hw harr =>
      have hlt := (Queue.answer_works hw a.outcome).work_lt hformed
      rw [weight_of_some harr, weight_of_none rfl]
      show 2 * (c.queue.answer a.outcome).work < 2 * c.queue.work - 1
      omega
  | @work q hq =>
      have hlt := (Queue.step_works hq).work_lt hformed
      have harr : c.arrival = none := hl.arrival_eq_none (Queue.not_posting_of_step hq)
      have harr' : ({ c with queue := q } : Clocked ω).arrival = none := harr
      rw [weight_of_none harr, weight_of_none harr']
      show 2 * q.work < 2 * c.queue.work
      omega

/-- With fuel for all that can happen a run ends where nothing happens. -/
theorem tick_ticks_eq_none {deadline : Option Nat} {steps : Nat}
    (hl : c.toDispatch.Lives mode token) (h : c.weight ≤ steps) :
    (c.ticks post deadline steps).tick post deadline = none := by
  induction steps generalizing c with
  | zero =>
      unfold ticks
      cases htick : c.tick post deadline with
      | none => rfl
      | some next =>
          -- Without fuel there is no weight that one more thing could take from.
          have hlt := (tick_ticks htick).weight_lt hl
          omega
  | succ steps ih =>
      unfold ticks
      cases htick : c.tick post deadline with
      | none => exact htick
      | some next =>
          have hticks := tick_ticks htick
          have hlt := hticks.weight_lt hl
          exact ih (hticks.lives hl) (by omega)

theorem tick_run_eq_none (post : Sender ω) (hl : c.toDispatch.Lives mode token)
    (deadline : Option Nat) : (c.run post deadline).tick post deadline = none := by
  refine tick_ticks_eq_none hl ?_
  unfold weight
  omega

/-- Nothing happens any more: the worker has left, or an answer comes after the deadline. -/
theorem gone_or_late {deadline : Option Nat} (ha : c.queue.Alert)
    (h : c.tick post deadline = none) :
    c.queue.isGone = true ∨ ∃ a t, c.arrival = some a ∧ deadline = some t ∧ t < a.time := by
  cases hg : c.queue.isGone with
  | true => exact .inl rfl
  | false =>
      right
      unfold tick at h
      split at h
      · cases h
      · next a hw harr =>
          split at h
          · cases h
          · next hwithin =>
              refine ⟨a, ?_⟩
              unfold within at hwithin
              split at hwithin
              · next t => exact ⟨t, harr, rfl, by simpa using hwithin⟩
              · exact absurd rfl hwithin
      · next hposting hother =>
          -- The worker is at no attempt, so only an empty channel could hold it up.
          rw [Option.map_eq_none_iff] at h
          rcases Queue.step_or_posting hg ha.heard with ⟨q, hq⟩ | ⟨load, failures, hw⟩
          · rw [h] at hq
            cases hq
          · cases harr : c.arrival with
            | none => exact absurd harr (hposting load failures hw)
            | some a => exact absurd harr (hother load failures a hw)

/-! ## A run goes through what lies ahead -/

/-- The attempts ahead that have not gone out. -/
def unsent (post : Sender ω) (c : Clocked ω) : List Leg :=
  if c.arrival.isSome then (c.ahead post).legs.tail else (c.ahead post).legs

/-- All attempts that will have gone out in the end. -/
def posts (post : Sender ω) (token : Option String) (c : Clocked ω) : List Attempt :=
  c.sent ++ (c.unsent post).map (Leg.attempt token)

theorem Course.posts (h : Course post token c c') : c'.posts post token = c.posts post token := by
  unfold Clocked.posts unsent
  cases h with
  | works hahead _ harr harr' hsent => rw [hahead, harr, harr', hsent]
  | sends leg rest hahead _ harr harr' hlegs hsent =>
      have hsome : c'.arrival.isSome = true := Option.isSome_iff_ne_none.2 harr'
      rw [hahead, hlegs, harr, hsome, hsent]
      simp
  | hears leg hahead _ harr harr' hsent =>
      have hsome : c.arrival.isSome = true := Option.isSome_iff_ne_none.2 harr
      rw [hahead, harr', hsome, hsent]
      rfl

section Apart

variable {q' : Queue}

/-- What lies ahead is a matter of the worker and of the reports in the channel. -/
theorem ahead_of_apart (h : c.queue.Apart q') (hq : q'.queued = c.queue.queued) :
    ({ c with queue := q' } : Clocked ω).ahead post = c.ahead post := by
  unfold ahead
  rw [show q'.agenda = c.queue.agenda from h.agenda hq, show q'.token = c.queue.token from h.token]

theorem alike_ahead (post : Sender ω) (c : Clocked ω) (now : Nat) :
    (({ c with now } : Clocked ω).ahead post).Alike (c.ahead post) := by
  unfold ahead
  dsimp only
  split
  · exact (alike_answerAhead _ _ _ _ _ _).andThen (alike_triesAhead _)
  · exact alike_triesAhead _ _ _ _

theorem posts_of_apart (h : c.queue.Apart q') (hq : q'.queued = c.queue.queued) :
    ({ c with queue := q' } : Clocked ω).posts post token = c.posts post token := by
  unfold posts unsent
  rw [ahead_of_apart h hq]
  exact congrArg (· ++ _) (Dispatch.sent_of_apart h)

/-- What goes out in the end is not a matter of time. -/
theorem posts_now (c : Clocked ω) (now : Nat) :
    ({ c with now } : Clocked ω).posts post token = c.posts post token := by
  have hattempt : ∀ legs : List Leg, legs.map (Leg.attempt token) =
      (legs.map Leg.load).map fun load => ⟨load.url, token, load.body⟩ := fun legs => by
    rw [List.map_map]
    rfl
  have hloads : (({ c with now } : Clocked ω).unsent post).map Leg.load =
      (c.unsent post).map Leg.load := by
    have halike := (alike_ahead post c now).loads
    unfold unsent
    dsimp only
    split
    · rw [List.map_tail, List.map_tail, halike]
    · exact halike
  unfold posts
  rw [hattempt, hattempt, hloads]

end Apart

/-- A part of what lay ahead has been gone through, and what lies ahead now is the rest. -/
structure Passes (post : Sender ω) (token : Option String) (heard : List Leg) (c c' : Clocked ω) :
    Prop where
  legs : (c.ahead post).legs = heard ++ (c'.ahead post).legs
  time : (c'.ahead post).time = (c.ahead post).time
  now : c.now ≤ c'.now
  heard : ∀ leg ∈ heard, leg.time ≤ c'.now
  posts : c'.posts post token = c.posts post token

theorem Passes.refl (post : Sender ω) (token : Option String) (c : Clocked ω) :
    Passes post token [] c c :=
  ⟨rfl, rfl, Nat.le_refl _, List.forall_mem_nil _, rfl⟩

theorem Passes.trans {c'' : Clocked ω} {heard heard' : List Leg}
    (h : Passes post token heard c c') (h' : Passes post token heard' c' c'') :
    Passes post token (heard ++ heard') c c'' where
  legs := by rw [h.legs, h'.legs, List.append_assoc]
  time := h'.time.trans h.time
  now := Nat.le_trans h.now h'.now
  heard := List.forall_mem_append.2
    ⟨fun leg hm => Nat.le_trans (h.heard leg hm) h'.now, h'.heard⟩
  posts := h'.posts.trans h.posts

theorem Course.passes (h : Course post token c c') (hnow : c.now ≤ c'.now) :
    ∃ heard, Passes post token heard c c' := by
  have hposts := h.posts
  cases h with
  | works hahead _ _ _ _ =>
      exact ⟨[], by rw [hahead]; rfl, by rw [hahead], hnow, List.forall_mem_nil _, hposts⟩
  | sends leg rest hahead _ _ _ _ _ =>
      exact ⟨[], by rw [hahead]; rfl, by rw [hahead], hnow, List.forall_mem_nil _, hposts⟩
  | hears leg hahead htime _ _ _ =>
      refine ⟨[leg], by rw [hahead]; rfl, by rw [hahead]; rfl, hnow, ?_, hposts⟩
      exact List.forall_mem_singleton.2 (Nat.le_of_eq htime.symm)

theorem tick_now {deadline : Option Nat} (h : c.tick post deadline = some c') :
    c.now ≤ c'.now ∧ ∀ t, deadline = some t → c.now ≤ t → c'.now ≤ t := by
  unfold tick at h
  split at h
  · cases h
    exact ⟨Nat.le_refl _, fun t _ hle => hle⟩
  · split at h
    · next hwithin =>
        cases h
        refine ⟨Nat.le_max_left _ _, fun t ht hle => Nat.max_le.2 ⟨hle, ?_⟩⟩
        rw [ht] at hwithin
        simpa [within] using hwithin
    · cases h
  · obtain ⟨q, -, rfl⟩ := Option.map_eq_some_iff.1 h
    exact ⟨Nat.le_refl _, fun t _ hle => hle⟩

/-- No run goes past its deadline. -/
theorem now_ticks_le {t steps : Nat} (h : c.now ≤ t) : (c.ticks post (some t) steps).now ≤ t := by
  induction steps generalizing c with
  | zero => exact h
  | succ steps ih =>
      unfold ticks
      cases htick : c.tick post (some t) with
      | none => exact h
      | some next => exact ih ((tick_now htick).2 t rfl h)

theorem Ticks.accepted (h : c.Ticks post c') : c'.queue.accepted = c.queue.accepted :=
  (Goes.refl.tick h).calls.2

theorem Ticks.closed (h : c.Ticks post c') (hc : c.toDispatch.Closed mode token) :
    c'.toDispatch.Closed mode token := by
  refine ⟨hc.fits, h.lives hc.lives, ?_⟩
  rcases h.works with he | hw
  · rw [he]
    exact hc.alert
  · exact hw.alert hc.lives.queue.kept hc.alert

/-- What a run comes to, however far it gets. -/
structure Advances (post : Sender ω) (mode : QueueMode) (token : Option String)
    (c c' : Clocked ω) : Prop where
  passes : ∃ heard, Passes post token heard c c'
  closed : c'.toDispatch.Closed mode token
  accepted : c'.queue.accepted = c.queue.accepted

theorem advances_ticks {deadline : Option Nat} {steps : Nat}
    (hc : c.toDispatch.Closed mode token) :
    Advances post mode token c (c.ticks post deadline steps) := by
  induction steps generalizing c with
  | zero => exact ⟨⟨[], .refl post token c⟩, hc, rfl⟩
  | succ steps ih =>
      unfold ticks
      cases htick : c.tick post deadline with
      | none => exact ⟨⟨[], .refl post token c⟩, hc, rfl⟩
      | some next =>
          have hticks := tick_ticks htick
          obtain ⟨heard, hpasses⟩ := (hticks.course hc.lives hc.fits).passes (tick_now htick).1
          obtain ⟨⟨heard', hpasses'⟩, hclosed, haccepted⟩ := ih (hticks.closed hc)
          exact ⟨⟨heard ++ heard', hpasses.trans hpasses'⟩, hclosed,
            haccepted.trans hticks.accepted⟩

theorem advances_run (post : Sender ω) (hc : c.toDispatch.Closed mode token)
    (deadline : Option Nat) : Advances post mode token c (c.run post deadline) := advances_ticks hc

/-! ## Reports and what lies ahead -/

theorem flatMap_legs (hl : c.toDispatch.Lives mode token) :
    (c.ahead post).legs.flatMap Leg.reports = c.queue.held ++ c.queue.queued :=
  flatMap_ahead hl.queue.formed hl.answered

theorem accepted_eq (post : Sender ω) (hl : c.toDispatch.Lives mode token)
    (hfits : mode.fits = true) :
    c.queue.accepted = c.queue.finished ++ (c.ahead post).legs.flatMap Leg.reports := by
  rw [flatMap_legs hl, ← List.append_assoc]
  exact (hl.queue.accounts hfits).order

theorem pending_eq (post : Sender ω) (hl : c.toDispatch.Lives mode token)
    (hfits : mode.fits = true) :
    c.queue.pending = ((c.ahead post).legs.flatMap Leg.reports).length := by
  rw [flatMap_legs hl, List.length_append]
  exact (hl.queue.accounts hfits).count

/-- Where nothing is pending nothing lies ahead. -/
theorem ahead_of_pending_eq_zero (hl : c.toDispatch.Lives mode token) (hfits : mode.fits = true)
    (hp : c.queue.pending = 0) : c.ahead post = .nothing c.now c.world := by
  obtain ⟨hheld, hqueued⟩ := (hl.queue.accounts hfits).eq_nil hp
  have hagenda : c.queue.agenda = [] :=
    Queue.agenda_eq_nil hl.queue.formed (by rw [hheld, hqueued]; rfl)
  have harr : c.arrival = none := hl.arrival_eq_none fun load failures hw => by
    rw [Queue.agenda, hw] at hagenda
    cases hagenda
  rw [ahead_of_none harr, hagenda]
  rfl

/-- As long as the worker needs some more time, some report is pending. -/
theorem pending_pos (post : Sender ω) (hl : c.toDispatch.Lives mode token)
    (hfits : mode.fits = true) (h : c.now < (c.ahead post).time) : 0 < c.queue.pending := by
  refine Nat.pos_of_ne_zero fun hp => ?_
  rw [ahead_of_pending_eq_zero hl hfits hp] at h
  exact Nat.lt_irrefl _ h

/-! ## Where a run ends -/

/-- The worker has delivered everything, and was done when the list says. -/
structure Drained (post : Sender ω) (token : Option String) (c c' : Clocked ω) : Prop where
  gone : c'.queue.isGone = true
  now : c'.now = (c.ahead post).time
  sent : c'.sent = c.posts post token
  finished : c'.queue.finished = c.queue.accepted
  pending : c'.queue.pending = 0

theorem drained_run {deadline : Option Nat} (hc : c.toDispatch.Closed mode token)
    (hg : (c.run post deadline).queue.isGone = true) :
    Drained post token c (c.run post deadline) := by
  obtain ⟨⟨heard, hpasses⟩, hclosed, haccepted⟩ := advances_run post hc deadline
  have hp : (c.run post deadline).queue.pending = 0 :=
    (hclosed.lives.queue.closed_of_gone hclosed.fits hg).2
  have hahead : (c.run post deadline).ahead post = .nothing _ _ :=
    ahead_of_pending_eq_zero hclosed.lives hclosed.fits hp
  have hunsent : (c.run post deadline).unsent post = [] := by
    unfold unsent
    rw [hahead]
    split <;> rfl
  refine ⟨hg, ?_, ?_, ?_, hp⟩
  · rw [← hpasses.time, hahead]
    rfl
  · rw [← hpasses.posts, Clocked.posts, hunsent, List.map_nil, List.append_nil]
  · rw [← haccepted]
    exact hclosed.lives.queue.finished_eq_accepted hclosed.fits hg

/-- Without a deadline the worker gets done. -/
theorem drained_run_none (post : Sender ω) (hc : c.toDispatch.Closed mode token) :
    Drained post token c (c.run post none) := by
  have hend := gone_or_late (advances_run post hc none).closed.alert
    (tick_run_eq_none post hc.lives none)
  refine drained_run hc ?_
  rcases hend with hg | ⟨_, _, -, hnone, -⟩
  · exact hg
  · cases hnone

/-- Of what lay ahead this has been heard of and that has not, and the reports of the latter are
pending. -/
structure Halfway (post : Sender ω) (heard left : List Leg) (c c' : Clocked ω) : Prop where
  legs : (c.ahead post).legs = heard ++ left
  finished : c'.queue.finished = c.queue.finished ++ heard.flatMap Leg.reports
  unfinished : c'.queue.accepted = c'.queue.finished ++ left.flatMap Leg.reports
  pending : c'.queue.pending = (left.flatMap Leg.reports).length

theorem Passes.halfway {heard : List Leg} (h : Passes post token heard c c')
    (hl : c.toDispatch.Lives mode token) (hl' : c'.toDispatch.Lives mode token)
    (hfits : mode.fits = true) (hacc : c'.queue.accepted = c.queue.accepted) :
    Halfway post heard (c'.ahead post).legs c c' := by
  have hall := accepted_eq post hl' hfits
  refine ⟨h.legs, ?_, hall, pending_eq post hl' hfits⟩
  rw [hacc, accepted_eq post hl hfits, h.legs, List.flatMap_append, ← List.append_assoc] at hall
  exact (List.append_cancel_right hall).symm

/-- A run that ends too early has gone through what is not after its deadline. -/
theorem halfway_run {t : Nat} (hc : c.toDispatch.Closed mode token) (ht : c.now ≤ t)
    (hg : (c.run post (some t)).queue.isGone = false) :
    t < (c.ahead post).time ∧ t < ((c.run post (some t)).ahead post).time ∧
    ∃ heard left, Halfway post heard left c (c.run post (some t)) ∧
      (∀ leg ∈ heard, leg.time ≤ t) ∧ ∀ leg ∈ left, t < leg.time := by
  obtain ⟨⟨heard, hpasses⟩, hclosed, haccepted⟩ := advances_run post hc (some t)
  have hlate := gone_or_late hclosed.alert (tick_run_eq_none post hc.lives (some t))
  rw [hg] at hlate
  obtain hn | ⟨a, t', harr, ht', hlt⟩ := hlate
  · cases hn
  · cases ht'
    have hfrom : ((c.run post (some t)).ahead post).From a.time :=
      from_ahead_of_some hclosed.lives harr
    have htime := Nat.lt_of_lt_of_le hlt hfrom.time
    refine ⟨hpasses.time ▸ htime, htime, heard, _,
      hpasses.halfway hc.lives hclosed.lives hc.fits haccepted, fun leg hm => ?_, fun leg hm => ?_⟩
    · exact Nat.le_trans (hpasses.heard leg hm) (now_ticks_le ht)
    · exact Nat.lt_of_lt_of_le hlt (hfrom.legs leg hm)

end Clocked
end Courier
