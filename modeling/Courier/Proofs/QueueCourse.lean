import Courier.Proofs.QueueLife
import Mathlib

/-!
# What lies ahead of a worker

What a worker has before it once no more reports come can be told without the worker. The
reports in the channel fall into loads, by the mode of the queue; each load is tried until an
attempt at it succeeds or the last one fails; and when an attempt is over depends on nothing but
when it went out and on what is posted to. So the attempts that are still to be heard of stand in
a list, each with its time, and the time of the last one is when the worker will be done.

The list is a matter of the queue at one moment. That it is also what happens is one look at each
thing that happens to a queue at work: hearing of an attempt takes the first one off the list,
and nothing else changes the list at all. In particular it makes no difference to it how the
reports came to stand in the channel, where the wake-ups lie between them, and whether somebody
waits.
-/

namespace Courier

/-- An attempt that is still to be heard of. -/
structure Leg where
  load : Load
  /-- When it is heard of. -/
  time : Nat
  /-- The delivery is over with it. -/
  closes : Bool

namespace Leg

/-- The reports that a delivery is over for. -/
def reports (leg : Leg) : List Parcel := if leg.closes then leg.load.parcels else []

/-- The attempt that is heard of. -/
def attempt (token : Option String) (leg : Leg) : Attempt := ⟨leg.load.url, token, leg.load.body⟩

end Leg

/-- What lies ahead: the attempts, when the last of them is over, and what has become of the
world by then. -/
structure Ahead (ω : Type) where
  legs : List Leg
  time : Nat
  world : ω

namespace Ahead

variable {ω : Type}

/-- Nothing lies ahead. -/
def nothing (now : Nat) (w : ω) : Ahead ω := ⟨[], now, w⟩

/-- One leg more in front of what lies ahead. -/
def cons (leg : Leg) (a : Ahead ω) : Ahead ω := { a with legs := leg :: a.legs }

/-- First this, and then what comes of going on from its end. -/
def andThen (a : Ahead ω) (f : Nat → ω → Ahead ω) : Ahead ω :=
  { f a.time a.world with legs := a.legs ++ (f a.time a.world).legs }

theorem cons_andThen (leg : Leg) (a : Ahead ω) (f : Nat → ω → Ahead ω) :
    (a.cons leg).andThen f = (a.andThen f).cons leg := rfl

end Ahead

/-! ## Loads -/

namespace QueueMode

/-- The batches that come of these reports, when the first holds what is taken already. -/
def fill (url : Url) (limit : Nat) (taken : List Parcel) : List Parcel → List Load
  | [] => [Queue.batchLoad url taken]
  | p :: ps =>
      if taken.length < limit then fill url limit (taken ++ [p]) ps
      else Queue.batchLoad url taken :: fill url limit [p] ps

/-- The loads that these reports fall into. -/
def loads (mode : QueueMode) (ps : List Parcel) : List Load :=
  match mode, ps with
  | .single, ps => ps.map fun p => ⟨p.url, p.body, [p]⟩
  | .batch _ _, [] => []
  | .batch url limit, p :: ps => fill url limit [p] ps

theorem flatMap_fill (url : Url) (limit : Nat) (taken ps : List Parcel) :
    (fill url limit taken ps).flatMap Load.parcels = taken ++ ps := by
  induction ps generalizing taken with
  | nil => simp [fill, Queue.batchLoad]
  | cons p ps ih =>
      unfold fill
      split
      · rw [ih]
        simp
      · rw [List.flatMap_cons, ih]
        rfl

theorem flatMap_loads (mode : QueueMode) (ps : List Parcel) :
    (mode.loads ps).flatMap Load.parcels = ps := by
  unfold loads
  split
  · simp [List.flatMap_map]
  · rfl
  · exact flatMap_fill _ _ _ _

/-- A batch that is full, or that nothing follows, is followed by the batches of the rest. -/
theorem fill_eq {url : Url} {limit : Nat} {taken ps : List Parcel}
    (h : limit ≤ taken.length ∨ ps = []) :
    fill url limit taken ps = Queue.batchLoad url taken :: (batch url limit).loads ps := by
  cases ps with
  | nil => rfl
  | cons p ps =>
      rcases h with h | h
      · rw [fill, if_neg (Nat.not_lt.2 h)]
        rfl
      · cases h

end QueueMode

/-! ## Attempts -/

section Attempts

variable {ω : Type} (post : Sender ω) (token : Option String)

/-- The attempts at a load that can be tried so many times more. -/
def attemptsAhead (load : Load) : Nat → Nat → ω → Ahead ω
  | 0, now, w => .nothing now w
  | left + 1, now, w =>
      let answer := post ⟨load.url, token, load.body⟩ w
      let time := now + answer.1.delay
      if answer.1.outcome.isOk || left == 0 then
        (Ahead.nothing time answer.2).cons ⟨load, time, true⟩
      else (attemptsAhead load left time answer.2).cons ⟨load, time, false⟩

/-- What follows when an answer is heard at this time and so many attempts are left. -/
def answerAhead (load : Load) (left : Nat) (outcome : Except Failure Unit) (time : Nat) (w : ω) :
    Ahead ω :=
  if outcome.isOk || left == 0 then (Ahead.nothing time w).cons ⟨load, time, true⟩
  else (attemptsAhead post token load left time w).cons ⟨load, time, false⟩

/-- The attempts at these loads, each of which can be tried so many times. -/
def triesAhead : List (Load × Nat) → Nat → ω → Ahead ω
  | [], now, w => .nothing now w
  | (load, left) :: rest, now, w =>
      (attemptsAhead post token load left now w).andThen (triesAhead rest)

theorem attemptsAhead_succ (load : Load) (left now : Nat) (w : ω) :
    attemptsAhead post token load (left + 1) now w =
      answerAhead post token load left (post ⟨load.url, token, load.body⟩ w).1.outcome
        (now + (post ⟨load.url, token, load.body⟩ w).1.delay)
        (post ⟨load.url, token, load.body⟩ w).2 := rfl

end Attempts

/-! ## What lies ahead -/

namespace Queue

/-- Loads that have not been tried yet. -/
def fresh (loads : List Load) : List (Load × Nat) := loads.map fun load => (load, maxAttempts)

/-- The loads that are not delivered, and how often each can be tried. -/
def agenda (q : Queue) : List (Load × Nat) :=
  match q.worker, q.mode with
  | .posting load failures, mode =>
      (load, maxAttempts - failures) :: fresh (mode.loads q.queued)
  | .collecting taken, .batch url limit => fresh (QueueMode.fill url limit taken q.queued)
  | _, mode => fresh (mode.loads q.queued)

end Queue

namespace Clocked

variable {ω : Type} (post : Sender ω) (c : Clocked ω)

/-- What lies ahead if nothing more is submitted. One attempt may be under way already. -/
def ahead : Ahead ω :=
  match c.arrival, c.queue.agenda with
  | some a, (load, left) :: rest =>
      (answerAhead post c.queue.token load (left - 1) a.outcome (max c.now a.time) c.world).andThen
        (triesAhead post c.queue.token rest)
  | _, agenda => triesAhead post c.queue.token agenda c.now c.world

/-- How long it takes until the worker has nothing more to deliver. -/
def remaining : Nat := (c.ahead post).time - c.now

end Clocked

/-! ## Every report has its delivery ahead -/

section Reports

variable {ω : Type} {post : Sender ω} {token : Option String}

theorem flatMap_answerAhead (load : Load) (left : Nat) (outcome : Except Failure Unit)
    (time : Nat) (w : ω)
    (h : left ≠ 0 → (attemptsAhead post token load left time w).legs.flatMap Leg.reports =
      load.parcels) :
    (answerAhead post token load left outcome time w).legs.flatMap Leg.reports = load.parcels := by
  unfold answerAhead
  split
  · simp [Ahead.cons, Ahead.nothing, Leg.reports]
  · next hopen =>
      have hleft : left ≠ 0 := by
        rintro rfl
        simp at hopen
      simpa [Ahead.cons, Leg.reports] using h hleft

theorem flatMap_attemptsAhead (load : Load) (left now : Nat) (w : ω) :
    (attemptsAhead post token load (left + 1) now w).legs.flatMap Leg.reports = load.parcels := by
  induction left generalizing now w with
  | zero =>
      rw [attemptsAhead_succ]
      exact flatMap_answerAhead load 0 _ _ _ fun h => absurd rfl h
  | succ left ih =>
      rw [attemptsAhead_succ]
      exact flatMap_answerAhead load (left + 1) _ _ _ fun _ => ih _ _

theorem flatMap_triesAhead {tries : List (Load × Nat)} (h : ∀ t ∈ tries, t.2 ≠ 0) (now : Nat)
    (w : ω) :
    (triesAhead post token tries now w).legs.flatMap Leg.reports =
      tries.flatMap fun t => t.1.parcels := by
  induction tries generalizing now w with
  | nil => rfl
  | cons t tries ih =>
      obtain ⟨load, left⟩ := t
      obtain ⟨hleft, htries⟩ := List.forall_mem_cons.1 h
      obtain ⟨left, rfl⟩ : ∃ n, left = n + 1 := Nat.exists_eq_succ_of_ne_zero hleft
      show (_ ++ _ : List Leg).flatMap Leg.reports = _
      rw [List.flatMap_append, flatMap_attemptsAhead, ih htries, List.flatMap_cons]

end Reports

namespace Queue

variable {q : Queue}

theorem flatMap_fresh (loads : List Load) :
    ((fresh loads).flatMap fun t => t.1.parcels) = loads.flatMap Load.parcels := by
  simp [fresh, List.flatMap_map]

theorem ne_zero_of_mem_fresh {loads : List Load} {t : Load × Nat} (h : t ∈ fresh loads) :
    t.2 ≠ 0 := by
  obtain ⟨load, -, rfl⟩ := List.mem_map.1 h
  exact Nat.succ_ne_zero 3

theorem flatMap_agenda (hf : q.Formed) :
    (q.agenda.flatMap fun t => t.1.parcels) = q.held ++ q.queued := by
  have hw := hf.worker
  unfold agenda held
  cases hq : q.worker with
  | posting load failures =>
      dsimp only
      rw [List.flatMap_cons, flatMap_fresh, QueueMode.flatMap_loads]
  | collecting taken =>
      rw [hq] at hw
      obtain ⟨url, limit, hmode, -⟩ := hw
      rw [hmode]
      dsimp only
      rw [flatMap_fresh, QueueMode.flatMap_fill]
  | deciding | waiting | finished | broken =>
      dsimp only
      rw [flatMap_fresh, QueueMode.flatMap_loads, List.nil_append]

theorem ne_zero_of_mem_agenda (hf : q.Formed) {t : Load × Nat} (h : t ∈ q.agenda) : t.2 ≠ 0 := by
  have hw := hf.worker
  unfold agenda at h
  split at h
  · next load failures hq =>
      rw [hq] at hw
      rcases List.mem_cons.1 h with rfl | h
      · have hlt := hw.2
        show maxAttempts - failures ≠ 0
        omega
      · exact ne_zero_of_mem_fresh h
  · exact ne_zero_of_mem_fresh h
  · exact ne_zero_of_mem_fresh h

end Queue

namespace Clocked

variable {ω : Type} {post : Sender ω} {c : Clocked ω}

theorem ahead_of_none (h : c.arrival = none) :
    c.ahead post = triesAhead post c.queue.token c.queue.agenda c.now c.world := by
  unfold ahead
  rw [h]

theorem ahead_of_some {a : Arrival} {load : Load} {failures : Nat} (h : c.arrival = some a)
    (hw : c.queue.worker = .posting load failures) :
    c.ahead post =
      (answerAhead post c.queue.token load (Queue.maxAttempts - failures - 1) a.outcome
        (max c.now a.time) c.world).andThen
      (triesAhead post c.queue.token (Queue.fresh (c.queue.mode.loads c.queue.queued))) := by
  unfold ahead Queue.agenda
  rw [h, hw]

/-- The deliveries ahead are of the reports that are held and those in the channel. -/
theorem flatMap_ahead (hl : c.queue.Formed)
    (ha : c.arrival ≠ none → ∃ load failures, c.queue.worker = .posting load failures) :
    (c.ahead post).legs.flatMap Leg.reports = c.queue.held ++ c.queue.queued := by
  cases harr : c.arrival with
  | none =>
      rw [ahead_of_none harr, flatMap_triesAhead fun t => Queue.ne_zero_of_mem_agenda hl,
        Queue.flatMap_agenda hl]
  | some a =>
      obtain ⟨load, failures, hw⟩ := ha (by rw [harr]; exact nofun)
      rw [ahead_of_some harr hw]
      show (_ ++ _ : List Leg).flatMap Leg.reports = _
      rw [List.flatMap_append, flatMap_triesAhead fun t => Queue.ne_zero_of_mem_fresh,
        Queue.flatMap_fresh, QueueMode.flatMap_loads, Queue.held, hw]
      refine congrArg (· ++ c.queue.queued) (flatMap_answerAhead load _ _ _ _ fun hleft => ?_)
      obtain ⟨left, hn⟩ := Nat.exists_eq_succ_of_ne_zero hleft
      rw [hn]
      exact flatMap_attemptsAhead load left _ _

end Clocked

/-! ## Time goes on from attempt to attempt -/

/-- Nothing of this is before this time, and all of it is over when it says. -/
structure Ahead.From {ω : Type} (now : Nat) (a : Ahead ω) : Prop where
  time : now ≤ a.time
  legs : ∀ leg ∈ a.legs, now ≤ leg.time

namespace Ahead

variable {ω : Type} {now now' : Nat} {a : Ahead ω}

theorem from_nothing (w : ω) (h : now ≤ now') : (nothing now' w).From now :=
  ⟨h, List.forall_mem_nil _⟩

theorem From.mono (ha : a.From now') (h : now ≤ now') : a.From now :=
  ⟨Nat.le_trans h ha.time, fun leg hm => Nat.le_trans h (ha.legs leg hm)⟩

theorem From.cons (ha : a.From now) {leg : Leg} (h : now ≤ leg.time) : (a.cons leg).From now :=
  ⟨ha.time, List.forall_mem_cons.2 ⟨h, ha.legs⟩⟩

theorem From.andThen (ha : a.From now) {f : Nat → ω → Ahead ω}
    (hf : ∀ time w, (f time w).From time) : (a.andThen f).From now := by
  have hnext := (hf a.time a.world).mono ha.time
  exact ⟨hnext.time, List.forall_mem_append.2 ⟨ha.legs, hnext.legs⟩⟩

end Ahead

section Times

variable {ω : Type} {post : Sender ω} {token : Option String}

theorem from_attemptsAhead (load : Load) (left now : Nat) (w : ω) :
    (attemptsAhead post token load left now w).From now := by
  induction left generalizing now w with
  | zero => exact Ahead.from_nothing w (Nat.le_refl now)
  | succ left ih =>
      unfold attemptsAhead
      have hle : now ≤ now + (post ⟨load.url, token, load.body⟩ w).1.delay := Nat.le_add_right _ _
      dsimp only
      split
      · exact (Ahead.from_nothing _ hle).cons hle
      · exact ((ih _ _).mono hle).cons hle

theorem from_answerAhead (load : Load) (left : Nat) (outcome : Except Failure Unit) (time : Nat)
    (w : ω) : (answerAhead post token load left outcome time w).From time := by
  unfold answerAhead
  split
  · exact (Ahead.from_nothing w (Nat.le_refl time)).cons (Nat.le_refl time)
  · exact (from_attemptsAhead load left time w).cons (Nat.le_refl time)

theorem from_triesAhead (tries : List (Load × Nat)) (now : Nat) (w : ω) :
    (triesAhead post token tries now w).From now := by
  induction tries generalizing now w with
  | nil => exact Ahead.from_nothing w (Nat.le_refl now)
  | cons t tries ih => exact (from_attemptsAhead t.1 t.2 now w).andThen ih

end Times

namespace Clocked

variable {ω : Type} {post : Sender ω} {c c' : Clocked ω} {mode : QueueMode}
  {token : Option String}

theorem from_ahead (hl : c.toDispatch.Lives mode token) : (c.ahead post).From c.now := by
  cases harr : c.arrival with
  | none =>
      rw [ahead_of_none harr]
      exact from_triesAhead _ _ _
  | some a =>
      obtain ⟨load, failures, hw⟩ := hl.answered (by rw [harr]; exact nofun)
      rw [ahead_of_some harr hw]
      exact ((from_answerAhead load _ _ _ _).andThen (from_triesAhead _)).mono (Nat.le_max_left _ _)

/-- While an answer is on its way nothing is heard before it. -/
theorem from_ahead_of_some {a : Arrival} (hl : c.toDispatch.Lives mode token)
    (harr : c.arrival = some a) : (c.ahead post).From a.time := by
  obtain ⟨load, failures, hw⟩ := hl.answered (by rw [harr]; exact nofun)
  rw [ahead_of_some harr hw]
  exact ((from_answerAhead load _ _ _ _).andThen (from_triesAhead _)).mono (Nat.le_max_right _ _)

end Clocked

/-! ## The list is gone through -/

namespace Queue

variable {q q' : Queue}

/-- What is done between two attempts changes nothing about what is to be delivered. -/
theorem Works.agenda (h : Works q q') (hfits : q.mode.fits = true)
    (hw : ∀ load failures, q.worker ≠ .posting load failures) : q'.agenda = q.agenda := by
  cases h with
  | leave e hd | wait hd => simp [agenda, hd, note, record, queued]
  | rouse hd hc => simp [agenda, hd, hc, queued, List.filterMap_cons]
  | single hd hc hm =>
      simp [agenda, hd, hc, hm, queued, attempt, record, QueueMode.loads, fresh]
  | begin hd hc hm => simp [agenda, hd, hc, hm, queued, QueueMode.loads]
  | breakDown _ _ hbreaks =>
      rw [hfits] at hbreaks
      cases hbreaks
  | gather hd hm hlt hc => simp [agenda, hd, hc, hm, queued, QueueMode.fill, hlt]
  | skip hd hm hc => simp [agenda, hd, hc, hm, queued, List.filterMap_cons]
  | @dispatch taken url limit hd hm hor =>
      have hqueued : limit ≤ taken.length ∨ q.queued = [] := by
        refine hor.imp id fun hc => ?_
        rw [queued, hc]
        rfl
      simp only [agenda, hd, hm, QueueMode.fill_eq hqueued]
      simp [attemptBatch, attempt, note, record, queued, hm, fresh]
  | stall => rfl
  | succeed hd | retry _ _ hd | giveUp _ _ hd => exact absurd hd (hw _ _)

end Queue

namespace Clocked

variable {ω : Type} {post : Sender ω} {c c' : Clocked ω} {mode : QueueMode}
  {token : Option String}

/-- What one thing that happens does to what lies ahead, and which attempt goes out with it. -/
inductive Course (post : Sender ω) (token : Option String) (c c' : Clocked ω) : Prop where
  | works : c'.ahead post = c.ahead post → c'.now = c.now → c.arrival = none → c'.arrival = none →
      c'.sent = c.sent → Course post token c c'
  | sends (leg : Leg) (rest : List Leg) : c'.ahead post = c.ahead post → c'.now = c.now →
      c.arrival = none → c'.arrival ≠ none → (c.ahead post).legs = leg :: rest →
      c'.sent = c.sent ++ [leg.attempt token] → Course post token c c'
  | hears (leg : Leg) : c.ahead post = (c'.ahead post).cons leg → c'.now = leg.time →
      c.arrival ≠ none → c'.arrival = none → c'.sent = c.sent → Course post token c c'

theorem answerAhead_eq_cons (post : Sender ω) (token : Option String) (load : Load) (left : Nat)
    (outcome : Except Failure Unit) (time : Nat) (w : ω) :
    ∃ closes, ∃ a : Ahead ω,
      answerAhead post token load left outcome time w = a.cons ⟨load, time, closes⟩ := by
  unfold answerAhead
  split
  · exact ⟨true, _, rfl⟩
  · exact ⟨false, _, rfl⟩

/-- The queue when an attempt has gone out. -/
def goOut (post : Sender ω) (a : Attempt) (c : Clocked ω) : Clocked ω :=
  { c with
    world := (post a c.world).2
    arrival := some ⟨c.now + (post a c.world).1.delay, (post a c.world).1.outcome⟩ }

/-- An attempt that goes out is the first of those ahead, and what is ahead stays the same. -/
theorem course_send {load : Load} {failures : Nat} (hl : c.toDispatch.Lives mode token)
    (hw : c.queue.worker = .posting load failures) (harr : c.arrival = none) :
    Course post token c (c.goOut post ⟨load.url, c.queue.token, load.body⟩) := by
  generalize hout : (⟨load.url, c.queue.token, load.body⟩ : Attempt) = out
  have harr' : (c.goOut post out).arrival =
      some ⟨c.now + (post out c.world).1.delay, (post out c.world).1.outcome⟩ := rfl
  have hw' : (c.goOut post out).queue.worker = .posting load failures := hw
  obtain ⟨-, hlt⟩ : c.queue.mode.Carries load ∧ failures < Queue.maxAttempts := by
    have hformed := hl.queue.formed.worker
    rw [hw] at hformed
    exact hformed
  obtain ⟨left, hleft⟩ : ∃ left, Queue.maxAttempts - failures = left + 1 :=
    ⟨Queue.maxAttempts - failures - 1, by omega⟩
  -- What was to be tried next is under way now, and will be heard of at the same time.
  have hahead : (c.goOut post out).ahead post = c.ahead post := by
    rw [ahead_of_none harr, ahead_of_some harr' hw', Queue.agenda, hw]
    dsimp only
    have hmax : max (c.goOut post out).now (c.now + (post out c.world).1.delay) =
        c.now + (post out c.world).1.delay := Nat.max_eq_right (Nat.le_add_right _ _)
    rw [triesAhead, hleft, attemptsAhead_succ, Nat.add_sub_cancel, hout, hmax]
    rfl
  obtain ⟨closes, a, hcons⟩ := answerAhead_eq_cons post c.queue.token load
    (Queue.maxAttempts - failures - 1) (post out c.world).1.outcome
    (max c.now (c.now + (post out c.world).1.delay)) (post out c.world).2
  have hlegs : (c.goOut post out).ahead post =
      (answerAhead post c.queue.token load (Queue.maxAttempts - failures - 1)
        (post out c.world).1.outcome (max c.now (c.now + (post out c.world).1.delay))
        (post out c.world).2).andThen _ := ahead_of_some harr' hw'
  rw [hcons, Ahead.cons_andThen, hahead] at hlegs
  refine .sends _ _ hahead rfl harr nofun (congrArg Ahead.legs hlegs) ?_
  rw [Dispatch.sent_of_arrival harr', Dispatch.sent_of_posting hw harr, Leg.attempt,
    ← hl.queue.frame.2]
  exact hl.attempts_eq hw

/-- An answer that is heard takes the first attempt off those ahead. -/
theorem course_hear {load : Load} {failures : Nat} {a : Arrival}
    (hw : c.queue.worker = .posting load failures) (harr : c.arrival = some a) :
    Course post token c
      { c with now := max c.now a.time, queue := c.queue.answer a.outcome, arrival := none } := by
  have hsent : Dispatch.sent ⟨c.queue.answer a.outcome, none⟩ = c.sent := by
    rw [Dispatch.sent_of_works (Queue.answer_works hw _), Dispatch.sent_of_arrival harr]
  have hahead : c.ahead post = _ := ahead_of_some harr hw
  have hsome : c.arrival ≠ none := by
    rw [harr]
    exact nofun
  have hclosed : ∀ q : Queue, q.worker = .deciding → q.mode = c.queue.mode →
      q.queued = c.queue.queued → q.agenda = Queue.fresh (c.queue.mode.loads c.queue.queued) := by
    intro q hdeciding hmode hqueued
    rw [Queue.agenda, hdeciding, hmode, hqueued]
  rcases Queue.answer_cases hw a.outcome with
    ⟨hok, he⟩ | ⟨hok, hlt, e, e', he⟩ | ⟨hok, hle, e, e', he⟩
  · refine .hears ⟨load, max c.now a.time, true⟩ ?_ rfl hsome rfl hsent
    rw [hahead, answerAhead, hok, Bool.true_or, if_pos rfl, ahead_of_none rfl, he]
    rw [hclosed (c.queue.settle load true) rfl rfl rfl]
    rfl
  · have hleft : (Queue.maxAttempts - failures - 1 == 0) = false := by
      rw [beq_eq_false_iff_ne]
      omega
    refine .hears ⟨load, max c.now a.time, false⟩ ?_ rfl hsome rfl hsent
    rw [hahead, answerAhead, hok, hleft, Bool.false_or, if_neg Bool.false_ne_true,
      ahead_of_none rfl, he, Nat.sub_sub]
    rfl
  · have hleft : (Queue.maxAttempts - failures - 1 == 0) = true := by
      rw [beq_iff_eq]
      omega
    refine .hears ⟨load, max c.now a.time, true⟩ ?_ rfl hsome rfl hsent
    rw [hahead, answerAhead, hok, hleft, Bool.or_true, if_pos rfl, ahead_of_none rfl, he]
    rw [hclosed (((c.queue.note e).note e').settle load false) rfl rfl rfl]
    rfl

theorem Ticks.course (h : c.Ticks post c') (hl : c.toDispatch.Lives mode token)
    (hfits : mode.fits = true) : Course post token c c' := by
  cases h with
  | send hw harr => exact course_send hl hw harr
  | hear hw harr => exact course_hear hw harr
  | @work q hq =>
      have hposting := Queue.not_posting_of_step hq
      have harr : c.arrival = none := hl.arrival_eq_none hposting
      have hworks := Queue.step_works hq
      have hagenda : q.agenda = c.queue.agenda :=
        hworks.agenda (by rw [hl.queue.frame.1]; exact hfits) hposting
      refine .works ?_ rfl harr harr ?_
      · have harr' : ({ c with queue := q } : Clocked ω).arrival = none := harr
        rw [ahead_of_none harr, ahead_of_none harr']
        show triesAhead post q.token q.agenda c.now c.world = _
        rw [hagenda, hworks.frame.2.1]
      · show Dispatch.sent ⟨q, c.arrival⟩ = _
        rw [harr, Dispatch.sent_of_works hworks, Dispatch.sent_of_not_posting hposting]

end Clocked

end Courier
