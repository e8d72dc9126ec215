import Courier.Queue.Basic

/-!
# Runs of a report queue

The caller makes one call at a time, the worker goes its own way, and either may
be overtaken by the other between any two things it does to what they share. So a
call is not one step here: a submit looks whether the queue is running, counts its
report and then sends it, and a stop closes the queue and then wakes the worker.
The wait at the end of a stop has no step of its own. It is bounded, so the caller
may be back from it at any moment, and nothing it does in the meantime reaches the
worker.

The worker side is taken apart once. `Works` lists everything that one step of the
worker, or one answer to it, can do to a queue, with the guard it is done under;
every invariant after this is a case analysis of that list and of the seven steps a
run is made of.
-/

namespace Courier

namespace Slot

/-- The report in a slot, if there is one. -/
def parcel? : Slot → Option Parcel
  | .parcel p => some p
  | .wake => none

@[simp] theorem parcel?_parcel (p : Parcel) : (Slot.parcel p).parcel? = some p := rfl

@[simp] theorem parcel?_wake : Slot.wake.parcel? = none := rfl

end Slot

namespace QueueMode

/-- There is room for the batches of a queue; single reports need none. -/
def fits : QueueMode → Bool
  | .single => true
  | .batch _ limit => hasRoom limit

/-- A load that a queue of this mode puts together from its parcels. -/
def Carries : QueueMode → Load → Prop
  | .single, load => ∃ p, load = ⟨p.url, p.body, [p]⟩
  | .batch url limit, load =>
      load = Queue.batchLoad url load.parcels ∧ load.parcels ≠ [] ∧
        load.parcels.length ≤ max 1 limit

end QueueMode

namespace QueueEvent

/-- The reports that a delivery is over for. -/
def concluded : QueueEvent → List Parcel
  | .settled load _ => load.parcels
  | _ => []

/-- The report that was accepted in an event, if one was. -/
def accepted? : QueueEvent → Option Parcel
  | .accepted p => some p
  | _ => none

end QueueEvent

namespace Queue

variable {q q' : Queue}

/-! ## The three places of a report -/

/-- Reports delivered or given up, in order. -/
def finished (q : Queue) : List Parcel := q.history.flatMap QueueEvent.concluded

/-- Reports of the delivery in progress. -/
def held (q : Queue) : List Parcel :=
  match q.worker with
  | .collecting taken => taken
  | .posting load _ => load.parcels
  | _ => []

/-- Reports in the channel. -/
def queued (q : Queue) : List Parcel := q.channel.filterMap Slot.parcel?

/-- Reports that the queue says it has accepted, in order. -/
def accepted (q : Queue) : List Parcel := q.history.filterMap QueueEvent.accepted?

theorem queued_parcel {p : Parcel} {rest : List Slot} (hc : q.channel = .parcel p :: rest) :
    q.queued = p :: rest.filterMap Slot.parcel? := by
  rw [queued, hc]
  exact List.filterMap_cons_some rfl

theorem finished_record (q : Queue) (e : QueueEvent) :
    (q.record e).finished = q.finished ++ e.concluded := by
  simp [finished, record]

theorem accepted_record (q : Queue) (e : QueueEvent) :
    (q.record e).accepted = q.accepted ++ e.accepted?.toList := by
  cases h : e.accepted? <;> simp [accepted, record, h]

@[simp] theorem accepted_note (q : Queue) (e : Log.Entry) : (q.note e).accepted = q.accepted := by
  rw [note, accepted_record]
  exact List.append_nil _

@[simp] theorem finished_note (q : Queue) (e : Log.Entry) : (q.note e).finished = q.finished := by
  rw [note, finished_record]
  exact List.append_nil _

/-! ## What the worker can do

A note changes nothing but the history; the fields of a queue that has made one are
those it had before. -/

@[simp] theorem note_mode (q : Queue) (e : Log.Entry) : (q.note e).mode = q.mode := rfl

@[simp] theorem send_running (q : Queue) (p : Parcel) : (q.send p).running = q.running := by
  unfold send; split <;> rfl

@[simp] theorem wake_worker (q : Queue) : q.wake.worker = q.worker := by
  unfold wake; split <;> rfl

@[simp] theorem wake_running (q : Queue) : q.wake.running = q.running := by
  unfold wake; split <;> rfl

@[simp] theorem wake_pending (q : Queue) : q.wake.pending = q.pending := by
  unfold wake; split <;> rfl

@[simp] theorem wake_history (q : Queue) : q.wake.history = q.history := by
  unfold wake; split <;> rfl

/-- One thing that happens on the side of the worker. -/
inductive Works : Queue → Queue → Prop where
  | leave {q : Queue} (e : Log.Entry) : q.worker = .deciding → q.running = false →
      q.pending = 0 → Works q ({ q with worker := .finished }.note e)
  | wait {q : Queue} : q.worker = .deciding → q.running = true ∨ q.pending ≠ 0 →
      Works q { q with worker := .waiting }
  | rouse {q : Queue} {rest : List Slot} : q.worker = .waiting → q.channel = .wake :: rest →
      Works q { q with channel := rest, worker := .deciding }
  | single {q : Queue} {p : Parcel} {rest : List Slot} : q.worker = .waiting →
      q.channel = .parcel p :: rest → q.mode = .single →
      Works q ({ q with channel := rest }.attempt ⟨p.url, p.body, [p]⟩ 0)
  | begin {q : Queue} {p : Parcel} {rest : List Slot} {url : Url} {limit : Nat} :
      q.worker = .waiting → q.channel = .parcel p :: rest → q.mode = .batch url limit →
      QueueMode.hasRoom limit = true →
      Works q { q with channel := rest, worker := .collecting [p] }
  | breakDown {q : Queue} {p : Parcel} {rest : List Slot} : q.worker = .waiting →
      q.channel = .parcel p :: rest → q.mode.fits = false →
      Works q { q with channel := [], worker := .broken }
  | gather {q : Queue} {taken : List Parcel} {p : Parcel} {rest : List Slot} {url : Url}
      {limit : Nat} : q.worker = .collecting taken → q.mode = .batch url limit →
      taken.length < limit → q.channel = .parcel p :: rest →
      Works q { q with channel := rest, worker := .collecting (taken ++ [p]) }
  | skip {q : Queue} {taken : List Parcel} {rest : List Slot} {url : Url} {limit : Nat} :
      q.worker = .collecting taken → q.mode = .batch url limit →
      q.channel = .wake :: rest → Works q { q with channel := rest }
  | dispatch {q : Queue} {taken : List Parcel} {url : Url} {limit : Nat} :
      q.worker = .collecting taken → q.mode = .batch url limit →
      limit ≤ taken.length ∨ q.channel = [] → Works q (q.attemptBatch url taken)
  /-- Only a queue of batches ever collects. -/
  | stall {q : Queue} {taken : List Parcel} : q.worker = .collecting taken →
      q.mode = .single → Works q q
  | succeed {q : Queue} {load : Load} {failures : Nat} : q.worker = .posting load failures →
      Works q (q.settle load true)
  | retry {q : Queue} {load : Load} {failures : Nat} (e e' : Log.Entry) :
      q.worker = .posting load failures → failures + 1 < maxAttempts →
      Works q (((q.note e).note e').attempt load (failures + 1))
  | giveUp {q : Queue} {load : Load} {failures : Nat} (e e' : Log.Entry) :
      q.worker = .posting load failures → maxAttempts ≤ failures + 1 →
      Works q (((q.note e).note e').settle load false)

theorem begin_works {p : Parcel} {rest : List Slot} (hw : q.worker = .waiting)
    (hc : q.channel = .parcel p :: rest) : Works q ({ q with channel := rest }.begin p) := by
  simp only [begin]
  split
  · next hm => exact .single hw hc hm
  · next hm =>
      split
      · next hr => exact .begin hw hc hm hr
      · next hr =>
          have hf : q.mode.fits = false := by
            rw [show q.mode = _ from hm]
            exact Bool.eq_false_iff.2 hr
          exact .breakDown hw hc hf

theorem collect_works {taken : List Parcel} (hw : q.worker = .collecting taken) :
    Works q (q.collect taken) := by
  simp only [collect]
  split
  · next hm => exact .stall hw hm
  · next hm =>
      split
      · next hl =>
          split
          · next hc => exact .gather hw hm hl hc
          · next hc => exact .skip hw hm hc
          · next hc => exact .dispatch hw hm (.inr hc)
      · next hl => exact .dispatch hw hm (.inl (Nat.le_of_not_lt hl))

/-- What a step does is on the list. -/
theorem step_works (h : q.step = some q') : Works q q' := by
  unfold step at h
  split at h
  · next hw =>
      split at h
      · next hd =>
          simp only [Bool.and_eq_true, Bool.not_eq_true', beq_iff_eq] at hd
          cases h
          exact .leave _ hw hd.1 hd.2
      · next hd =>
          cases h
          refine .wait hw ?_
          by_cases hr : q.running = true
          · exact .inl hr
          · right
            simpa [hr] using hd
  · next hw =>
      split at h
      · next hc => cases h; exact begin_works hw hc
      · next hc => cases h; exact .rouse hw hc
      · cases h
  · next hw => cases h; exact collect_works hw
  · cases h
  · cases h
  · cases h

/-- What an answer comes to: the load has arrived, or is tried again, or is given up. -/
theorem answer_cases {load : Load} {failures : Nat} (hw : q.worker = .posting load failures)
    (outcome : Except Failure Unit) :
    (outcome.isOk = true ∧ q.answer outcome = q.settle load true) ∨
    (outcome.isOk = false ∧ failures + 1 < maxAttempts ∧ ∃ e e' : Log.Entry,
      q.answer outcome = ((q.note e).note e').attempt load (failures + 1)) ∨
    (outcome.isOk = false ∧ maxAttempts ≤ failures + 1 ∧ ∃ e e' : Log.Entry,
      q.answer outcome = ((q.note e).note e').settle load false) := by
  simp only [answer, hw]
  cases outcome with
  | ok _ => exact .inl ⟨rfl, rfl⟩
  | error e =>
      simp only [fail]
      split
      · next hl => exact .inr (.inl ⟨rfl, by omega, _, _, rfl⟩)
      · next hl => exact .inr (.inr ⟨rfl, by omega, _, _, rfl⟩)

/-- What an answer does is on the list. -/
theorem answer_works {load : Load} {failures : Nat} (hw : q.worker = .posting load failures)
    (outcome : Except Failure Unit) : Works q (q.answer outcome) := by
  rcases answer_cases hw outcome with ⟨-, he⟩ | ⟨-, hn, e, e', he⟩ | ⟨-, hn, e, e', he⟩
  · exact he ▸ .succeed hw
  · exact he ▸ .retry e e' hw hn
  · exact he ▸ .giveUp e e' hw hn

theorem accepted_attempt (q : Queue) (load : Load) (failures : Nat) :
    (q.attempt load failures).accepted = q.accepted := by
  rw [attempt, accepted_record]
  exact List.append_nil _

theorem accepted_settle (q : Queue) (load : Load) (delivered : Bool) :
    (q.settle load delivered).accepted = q.accepted := by
  rw [settle, accepted_record]
  exact List.append_nil _

/-- The worker accepts nothing. -/
theorem Works.accepted (h : Works q q') : q'.accepted = q.accepted := by
  cases h with
  | leave => exact accepted_note _ _
  | wait | rouse | begin | breakDown | gather | skip | stall => rfl
  | single => exact accepted_attempt _ _ _
  | dispatch => rw [attemptBatch, accepted_attempt, accepted_note]
  | succeed => exact accepted_settle _ _ _
  | retry => rw [accepted_attempt, accepted_note, accepted_note]
  | giveUp => rw [accepted_settle, accepted_note, accepted_note]

/-- Neither the mode nor the token of a queue changes, nor whether it is running. -/
theorem Works.frame (h : Works q q') :
    q'.mode = q.mode ∧ q'.token = q.token ∧ q'.running = q.running := by
  cases h <;> exact ⟨rfl, rfl, rfl⟩

end Queue

/-! ## The caller -/

/-- An address on this machine. -/
def Url.loopback (path : String) : Url :=
  ⟨"http", "", "", some (.ipv4 0x7F000001), some 8585, .segments [path], none, none⟩

/-- A report with nothing in it. -/
def Parcel.blank : Parcel := ⟨.loopback "report", .null⟩

/-- What the caller is in the middle of. -/
inductive Call where
  | idle
  /-- A submit that has found the queue running. -/
  | admitting (p : Parcel)
  /-- A submit that has counted its report and not sent it yet. -/
  | sending (p : Parcel)
  /-- A stop that has closed the queue and not woken the worker yet. -/
  | waking

namespace Call

/-- Reports that are counted and not in the channel yet. -/
def raised : Call → Nat
  | .sending _ => 1
  | _ => 0

/-- The report of a submit that goes on. -/
def underway : Call → List Parcel
  | .admitting p | .sending p => [p]
  | _ => []

end Call

/-- A queue with the call that its caller is in the middle of. -/
structure Scene where
  queue : Queue
  call : Call
  /-- A stop has woken the worker. -/
  woken : Bool

/-- The names of the steps of a run. -/
inductive Move where
  | submit (p : Parcel)
  | raise
  | send
  | stop
  | wake
  | work
  | answer (outcome : Except Failure Unit)

namespace Move

/-- The step is the worker's, or the answer it waits for. -/
def byWorker : Move → Bool
  | .work | .answer _ => true
  | _ => false

/-- The move begins a stop. -/
def isStop : Move → Bool
  | .stop => true
  | _ => false

/-- The move is the one in which a stop wakes the worker. -/
def isWake : Move → Bool
  | .wake => true
  | _ => false

/-- The report that is handed in with a move, if one is. -/
def parcel? : Move → Option Parcel
  | .submit p => some p
  | _ => none

theorem of_byWorker {m : Move} (h : m.byWorker = true) :
    m.isStop = false ∧ m.isWake = false ∧ m.parcel? = none := by
  cases m with
  | work | answer => exact ⟨rfl, rfl, rfl⟩
  | submit | raise | send | stop | wake => cases h

end Move

/-- What the steps of a run bring while the queue is running, in order: all that is
submitted before the first stop. -/
def submitted : List Move → List Parcel
  | [] => []
  | .stop :: _ => []
  | .submit p :: ms => p :: submitted ms
  | _ :: ms => submitted ms

theorem submitted_snoc (ms : List Move) (m : Move) :
    submitted (ms ++ [m]) =
      submitted ms ++ if ms.any Move.isStop then [] else m.parcel?.toList := by
  induction ms with
  | nil => cases m <;> rfl
  | cons m' ms ih =>
      cases m' with
      | stop => rfl
      | submit p => exact congrArg (p :: ·) ih
      | raise | send | wake | work | answer => exact ih

namespace Scene

/-- A queue to which nothing has happened, and nobody is calling it. -/
def start (mode : QueueMode) (token : Option String) : Scene :=
  ⟨.start mode token, .idle, false⟩

/-- One step of the caller or of the worker. -/
inductive Step : Scene → Move → Scene → Prop where
  | enter {s : Scene} {p : Parcel} : s.call = .idle → s.queue.running = true →
      Step s (.submit p) { s with call := .admitting p }
  | refuse {s : Scene} {p : Parcel} : s.call = .idle → s.queue.running = false →
      Step s (.submit p) { s with queue := s.queue.refuse p }
  | raise {s : Scene} {p : Parcel} : s.call = .admitting p →
      Step s .raise { s with queue := s.queue.raise, call := .sending p }
  | send {s : Scene} {p : Parcel} : s.call = .sending p →
      Step s .send { s with queue := s.queue.send p, call := .idle }
  | stop {s : Scene} : s.call = .idle →
      Step s .stop { s with queue := s.queue.close, call := .waking }
  | wake {s : Scene} : s.call = .waking →
      Step s .wake { s with queue := s.queue.wake, call := .idle, woken := true }
  | work {s : Scene} {q : Queue} : s.queue.step = some q → Step s .work { s with queue := q }
  | answer {s : Scene} {load : Load} {failures : Nat} (outcome : Except Failure Unit) :
      s.queue.worker = .posting load failures →
      Step s (.answer outcome) { s with queue := s.queue.answer outcome }

/-- A run, by the names of its steps. -/
inductive Runs : Scene → List Move → Scene → Prop where
  | nil (s : Scene) : Runs s [] s
  | snoc {s t u : Scene} {ms : List Move} {m : Move} : Runs s ms t → Step t m u →
      Runs s (ms ++ [m]) u

variable {s t u : Scene} {m : Move} {ms ms' : List Move}

theorem Runs.append (h : Runs s ms t) (h' : Runs t ms' u) : Runs s (ms ++ ms') u := by
  induction h' with
  | nil => rwa [List.append_nil]
  | snoc _ hs ih =>
      rw [← List.append_assoc]
      exact .snoc ih hs

/-- A submit with nothing between its three actions is the one of a queue. -/
theorem Runs.submit (h : Runs s ms t) (hc : t.call = .idle) (hr : t.queue.running = true)
    (p : Parcel) :
    Runs s (ms ++ [.submit p] ++ [.raise] ++ [.send])
      ⟨t.queue.submit p, .idle, t.woken⟩ := by
  have he : t.queue.submit p = t.queue.raise.send p := if_pos hr
  rw [he]
  exact .snoc (.snoc (.snoc h (.enter hc hr)) (.raise rfl)) (.send rfl)

/-- A stop with nothing between its two actions is the beginning of the one of a queue. -/
theorem Runs.stop (h : Runs s ms t) (hc : t.call = .idle) :
    Runs s (ms ++ [.stop] ++ [.wake]) ⟨t.queue.beginStop, .idle, true⟩ :=
  .snoc (.snoc h (.stop hc)) (.wake rfl)

theorem Runs.work (h : Runs s ms t) {q : Queue} (hq : t.queue.step = some q) :
    Runs s (ms ++ [.work]) { t with queue := q } := .snoc h (.work hq)

/-- On the worker side only the queue changes, and it changes as listed. -/
theorem Step.works (h : Step s m t) (hm : m.byWorker = true) :
    Queue.Works s.queue t.queue ∧ t = { s with queue := t.queue } := by
  cases h with
  | work hs => exact ⟨Queue.step_works hs, rfl⟩
  | answer outcome hw => exact ⟨Queue.answer_works hw outcome, rfl⟩
  | enter | refuse | raise | send | stop | wake => cases hm

theorem Step.frame (h : Step s m t) :
    t.queue.mode = s.queue.mode ∧ t.queue.token = s.queue.token := by
  by_cases hm : m.byWorker = true
  · have hf := (h.works hm).1.frame
    exact ⟨hf.1, hf.2.1⟩
  · cases h with
    | work | answer => exact absurd rfl hm
    | enter | refuse | raise | stop => exact ⟨rfl, rfl⟩
    | send =>
        simp only [Queue.send]
        split <;> exact ⟨rfl, rfl⟩
    | wake =>
        simp only [Queue.wake]
        split <;> exact ⟨rfl, rfl⟩

theorem Runs.frame {mode : QueueMode} {token : Option String}
    (h : Runs (start mode token) ms s) : s.queue.mode = mode ∧ s.queue.token = token := by
  induction h with
  | nil => exact ⟨rfl, rfl⟩
  | snoc _ hm ih => exact ⟨hm.frame.1.trans ih.1, hm.frame.2.trans ih.2⟩

end Scene
end Courier
