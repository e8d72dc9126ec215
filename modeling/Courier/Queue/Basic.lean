import Courier.Failure
import Courier.Json.Basic
import Courier.Log
import Courier.Url.Basic

/-!
# The report queue

Reports wait in a channel for a worker that posts them to the Agent one delivery
at a time, in the order they came. A delivery is one report, or a batch of as many
as are there and fit; it is tried four times and then given up.

Stopping closes the queue to new reports and wakes the worker, which leaves when
nothing is pending. The wake-up goes through the channel like a report, and the
worker may meet it anywhere, also in the middle of a batch, where it counts for
nothing.

The machine is written in small steps, so that what the caller does may come
between any two of them.
-/

namespace Courier

/-- A report on its way: where it goes, and its text. -/
structure Parcel where
  url : Url
  body : Json

/-- What the channel holds. -/
inductive Slot where
  | parcel (p : Parcel)
  /-- Nothing to deliver, only a reason to look again. -/
  | wake

/-- One or more parcels, posted as one. -/
structure Load where
  url : Url
  body : Json
  parcels : List Parcel

/-- How reports are grouped into deliveries. -/
inductive QueueMode where
  /-- Each report by itself, to its own address. -/
  | single
  /-- Reports in arrays of at most this many, to one address. -/
  | batch (url : Url) (limit : Nat)

namespace QueueMode

/-- Batches of at least one. -/
def ofLimit (url : Url) (limit : Nat) : QueueMode := .batch url (max 1 limit)

/-- Room is made for a whole batch before it is filled, 32 bytes for each report, and
there can be no more than `2 ^ 63 - 1` bytes. -/
def hasRoom (limit : Nat) : Bool := 32 * limit < 0x8000000000000000

end QueueMode

/-- What the worker is about to do. -/
inductive Worker where
  /-- To see whether it is done. -/
  | deciding
  /-- To take what comes next from the channel. -/
  | waiting
  /-- To fill up a batch that holds these. -/
  | collecting (taken : List Parcel)
  /-- To hear how an attempt went, after so many that failed. -/
  | posting (load : Load) (failures : Nat)
  | finished
  /-- Nothing: it broke down, as there was no room for a batch. -/
  | broken

/-- One try to post a load. -/
structure Attempt where
  url : Url
  token : Option String
  body : Json

/-- What happens to a queue and can be seen of it. -/
inductive QueueEvent where
  | accepted (p : Parcel)
  | dropped (p : Parcel)
  | attempted (a : Attempt)
  /-- A delivery is over, successful or given up. -/
  | settled (load : Load) (delivered : Bool)
  | noted (e : Log.Entry)

/-- A queue of reports, and where its worker is. -/
structure Queue where
  mode : QueueMode
  token : Option String
  running : Bool
  /-- Reports accepted and neither delivered nor given up. -/
  pending : Nat
  channel : List Slot
  worker : Worker
  /-- Somebody has waited for the worker to leave. -/
  awaited : Bool
  history : List QueueEvent

namespace Queue

/-- How often a delivery is tried. -/
def maxAttempts : Nat := 4

/-- A queue with nothing in it, and its worker about to begin. -/
def start (mode : QueueMode) (token : Option String) : Queue where
  mode
  token
  running := true
  pending := 0
  channel := []
  worker := .deciding
  awaited := false
  history := [.noted (Log.debug "Starting reports queue")]

/-- Adds an event to the history. -/
def record (q : Queue) (e : QueueEvent) : Queue := { q with history := q.history ++ [e] }

/-- Adds a line to the log of the queue. -/
def note (q : Queue) (e : Log.Entry) : Queue := q.record (.noted e)

/-- The worker has left, or broken down. -/
def isGone (q : Queue) : Bool :=
  match q.worker with
  | .finished | .broken => true
  | _ => false

/-! ## What the caller does -/

/-- Turns a report away. -/
def refuse (q : Queue) (p : Parcel) : Queue :=
  (q.record (.dropped p)).note
    (Log.warn ("Reports queue is stopped, dropping report for " ++ p.url.text))

/-- Counts a report that is about to be sent. -/
def raise (q : Queue) : Queue := { q with pending := q.pending + 1 }

/-- Sends a counted report to the worker, or takes it off the count if there is none. -/
def send (q : Queue) (p : Parcel) : Queue :=
  if q.isGone then
    let q : Queue := { q with pending := q.pending - 1 }
    (q.record (.dropped p)).note (Log.error "Reports queue worker is gone, report was not queued")
  else
    let q : Queue := { q with channel := q.channel ++ [.parcel p] }
    q.record (.accepted p)

/-- Adds a report, unless the queue is stopped. -/
def submit (q : Queue) (p : Parcel) : Queue :=
  if q.running then q.raise.send p else q.refuse p

/-- Accepts no more reports. -/
def close (q : Queue) : Queue := { q with running := false }

/-- Wakes the worker, if it is there. -/
def wake (q : Queue) : Queue :=
  if q.isGone then q else { q with channel := q.channel ++ [.wake] }

/-- Begins to stop. -/
def beginStop (q : Queue) : Queue := q.close.wake

/-! ## What the worker does -/

/-- Sends out an attempt to post a load. -/
def attempt (q : Queue) (load : Load) (failures : Nat) : Queue :=
  let q : Queue := { q with worker := .posting load failures }
  q.record (.attempted ⟨load.url, q.token, load.body⟩)

/-- The load that a batch makes. -/
def batchLoad (url : Url) (taken : List Parcel) : Load :=
  ⟨url, .arr (taken.map Parcel.body), taken⟩

/-- Sends out a batch. -/
def attemptBatch (q : Queue) (url : Url) (taken : List Parcel) : Queue :=
  (q.note (Log.debug ("Sending a batch of " ++ toString taken.length ++ " reports"))).attempt
    (batchLoad url taken) 0

/-- Starts on a report just taken from the channel. A worker that breaks down takes the
channel with it, and what was in it stays pending. -/
def begin (q : Queue) (p : Parcel) : Queue :=
  match q.mode with
  | .single => q.attempt ⟨p.url, p.body, [p]⟩ 0
  | .batch _ limit =>
      if QueueMode.hasRoom limit then { q with worker := .collecting [p] }
      else { q with worker := .broken, channel := [] }

/-- Fills up a batch with what is there, and sends it out when it is full or there is no more. -/
def collect (q : Queue) (taken : List Parcel) : Queue :=
  match q.mode with
  | .single => q
  | .batch url limit =>
      if taken.length < limit then
        match q.channel with
        | .parcel p :: rest => { q with channel := rest, worker := .collecting (taken ++ [p]) }
        | .wake :: rest => { q with channel := rest }
        | [] => q.attemptBatch url taken
      else q.attemptBatch url taken

/-- The next thing the worker does by itself; none if it waits for something to come
into the channel, for an answer, or for nothing any more. -/
def step (q : Queue) : Option Queue :=
  match q.worker with
  | .deciding =>
      if !q.running && q.pending == 0 then
        some ({ q with worker := .finished }.note (Log.debug "Reports queue worker finished"))
      else some { q with worker := .waiting }
  | .waiting =>
      match q.channel with
      | .parcel p :: rest => some ({ q with channel := rest }.begin p)
      | .wake :: rest => some { q with channel := rest, worker := .deciding }
      | [] => none
  | .collecting taken => some (q.collect taken)
  | .posting _ _ => none
  | .finished | .broken => none

/-- Ends a delivery, whatever came of it. -/
def settle (q : Queue) (load : Load) (delivered : Bool) : Queue :=
  let q : Queue := { q with worker := .deciding, pending := q.pending - load.parcels.length }
  q.record (.settled load delivered)

/-- Takes the failure of an attempt, and tries again or gives up. -/
def fail (q : Queue) (load : Load) (failures : Nat) (e : Failure) : Queue :=
  let q := q.note
    (Log.warn ("Failed to submit report to " ++ load.url.text ++ ": " ++ e.message))
  let left := maxAttempts - (failures + 1)
  if 0 < left then
    (q.note (Log.info ("Report submission will be retried " ++ toString left ++
      " more time(s)"))).attempt load (failures + 1)
  else
    (q.note (Log.error ("Failed to submit report after " ++ toString maxAttempts ++
      " attempts"))).settle load false

/-- Takes the answer to the attempt in progress. -/
def answer (q : Queue) (outcome : Except Failure Unit) : Queue :=
  match q.worker with
  | .posting load failures =>
      match outcome with
      | .ok () => q.settle load true
      | .error e => q.fail load failures e
  | _ => q

/-! ## How much is left to do -/

/-- What it takes to get through a channel. -/
def channelCost : List Slot → Nat
  | [] => 0
  | .parcel _ :: rest => 8 + channelCost rest
  | .wake :: rest => 2 + channelCost rest

/-- How much the worker has to do before it looks into the channel again. -/
def Worker.rank : Worker → Nat
  | .finished | .broken => 0
  | .waiting => 1
  | .deciding => 2
  | .posting _ failures => 3 + (maxAttempts - failures)
  | .collecting _ => 8

/-- Grows smaller with each thing the worker does and each answer it gets. -/
def work (q : Queue) : Nat := Worker.rank q.worker + channelCost q.channel

/-! ## What can be seen of it -/

/-- The attempt that goes out with an event, if one does. -/
def QueueEvent.attempt? : QueueEvent → Option Attempt
  | .attempted a => some a
  | _ => none

/-- The load that was delivered with an event, if one was. -/
def QueueEvent.delivered? : QueueEvent → Option Load
  | .settled load true => some load
  | _ => none

/-- The line of the log that an event is, if it is one. -/
def QueueEvent.entry? : QueueEvent → Option Log.Entry
  | .noted e => some e
  | _ => none

/-- All attempts, in order. -/
def attempts (q : Queue) : List Attempt := q.history.filterMap QueueEvent.attempt?

/-- Deliveries that succeeded. -/
def deliveries (q : Queue) : List Load := q.history.filterMap QueueEvent.delivered?

/-- The log of the queue. -/
def log (q : Queue) : List Log.Entry := q.history.filterMap QueueEvent.entry?

end Queue
end Courier
