import Courier.Queue.Basic
import Courier.Timer

/-!
# The queue in time

The worker takes no time of its own; only the answers to its attempts do. It runs
while the caller waits: for so many milliseconds, or until nothing more happens.
Who waits for no time at all leaves the worker no chance to run.
-/

namespace Courier

/-- The answer to an attempt, and how long it takes. -/
structure PostReply where
  delay : Nat
  outcome : Except Failure Unit

/-- Posts loads; `ω` is the state of what it posts to. -/
abbrev Sender (ω : Type) := Attempt → ω → PostReply × ω

/-- An answer on its way. -/
structure Arrival where
  time : Nat
  outcome : Except Failure Unit

/-- A queue at work. -/
structure Dispatch where
  queue : Queue
  /-- The answer to the attempt in progress. -/
  arrival : Option Arrival

/-- A queue at work and what it posts to, at a time in milliseconds. -/
structure Clocked (ω : Type) extends Dispatch where
  world : ω
  now : Nat

/-- A queue that has sent nothing out. -/
def Dispatch.ofQueue (queue : Queue) : Dispatch := ⟨queue, none⟩

namespace Clocked

variable {ω : Type}

/-- A queue at work from the time 0 on. -/
def start (queue : Queue) (world : ω) : Clocked ω := ⟨.ofQueue queue, world, 0⟩

/-- A time lies before a deadline, where there is one. -/
def within (deadline : Option Nat) (time : Nat) : Bool :=
  match deadline with
  | some d => time ≤ d
  | none => true

/-- The next thing that happens before the deadline. -/
def tick (post : Sender ω) (deadline : Option Nat) (c : Clocked ω) : Option (Clocked ω) :=
  match c.queue.worker, c.arrival with
  | .posting load _, none =>
      let (reply, world) := post ⟨load.url, c.queue.token, load.body⟩ c.world
      some { c with world, arrival := some ⟨c.now + reply.delay, reply.outcome⟩ }
  | .posting _ _, some a =>
      if within deadline a.time then
        some { c with now := max c.now a.time, queue := c.queue.answer a.outcome, arrival := none }
      else none
  | _, _ => c.queue.step.map fun queue => { c with queue }

/-- Lets up to `steps` things happen. -/
def ticks (post : Sender ω) (deadline : Option Nat) : Nat → Clocked ω → Clocked ω
  | 0, c => c
  | steps + 1, c =>
      match c.tick post deadline with
      | some next => ticks post deadline steps next
      | none => c

/-- Lets everything happen that happens before the deadline. -/
def run (post : Sender ω) (deadline : Option Nat) (c : Clocked ω) : Clocked ω :=
  c.ticks post deadline (2 * c.queue.work)

/-- Changes the queue at once. -/
def apply (c : Clocked ω) (change : Queue → Queue) : Clocked ω :=
  { c with queue := change c.queue }

/-- Waits until nothing is pending. -/
def flush (post : Sender ω) (c : Clocked ω) : Clocked ω :=
  if c.queue.pending = 0 then c else c.run post none

/-- Waits for some time. -/
def sleep (post : Sender ω) (ms : Nat) (c : Clocked ω) : Clocked ω :=
  if ms = 0 then c
  else { c.run post (some (c.now + timer ms)) with now := c.now + timer ms }

/-- Waits for the worker to leave, for some time at most. -/
def await (post : Sender ω) (timeout : Nat) (c : Clocked ω) : Clocked ω :=
  if c.queue.isGone || timeout = 0 then c
  else
    let done := c.run post (some (c.now + timeout))
    if done.queue.isGone then done else { done with now := c.now + timeout }

/-- What a stop has to say when it has waited. -/
def stopNotes (timeout : Nat) (q : Queue) : Queue :=
  let q :=
    if q.isGone then q
    else q.note (Log.warn ("Reports queue did not finish within " ++ toString timeout ++ "ms"))
  if 0 < q.pending then
    q.note (Log.warn ("There are " ++ toString q.pending ++ " unreported items in the queue"))
  else q

/-- Accepts no more reports and waits for the rest to be delivered, for some time at
most. Only the first stop waits. -/
def stop (post : Sender ω) (timeout : Nat) (c : Clocked ω) : Clocked ω :=
  let c := c.apply Queue.beginStop
  if c.queue.awaited then c
  else
    (({ c with queue := { c.queue with awaited := true } } : Clocked ω).await post timeout).apply
      (stopNotes timeout)

end Clocked
end Courier
