import Courier.Runner.Scope

/-!
# Waits

A condition is polled until it has a value or the time is up. It is polled at
least once, and again an interval after a poll only if that is still within the
time. A failure counts as not yet; the last one is told when the time is up.
-/

namespace Courier

/-- A condition, asked at each poll: a value, or not yet. -/
abbrev Condition (ω α : Type) := Nat → Run ω (Except Failure (Option α))

/-- How a wait ended, and after how many polls. -/
structure Waited (α : Type) where
  result : Except Failure α
  polls : Nat

namespace Run

variable {ω α : Type}

/-- Time between two polls unless said otherwise, in milliseconds. -/
def defaultPollInterval : Nat := 500

/-- How often a condition is asked again at most when there is no time between polls. -/
def unpacedPolls : Nat := 1000000

/-- How often a condition is asked again at most: as many sleeps as there is time for, or the
bound on polls with no time between them. -/
def furtherPolls (timeout interval : Nat) : Nat :=
  if interval = 0 then unpacedPolls else timeout / timer interval

/-- The failure of a wait whose time is up. -/
def timeUp (timeout : Nat) (last : Option Failure) : Failure :=
  .timeout ("Condition not met within " ++ toString timeout ++ "ms" ++
    (match last with
      | some e => ": " ++ e.message
      | none => ""))

/-- Polls until the deadline; `polls` polls have been made, the last failure was `last`,
and at most `further` polls follow this one. -/
def pollUntil (condition : Condition ω α) (timeout interval deadline : Nat) (polls : Nat)
    (last : Option Failure) (further : Nat) : Run ω (Waited α) := do
  match ← condition polls with
  | .ok (some a) => return ⟨.ok a, polls + 1⟩
  | answer =>
      let last ← match answer with
        | .error e => do
            note (Log.debug ("Wait condition not met yet: " ++ e.message))
            pure (some e)
        | .ok _ => pure last
      let now := (← get).clock
      match further with
      | 0 => return ⟨.error (timeUp timeout last), polls + 1⟩
      | further + 1 =>
          if deadline < now + interval then return ⟨.error (timeUp timeout last), polls + 1⟩
          else
            sleep interval
            pollUntil condition timeout interval deadline (polls + 1) last further

/-- Waits for a condition; the commands it executes are reported as one.

With an interval the bound on the polls is never what ends a wait. At interval 0 it may be,
and then it is this definition's own cut: the program itself polls on until the time is up,
be it for ever if polls take no time. -/
def waitUntil (condition : Condition ω α) (timeout interval : Nat) : Run ω (Waited α) :=
  inside (·.whilePolling) do
    let deadline := (← get).clock + timeout
    pollUntil condition timeout interval deadline 0 none (furtherPolls timeout interval)

end Run
end Courier
