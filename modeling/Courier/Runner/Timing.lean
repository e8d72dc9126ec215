import Courier.Runner.Basic

/-!
# Timing of steps

Before a step the driver is told how long to wait for elements, in the words of
its dialect; around a step the run may sleep.
-/

namespace Courier.Run

variable {ω : Type}

/-- The command that sets the implicit wait, and its parameters. -/
def implicitWaitCall (s : Session) (ms : Int) : Command × Json :=
  if s.dialect.isW3c then
    (.setTimeouts, .object [("sessionId", .str s.id), ("implicit", .ofInt ms)])
  else
    (.implicitWait, .object [("sessionId", .str s.id), ("ms", .num (.double (.ofInt ms)))])

/-- Sets the implicit wait of the driver, unless it is to be left as it is. -/
def setImplicitWait (ms : Int) : Run ω (Except Failure Unit) := do
  if ms ≤ 0 then return .ok ()
  note (Log.debug ("Setting driver implicit wait to " ++ toString ms ++ " milliseconds"))
  let (command, params) := implicitWaitCall (← read).session ms
  match ← drive .timing command params with
  | .ok _ => return .ok ()
  | .error e => return .error e

/-- Sleeps if the timing says so for this side of the step. -/
def sleepAround (timing : SleepTiming) (ms : Nat) (phase : Phase) : Run ω Unit := do
  if timing.applies phase && 0 < ms then
    note (Log.debug ("Step is designed to sleep for " ++ toString ms ++ " milliseconds " ++
      timing.name ++ " execution"))
    sleep ms

/-- Sleeps around a command; nothing waits for the end of the session. -/
def sleepAroundCommand (command : Command) (timing : SleepTiming) (ms : Nat) (phase : Phase) :
    Run ω Unit := do
  if !command.isQuit then sleepAround timing ms phase

end Courier.Run
