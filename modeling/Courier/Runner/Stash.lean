import Courier.Runner.Basic

/-!
# The stash

The commands of a wait are reported as one: while a wait goes on, the report of
the latest command is put aside, and leaves before the next report of another
kind. A stashed report that comes to its turn when commands are not reported is
thrown away.
-/

namespace Courier.Run

variable {ω : Type}

/-- Puts a report aside in place of the one that is there. -/
def putAside (report : CommandReport) : Run ω Unit :=
  modify fun r => { r with stash := some report }

/-- Takes the report that was put aside. -/
def takeStash : Run ω (Option CommandReport) := do
  emit (.flushed (← switches).reportsCommands)
  modifyGet fun r => (r.stash, { r with stash := none })

/-- Sends the report that was put aside, or throws it away if commands are not reported. -/
def clearStash : Run ω Unit := do
  if let some report ← takeStash then
    if (← switches).reportsCommands then deliver (.command report)

/-- Sends the report of a step, and before it the one that was put aside. -/
def submitStep (report : StepReport) : Run ω Unit := do
  build (.step report)
  clearStash
  deliver (.step report)

end Courier.Run
