import Courier.Codeblock
import Courier.Runner.Basic

/-!
# Running codeblocks

A codeblock runs at the Agent and is reported there. It comes to something only
if the Agent says in as many words that it passed.
-/

namespace Courier

/-- What a codeblock comes to with this answer. -/
def Codeblock.value (c : Codeblock) (answer : CodeblockAnswer) : Codeblock.Value :=
  match c.output? with
  | none => .flag answer.verdict.isPassed
  | some name =>
      if answer.verdict.isPassed then
        .output ((answer.outputs.bind (Object.get? · name)).bind Json.asString?)
      else .output none

namespace Run

variable {ω : Type}

/-- Runs the codeblock of an identifier with the entries given. -/
def executeCodeblock (timeout : Nat) (guid : String) (entries : Object) (l : Option Locator) :
    Run ω (Except Failure CodeblockAnswer) := do
  match ← callCodeblock guid (.obj (Codeblock.body timeout entries l)) with
  | .error e => return .error e
  | .ok answer =>
      if !answer.verdict.isPassed then
        note (Log.warn ("Failed to execute action '" ++ guid ++
          "', agent returned the following message: " ++ answer.message))
      return .ok answer

/-- Runs a codeblock of the Agent. -/
def runCodeblock (timeout : Nat) (c : Codeblock) : Run ω (Except Failure Codeblock.Value) := do
  match ← executeCodeblock timeout c.guid c.arguments c.locator? with
  | .error e => return .error e
  | .ok answer => return .ok (c.value answer)

end Run
end Courier
