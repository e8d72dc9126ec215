import Courier.Runner.Basic

/-!
# Scripted surroundings

A driver and an Agent whose answers are laid down beforehand. The driver answers
by the name of the command alone.
-/

namespace Courier

/-- What is laid down for the driver and the Agent. -/
structure Script where
  /-- Answers of the driver by command; a command without one has null for an answer. -/
  responses : List (String × Response)
  /-- Commands that fail. -/
  failing : List String
  /-- The answer to every addon action; none if no addon is installed. -/
  addon : Option AddonAnswer
  codeblock : CodeblockAnswer

namespace Script

/-- The driver's answer to a command. -/
def respond (s : Script) (command : Command) : Except Failure Response :=
  if s.failing.contains command.name then .error (.general (command.name ++ " failed"))
  else .ok ((s.responses.lookup command.name).getD (.ok .null))

/-- The Agent's answer to an addon action. -/
def runAction (s : Script) (a : AddonAction) : Reply AddonAnswer :=
  match s.addon with
  | some answer => ⟨.ok answer, []⟩
  | none => ⟨.error (.addonNotInstalled a.guid a.className), []⟩

/-- Surroundings that answer by the script and keep no state. -/
def surroundings (s : Script) (session : Session) (guid : Nat → String) : Surroundings Unit where
  session
  drive := fun command _ _ => (s.respond command, ())
  report := fun _ _ => ()
  runAction := fun a _ => (s.runAction a, ())
  runCodeblock := fun _ _ _ => (⟨.ok s.codeblock, []⟩, ())
  guid

end Script
end Courier
