import Courier.Runner.Basic

/-!
# Scopes

A scope puts a context in force and goes back to the one before it when it is
left. Scopes need not be left in the order they were entered: each goes back to
the context it was entered from.
-/

namespace Courier

namespace StepContext

/-- The context with another policy, which may leave things to the one in force. -/
def withPolicy (c : StepContext) (p : StepPolicy) : StepContext :=
  { c with policy := p.within c.policy }

/-- The context of the rounds of a wait. -/
def whilePolling (c : StepContext) : StepContext := { c with polling := true }

end StepContext

namespace Run

variable {ω : Type}

/-- Puts a context in force. -/
def setContext (c : StepContext) : Run ω Unit := adjust fun r => { r with context := c }

/-- Enters a scope with a changed context. -/
def enter (name : String) (change : StepContext → StepContext) : Run ω Unit :=
  adjust fun r =>
    { r with context := change r.context, scopes := r.scopes ++ [⟨name, r.context⟩] }

/-- Enters a scope in which steps go by this policy. -/
def enterPolicy (name : String) (p : StepPolicy) : Run ω Unit := enter name (·.withPolicy p)

/-- Enters a scope in which steps are rounds of a wait. -/
def enterPolling (name : String) : Run ω Unit := enter name (·.whilePolling)

/-- Leaves the oldest open scope of this name, if there is one. -/
def leave (name : String) : Run ω Unit :=
  adjust fun r =>
    match r.scopes.find? fun s => s.name == name with
    | some s =>
        { r with context := s.outer, scopes := r.scopes.eraseP fun s => s.name == name }
    | none => r

/-- Does something in a changed context, and goes back to the one before. -/
def inside {α : Type} (change : StepContext → StepContext) (body : Run ω α) : Run ω α := do
  let outer := (← get).context
  setContext (change outer)
  let a ← body
  setContext outer
  return a

end Run
end Courier
