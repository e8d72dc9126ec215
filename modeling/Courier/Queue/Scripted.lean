import Courier.Queue.Clock

/-!
# Scripted senders

Senders whose answers are laid down beforehand, attempt by attempt.
-/

namespace Courier

/-- What is laid down for one attempt. -/
inductive PostScript where
  | succeed
  | fail (e : Failure)
  /-- To succeed after so many milliseconds. -/
  | stall (ms : Nat)

namespace PostScript

/-- The answer that is laid down. -/
def reply : PostScript → PostReply
  | .succeed => ⟨0, .ok ()⟩
  | .fail e => ⟨0, .error e⟩
  | .stall ms => ⟨timer ms, .ok ()⟩

/-- Answers each attempt by its number. -/
def sender (script : Nat → PostScript) : Sender Nat :=
  fun _ made => ((script made).reply, made + 1)

/-- Follows a list, and succeeds past its end. -/
def ofList (scripts : List PostScript) (made : Nat) : PostScript := scripts.getD made .succeed

end PostScript
end Courier
