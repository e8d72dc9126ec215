import Courier.Agent.Network

/-!
# Scripted agents

A network with one Agent on it that answers by a script: each request by its
method, its path and how often the two came before. Its development socket sends
what is laid down to whoever connects.
-/

namespace Courier

/-- What is laid down for one request. -/
inductive ScriptedAnswer where
  | answer (a : HttpAnswer)
  /-- Closes the connection without an answer. -/
  | drop

/-- An Agent that answers as it is laid down. -/
structure AgentScript where
  host : String
  port : Nat
  socketPort : Nat
  /-- Answers by method and path, the last one for all requests that follow. -/
  answers : List ((String × String) × List ScriptedAnswer)
  socket : Stream
  /-- Nobody listens. -/
  down : Bool

namespace AgentScript

/-- What tells requests apart. -/
def key (r : HttpRequest) : String × String := (r.method.name, r.url.pathText)

/-- The answer to a request after these. -/
def answerTo (s : AgentScript) (earlier : List HttpRequest) (r : HttpRequest) : ScriptedAnswer :=
  let before := (earlier.filter fun e => key e == key r).length
  match s.answers.lookup (key r) with
  | some (a :: rest) => ((a :: rest)[before]?).getD ((a :: rest).getLast (by simp))
  | _ => .answer ⟨404, [], false⟩

/-- The request goes to the Agent. -/
def isFor (s : AgentScript) (u : Url) : Bool :=
  !s.down && u.scheme == "http" && u.hostText? == some s.host && u.port.getD 80 == s.port

/-- What comes of a request to this Agent, with those before it in mind. -/
def exchange (s : AgentScript) (r : HttpRequest) (earlier : List HttpRequest) :
    Exchange × List HttpRequest :=
  if s.isFor r.url then
    let outcome := match s.answerTo earlier r with
      | .answer a => .ok a
      | .drop => .error { Network.noRoute r with unreachable := false }
    (⟨0, outcome⟩, earlier ++ [r])
  else (⟨0, .error (Network.noRoute r)⟩, earlier)

/-- The network with the Agent on it; its state is the requests the Agent has received. -/
def network (s : AgentScript) (newId : Nat → String) : Network (List HttpRequest) where
  exchange := s.exchange
  connect := fun host port earlier =>
    if host == s.host && port == s.socketPort then (.ok (), earlier)
    else (.error "Connection refused (os error 111)", earlier)
  listen := fun _ _ _ earlier => (s.socket, earlier)
  disconnect := fun _ _ earlier => (.ok (), earlier)
  newId

end AgentScript
end Courier
