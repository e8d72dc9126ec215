import Courier.Agent.Network

/-!
# Replayed networks

A network that answers with what is known already, in order, and stops at the
first thing that is not known: there it keeps the question. Whoever can answer it
adds the answer and begins again from the start.
-/

namespace Courier

/-- What is asked of a network. -/
inductive Question where
  | exchange (r : HttpRequest)
  | connect (host : String) (port : Nat)
  | listen (host : String) (port limit : Nat)
  | disconnect (host : String) (port : Nat)

/-- What a network answers. -/
inductive Known where
  | exchanged (e : Exchange)
  | connected (result : Except String Unit)
  | heard (s : Stream)
  | disconnected (result : Except String Unit)

/-- A network that knows some of its answers and asks for the next one. -/
structure Replay where
  /-- The answers still to come. -/
  known : List Known
  /-- The first question without an answer. -/
  question : Option Question

namespace Replay

/-- A run that knows these answers. -/
def ofKnown (known : List Known) : Replay := ⟨known, none⟩

/-- Keeps a question, unless there is one already. -/
def ask (r : Replay) (q : Question) : Replay := { r with question := r.question.or (some q) }

/-- The reason that stands in for an answer that is not known. -/
def unknown : String := "not known yet"

/-- The network that answers from what is known, and notes what it was asked first
beyond that. -/
def network (newId : Nat → String) : Network Replay where
  exchange := fun q r =>
    match r.known with
    | .exchanged e :: known => (e, { r with known })
    | _ => (⟨0, .error (Network.noRoute q)⟩, r.ask (.exchange q))
  connect := fun host port r =>
    match r.known with
    | .connected result :: known => (result, { r with known })
    | _ => (.error unknown, r.ask (.connect host port))
  listen := fun host port limit r =>
    match r.known with
    | .heard s :: known => (s, { r with known })
    | _ => (⟨[], none⟩, r.ask (.listen host port limit))
  disconnect := fun host port r =>
    match r.known with
    | .disconnected result :: known => (result, { r with known })
    | _ => (.error unknown, r.ask (.disconnect host port))
  newId

end Replay
end Courier
