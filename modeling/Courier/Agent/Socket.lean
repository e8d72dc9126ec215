import Courier.Agent.Network

/-!
# The development socket

A connection that is held for as long as a session lasts.
-/

namespace Courier

/-- A connection to the development socket, which may have been closed. -/
structure Socket where
  host : String
  port : Nat
  isOpen : Bool
  deriving DecidableEq, Repr

namespace Socket

variable {ω : Type}

/-- Hears whether the Agent sends the UUID that is expected. -/
def shakeHands (host : String) (port : Nat) (expected : String) (limit : Nat) :
    Talk ω (Except Handshake.Refusal Unit) :=
  match Handshake.expect expected with
  | .error refusal => return .error refusal
  | .ok id => return Handshake.check id limit (← Talk.listen host port limit)

/-- Opens the socket. Where a UUID is expected the Agent has to send it before the
limit, and the connection is given up if it does not. -/
def connect (host : String) (port : Nat) (expected : Option String) (limit : Nat) :
    Talk ω Socket := do
  Talk.connect host port
  if let some text := expected then
    match ← shakeHands host port text limit with
    | .ok () => Talk.note (Log.debug "Development socket handshake validated")
    | .error refusal =>
        let _ ← Talk.disconnect host port
        throw (.agentConnect refusal.message)
  Talk.note (Log.info ("Socket connection to " ++ host ++ ":" ++ toString port ++
    " established successfully"))
  return ⟨host, port, true⟩

/-- Closes the socket, if it is open. -/
def close (s : Socket) : Talk ω Socket := do
  if s.isOpen then
    match ← Talk.disconnect s.host s.port with
    | .ok () => Talk.note (Log.info "Connection to Agent closed successfully")
    | .error text =>
        Talk.note (Log.error ("Failed to close socket connection to Agent: " ++ text))
  else
    Talk.note (Log.debug ("Socket to " ++ s.host ++ ":" ++ toString s.port ++ " already closed"))
  return { s with isOpen := false }

end Socket
end Courier
