import Courier.Failure
import Courier.Uuid

/-!
# The handshake of the development socket

A session that was started with a UUID expects the Agent to send it on the
development socket: a length of four bytes, the first one highest, and the sixteen
bytes of the UUID. How the bytes are cut into pieces on their way does not matter,
nor what comes after them.
-/

namespace Courier

/-- What comes in on a connection. Times are the milliseconds since what came before. -/
structure Stream where
  chunks : List (Nat × List UInt8)
  /-- When the other side closes, if it does. -/
  closes : Option Nat

/-- What waiting for some bytes ends with. -/
inductive Received where
  | bytes (bs : List UInt8)
  | timedOut
  | ended
  deriving DecidableEq, Repr

namespace Stream

/-- The first `wanted` bytes, if they come before the limit; `got` are those that came by `now`. -/
def receive (wanted limit : Nat) (closes : Option Nat) (now : Nat) (got : List UInt8) :
    List (Nat × List UInt8) → Received
  | [] =>
      if wanted ≤ got.length then .bytes (got.take wanted)
      else
        match closes with
        | some delay => if now + delay < limit then .ended else .timedOut
        | none => .timedOut
  | (delay, bs) :: rest =>
      if wanted ≤ got.length then .bytes (got.take wanted)
      else if now + delay < limit then
        receive wanted limit closes (now + delay) (got ++ bs) rest
      else .timedOut

/-- The first `wanted` bytes of the stream, if they come before the limit. -/
def first (s : Stream) (wanted limit : Nat) : Received :=
  receive wanted limit s.closes 0 [] s.chunks

end Stream

namespace Handshake

/-- The bytes of a length and of a UUID. -/
def frameLength : Nat := 20

/-- The length that a frame declares. -/
def declaredLength : Nat := 16

/-- A number from four bytes, the first one highest. -/
def number (bs : List UInt8) : Nat := bs.foldl (fun n b => n * 256 + b.toNat) 0

/-- Four bytes of a number, the first one highest. -/
def numberBytes (n : Nat) : List UInt8 :=
  [UInt8.ofNat (n / 0x1000000), UInt8.ofNat (n / 0x10000), UInt8.ofNat (n / 0x100), UInt8.ofNat n]

/-- The frame that carries a UUID. -/
def frame (id : Uuid) : List UInt8 := numberBytes declaredLength ++ id.bytes

/-- Why a handshake is refused. -/
inductive Refusal where
  | badUuid (text : String) (flaw : Uuid.Flaw)
  /-- The limit in milliseconds. -/
  | timedOut (limit : Nat)
  | ended
  | badLength (declared : Nat)
  | otherSession
  deriving DecidableEq, Repr

/-- What the user is told of a refusal. -/
def Refusal.message : Refusal → String
  | .badUuid text flaw =>
      "Agent returned an invalid session UUID [" ++ text ++ "]: " ++ flaw.message
  | .timedOut limit =>
      "Timed out after " ++ toString (limit / 1000) ++ "s waiting for the Agent development " ++
        "socket handshake. Make sure the Agent is running and that no firewall or proxy " ++
        "blocks the socket port"
  | .ended => "Agent closed the development socket during handshake: early eof"
  | .badLength declared =>
      "Unexpected development socket handshake length " ++ toString declared
  | .otherSession =>
      "Development socket handshake does not match the started session. " ++
        "Another SDK process may be connected to this Agent"

/-- Checks a frame against the UUID that is expected. -/
def checkFrame (expected : Uuid) (bs : List UInt8) : Except Refusal Unit :=
  let declared := number (bs.take 4)
  if declared ≠ declaredLength then .error (.badLength declared)
  else if bs.drop 4 = expected.bytes then .ok ()
  else .error .otherSession

/-- The UUID that a text lets expect. -/
def expect (text : String) : Except Refusal Uuid :=
  match Uuid.parse text with
  | .ok id => .ok id
  | .error flaw => .error (.badUuid text flaw)

/-- Checks what comes in against the UUID that is expected. -/
def check (id : Uuid) (limit : Nat) (s : Stream) : Except Refusal Unit :=
  match s.first frameLength limit with
  | .timedOut => .error (.timedOut limit)
  | .ended => .error .ended
  | .bytes bs => checkFrame id bs

/-- Checks what comes in against the text of the UUID that is expected. -/
def validate (expected : String) (limit : Nat) (s : Stream) : Except Refusal Unit :=
  match expect expected with
  | .ok id => check id limit s
  | .error refusal => .error refusal

end Handshake
end Courier
