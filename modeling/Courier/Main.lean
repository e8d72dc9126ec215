import Courier.Agent.HttpMessage
import Courier.Agent.Replay
import Courier.Cli.Program
import Std.Async.DNS
import Std.Async.TCP
import Std.Async.Timer

/-!
# The executable

The program is run on what is known of the network, which at first is nothing.
When it asks for more, the question is put to the real network and the program is
run again with the answer, until it has no more questions.
-/

namespace Courier.Cli

open Std.Async Std.Net

/-- The connections that are open, by host and port. -/
abbrev Connections := List ((String × Nat) × TCP.Socket.Client)

/-- The address of a host and a port. -/
def address (host : String) (port : Nat) : Async SocketAddress := do
  let port := UInt16.ofNat port
  let found : Array IPAddr ← match IPv4Addr.ofString host with
    | some a => pure #[.v4 a]
    | none => DNS.getAddrInfo host (toString port)
  match found.toList with
  | .v4 a :: _ => return .v4 ⟨a, port⟩
  | .v6 a :: _ => return .v6 ⟨a, port⟩
  | [] => throw (.userError "no address")

/-- Opens a connection to a host and a port. -/
def dial (host : String) (port : Nat) : Async TCP.Socket.Client := do
  let client ← TCP.Socket.Client.mk
  client.connect (← address host port)
  return client

/-- Everything that comes until the other side closes. -/
partial def drain (client : TCP.Socket.Client) (got : ByteArray) : Async ByteArray := do
  match ← client.recv? 65536 with
  | some more => drain client (got ++ more)
  | none => return got

/-- What comes before the limit, as far as a handshake goes; `heard` is what came so far. -/
partial def hear (client : TCP.Socket.Client) (limit last : Nat) (heard : List (Nat × List UInt8)) :
    Async Stream := do
  let now ← IO.monoMsNow
  let enough := Handshake.frameLength ≤ (heard.flatMap Prod.snd).length
  if enough || limit ≤ now then return ⟨heard, none⟩
  let pause ← Selector.sleep (.ofNat (limit - now))
  let received ← Selectable.one #[
    .case (client.recvSelector 64) fun bytes => return some bytes,
    .case pause fun _ => return none]
  let later ← IO.monoMsNow
  match received with
  | some (some bytes) => hear client limit later (heard ++ [(later - last, bytes.toList)])
  | some none => return ⟨heard, some (later - last)⟩
  | none => return ⟨heard, none⟩

/-- Puts a request to whoever it is for. -/
def fetch (r : HttpRequest) : IO (Except TransportFault HttpAnswer) := do
  let fault := Network.noRoute r
  if r.url.scheme != "http" then return .error { fault with unreachable := false }
  let dialed ← (dial (r.url.hostText?.getD "") (r.url.port.getD 80)).block.toBaseIO
  match dialed with
  | .error _ => return .error fault
  | .ok client =>
      let exchanged ← (do
        client.send ⟨r.bytes.toArray⟩
        drain client .empty : Async ByteArray).block.toBaseIO
      match exchanged.toOption.bind fun bytes => HttpAnswer.ofBytes? bytes.toList with
      | some answer => return .ok answer
      | none => return .error { fault with unreachable := false }

/-- Puts a question to the real network. -/
def pose (q : Question) (open? : Connections) : IO (Known × Connections) := do
  match q with
  | .exchange r =>
      let started ← IO.monoMsNow
      let outcome ← fetch r
      return (.exchanged ⟨(← IO.monoMsNow) - started, outcome⟩, open?)
  | .connect host port =>
      match ← (dial host port).block.toBaseIO with
      | .ok client => return (.connected (.ok ()), ((host, port), client) :: open?)
      | .error e => return (.connected (.error (toString e)), open?)
  | .listen host port limit =>
      match open?.lookup (host, port) with
      | some client =>
          let now ← IO.monoMsNow
          return (.heard (← (hear client (now + limit) now []).block), open?)
      | none => return (.heard ⟨[], none⟩, open?)
  | .disconnect host port =>
      match open?.lookup (host, port) with
      | some client =>
          let closed ← client.shutdown.block.toBaseIO
          let result := match closed with
            | .ok () => .ok ()
            | .error e => .error (toString e)
          return (.disconnected result, open?.filter fun c => c.1 != (host, port))
      | none => return (.disconnected (.ok ()), open?)

/-- Runs the program until it has no more questions. -/
partial def play (run : Line Replay → Ending × Line Replay) (known : List Known)
    (open? : Connections) : IO (Ending × Line Replay) := do
  let (ending, line) := run (.fresh (.ofKnown known))
  match line.net.question with
  | none => return (ending, line)
  | some q =>
      let (answer, open?) ← pose q open?
      play run (known ++ [answer]) open?

/-- An identifier that nobody else has. -/
def randomId : IO String := do
  let bytes := (← IO.getRandomBytes 16).toList
  let marked := bytes.zipIdx.map fun (b, i) =>
    if i == 6 then (b &&& 0x0f) ||| 0x40 else if i == 8 then (b &&& 0x3f) ||| 0x80 else b
  return ((Uuid.ofBytes? marked).map Uuid.text).getD ""

/-- The variables that make up the environment of the program. -/
def variableNames : List String :=
  [Config.agentUrlVariable, Config.tokenVariable, Config.disableAutoReportingVariable,
   Config.updateJobNameVariable, Config.batchSizeVariable, Config.projectNameVariable,
   Config.jobNameVariable, Config.testNameVariable]

end Courier.Cli

open Courier Courier.Cli in
/-- Runs the program over the real network, and prints what there is to say. -/
def main (args : List String) : IO UInt32 := do
  let environment ← variableNames.mapM fun name => return (name, ← IO.getEnv name)
  let lookup : Environment := fun name => (environment.lookup name).join
  let id ← randomId
  let (ending, line) ← play (run (Replay.network fun _ => id) lookup args) [] []
  for entry in line.log ++ line.queueLog do
    if entry.level != .debug then IO.eprintln entry.line
  IO.print ending.out
  IO.eprint ending.err
  return UInt32.ofNat ending.exit
