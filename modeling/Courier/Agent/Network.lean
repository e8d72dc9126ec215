import Courier.Agent.Handshake
import Courier.Agent.Http
import Courier.Log

/-!
# The network

The network is a function: it answers a request, or the opening of a connection,
by its own state. What is said over it is kept in the order it happened.
-/

namespace Courier

/-- What comes of a request, and after how many milliseconds. -/
structure Exchange where
  delay : Nat
  outcome : Except TransportFault HttpAnswer

/-- What there is at the other end; `ω` is its state. -/
structure Network (ω : Type) where
  exchange : HttpRequest → ω → Exchange × ω
  /-- Opens a connection to a host and a port, or says why there is none. -/
  connect : String → Nat → ω → Except String Unit × ω
  /-- What comes in on a connection before a limit in milliseconds. -/
  listen : String → Nat → Nat → ω → Stream × ω
  disconnect : String → Nat → ω → Except String Unit × ω
  /-- Identifiers for sessions that come without one. -/
  newId : Nat → String

/-- What happens on the network. -/
inductive Transmission where
  | requested (r : HttpRequest)
  | connected (host : String) (port : Nat)
  | disconnected (host : String) (port : Nat)

/-- A network in use. -/
structure Line (ω : Type) where
  net : ω
  /-- Milliseconds. -/
  now : Nat
  /-- How many identifiers have been made. -/
  made : Nat
  wire : List Transmission
  log : List Log.Entry
  /-- What the report queues have to say. -/
  queueLog : List Log.Entry

/-- What is done over a network, until something fails. -/
abbrev Talk (ω : Type) := ExceptT Failure (ReaderT (Network ω) (StateM (Line ω)))

namespace Network

variable {ω : Type}

/-- The failure of a request that reaches nobody. -/
def noRoute (r : HttpRequest) : TransportFault :=
  ⟨"error sending request for url (" ++ r.url.text ++ ")", true⟩

/-- A network on which nobody can be reached. -/
def unreachable (newId : Nat → String) : Network ω where
  exchange := fun r net => (⟨0, .error (noRoute r)⟩, net)
  connect := fun _ _ net => (.error "Network is unreachable (os error 101)", net)
  listen := fun _ _ _ net => (⟨[], none⟩, net)
  disconnect := fun _ _ net => (.ok (), net)
  newId

end Network

namespace Line

variable {ω : Type}

/-- A network that has not been used. -/
def fresh (net : ω) : Line ω := ⟨net, 0, 0, [], [], []⟩

/-- Adds a line to the log. -/
def note (l : Line ω) (e : Log.Entry) : Line ω := { l with log := l.log ++ [e] }

/-- Adds to what has gone over the wire. -/
def record (l : Line ω) (t : Transmission) : Line ω := { l with wire := l.wire ++ [t] }

/-- Sends a request; one that cannot be sent does not get onto the network. -/
def exchange (n : Network ω) (r : HttpRequest) (l : Line ω) : Exchange × Line ω :=
  if r.isSendable then
    let (e, net) := n.exchange r l.net
    (e, { l with net }.record (.requested r))
  else (⟨0, .error ⟨"builder error", false⟩⟩, l)

end Line

namespace Talk

variable {ω : Type}

/-- Adds a line to the log of the line. -/
def note (e : Log.Entry) : Talk ω Unit := modify (·.note e)

/-- Sends a request and waits for the answer. -/
def send (r : HttpRequest) : Talk ω HttpAnswer := do
  let n ← readThe (Network ω)
  let e ← modifyGet fun l =>
    let (e, l) := l.exchange n r
    (e, { l with now := l.now + e.delay })
  match e.outcome with
  | .ok answer => return answer
  | .error fault => throw (.http fault)

/-- Sends a request and reads what comes of it. -/
def operate (r : HttpRequest) : Talk ω OperationResult := do
  let answer ← send r
  match answer.text? with
  | .ok text => return .ofAnswer answer text
  | .error fault => throw (.http fault)

/-- Reads a URL. -/
def parseUrl (text : String) : Talk ω Url :=
  match Url.parse text with
  | .ok url => return url
  | .error e => throw (.url e)

/-- Reads a URL at another. -/
def resolve (base : Url) (path : String) : Talk ω Url :=
  match base.join path with
  | .ok url => return url
  | .error e => throw (.url e)

/-- Opens a connection. -/
def connect (host : String) (port : Nat) : Talk ω Unit := do
  let n ← readThe (Network ω)
  let opened ← modifyGet fun l =>
    let (opened, net) := n.connect host port l.net
    (opened, { l with net })
  match opened with
  | .ok () => modify (·.record (.connected host port))
  | .error text =>
      throw (.agentConnect ("Failed connecting to Agent socket " ++ host ++ ":" ++
        toString port ++ ": " ++ text))

/-- Hears what comes in on a connection before a limit. -/
def listen (host : String) (port limit : Nat) : Talk ω Stream := do
  let n ← readThe (Network ω)
  modifyGet fun l =>
    let (heard, net) := n.listen host port limit l.net
    (heard, { l with net })

/-- Closes a connection. -/
def disconnect (host : String) (port : Nat) : Talk ω (Except String Unit) := do
  let n ← readThe (Network ω)
  modifyGet fun l =>
    let (closed, net) := n.disconnect host port l.net
    (closed, { l with net }.record (.disconnected host port))

/-- An identifier that has not been given out. -/
def newId : Talk ω String := do
  let n ← readThe (Network ω)
  modifyGet fun l => (n.newId l.made, { l with made := l.made + 1 })

/-- Runs to the end, whatever comes of it. -/
def perform {α : Type} (t : Talk ω α) (n : Network ω) (l : Line ω) : Except Failure α × Line ω :=
  (t.run.run n).run l

end Talk
end Courier
