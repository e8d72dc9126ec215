import Courier.Agent.Client
import Courier.Runner.Basic

/-!
# The registry

A process has one live session at most. Acquiring a client stops the one before
it first, so that its reports are delivered before the next session makes any, and
takes its session up again where that is allowed: the same reports are asked for,
and the Agent is new enough. Clients that were replaced are kept, stopped, since
somebody may still hold them.
-/

namespace Courier

/-- The clients there have been, and the line that they share. -/
structure Registry (ω : Type) where
  line : Line ω
  /-- All clients there have been, in the order they were started. -/
  clients : List Client
  /-- The place of the live one. -/
  current : Option Nat

namespace Registry

variable {ω : Type}

/-- No client on a network that has not been used. -/
def empty (net : ω) : Registry ω := ⟨.fresh net, [], none⟩

/-! ## A client by its place -/

/-- Changes a client, and the line with it. -/
def update (r : Registry ω) (i : Nat) (act : Client → Line ω → Client × Line ω) : Registry ω :=
  match r.clients[i]? with
  | some c =>
      let (c, line) := act c r.line
      { r with clients := r.clients.set i c, line }
  | none => r

/-- Does something over the line. -/
def talk {α : Type} (n : Network ω) (r : Registry ω) (act : Talk ω α) :
    Except Failure α × Registry ω :=
  let (a, line) := act.perform n r.line
  (a, { r with line })

/-- Keeps a client that has been started. -/
def add (r : Registry ω) (c : Client) : Nat × Registry ω :=
  (r.clients.length, { r with clients := r.clients ++ [c] })

/-- Gives a report to the queue of a client. -/
def submit (i : Nat) (report : Report) (r : Registry ω) : Registry ω :=
  r.update i fun c l => c.submit report l

/-- Waits until a client has nothing pending. -/
def flush (n : Network ω) (i : Nat) (r : Registry ω) : Registry ω :=
  r.update i fun c l => c.flush n l

/-- Waits until no client has a report pending. -/
def flushAll (n : Network ω) (r : Registry ω) : Registry ω :=
  (List.range r.clients.length).foldl (fun r i => r.flush n i) r

/-- Stops a client. -/
def stop (n : Network ω) (i : Nat) (r : Registry ω) : Registry ω :=
  r.update i fun c l => c.stop n l

/-- Closes the socket of a client. -/
def closeSocket (n : Network ω) (i : Nat) (r : Registry ω) : Registry ω :=
  r.update i fun c l => c.withLine n l c.closeSocket

/-- Takes a session up again. -/
def restartQueue (n : Network ω) (i : Nat) (r : Registry ω) : Except Failure Unit × Registry ω :=
  match r.clients[i]? with
  | none => (.ok (), r)
  | some c =>
      match r.talk n c.restartQueue with
      | (.ok c, r) => (.ok (), { r with clients := r.clients.set i c })
      | (.error e, r) => (.error e, r)

/-! ## The one live client -/

/-- Starts a session of its own. -/
def start (n : Network ω) (config : Config) (token : Option String) (capabilities : Object)
    (identity : ReportIdentity) (r : Registry ω) : Except Failure Nat × Registry ω :=
  match r.talk n (Client.start config token capabilities identity) with
  | (.ok c, r) =>
      let (i, r) := r.add c
      (.ok i, r)
  | (.error e, r) => (.error e, r)

/-- Starts a session and makes its client the live one. -/
def startCurrent (n : Network ω) (config : Config) (token : Option String)
    (capabilities : Object) (identity : ReportIdentity) (r : Registry ω) :
    Except Failure Nat × Registry ω :=
  match r.start n config token capabilities identity with
  | (.ok i, r) => (.ok i, { r with current := some i })
  | (.error e, r) => (.error e, r)

/-- A client whose session may be taken up again for these reports. -/
def mayReuse (c : Client) (identity : ReportIdentity) : Bool :=
  c.identity == identity && c.canReuse

/-- A client with a session for these reports: the live one, or else a new one. -/
def acquire (n : Network ω) (config : Config) (token : Option String) (capabilities : Object)
    (identity : ReportIdentity) (r : Registry ω) : Except Failure Nat × Registry ω :=
  match r.current with
  | none => r.startCurrent n config token capabilities identity
  | some i =>
      let r := { r with current := none }.stop n i
      if (r.clients[i]?).any (mayReuse · identity) then
        match r.restartQueue n i with
        | (.ok (), r) => (.ok i, { r with current := some i })
        | (.error e, r) => (.error e, r)
      else
        let line := r.line.note (Log.info "Report settings changed, starting a new Agent session")
        let r := { r with line }.closeSocket n i
        r.startCurrent n config token capabilities identity

/-- Stops the live client and lets go of its session. -/
def shutdown (n : Network ω) (r : Registry ω) : Registry ω :=
  match r.current with
  | some i => ({ r with current := none }.stop n i).closeSocket n i
  | none => r

/-! ## Running steps with a client -/

/-- A reply and what was said on the way to it. -/
def reply {α : Type} (n : Network ω) (r : Registry ω) (act : Talk ω α) : Reply α × Registry ω :=
  let (answer, after) := r.talk n act
  (⟨answer, after.line.log.drop r.line.log.length⟩,
    { after with line := { after.line with log := r.line.log } })

/-- What to answer in place of a client that is not there. -/
def noClient : Failure := .general "There is no client"

/-- The surroundings of a runner that reports through a client. -/
def surroundings (n : Network ω) (i : Nat) (session : Session)
    (respond : Command → Json → Except Failure Response) (guid : Nat → String) :
    Surroundings (Registry ω) where
  session
  drive := fun command params r => (respond command params, r)
  report := fun report r => r.submit i report
  runAction := fun a r =>
    match r.clients[i]? with
    | some c => r.reply n (c.runAction a)
    | none => (⟨.error noClient, []⟩, r)
  runCodeblock := fun guid body r =>
    match r.clients[i]? with
    | some c => r.reply n (c.runCodeblock guid body)
    | none => (⟨.error noClient, []⟩, r)
  guid

end Registry
end Courier
