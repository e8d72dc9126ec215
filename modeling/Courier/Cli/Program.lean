import Courier.Agent.Client
import Courier.Agent.Status
import Courier.Cli.Help
import Courier.Text.Split

/-!
# The program

The command line probes an Agent: it prints its version, or opens a session and
lets go of it. A failure is told with the failures beneath it.
-/

namespace Courier.Cli

variable {ω : Type}

/-- How a run of the program ends. -/
structure Ending where
  exit : Nat
  out : String
  err : String
  deriving DecidableEq, Repr

/-- A number at the end of five places. -/
def place (n : Nat) : String :=
  let digits := toString n
  String.ofList (List.replicate (5 - digits.length) ' ') ++ digits

/-- A text with a mark before its first line and as much blank before the others. -/
def hang (mark : String) (text : String) : String :=
  let blank := String.ofList (List.replicate mark.length ' ')
  match Text.split '\n' text.toList with
  | first :: rest =>
      mark ++ String.ofList first ++
        String.join (rest.map fun line => "\n" ++ blank ++ String.ofList line)
  | [] => mark

/-- The failures beneath another, numbered if there are several. -/
def causesText (causes : List String) : String :=
  match causes with
  | [] => ""
  | [cause] => "\n\nCaused by:\n" ++ hang "    " cause
  | causes =>
      "\n\nCaused by:" ++ String.join (causes.zipIdx.map fun (cause, n) =>
        "\n" ++ hang (place n ++ ": ") cause)

/-- The end of a run with a failure and what lies beneath it. -/
def Ending.failed (text : String) (causes : List String) : Ending :=
  ⟨1, "", "Error: " ++ text ++ causesText causes ++ "\n"⟩

/-- The end of a run with a failure. -/
def Ending.ofFailure (e : Failure) : Ending := .failed e.message e.cause?.toList

/-- The end of a run with a failure in the course of something. -/
def Ending.ofFailureIn (what : String) (e : Failure) : Ending :=
  .failed what (e.message :: e.cause?.toList)

/-- Prints the version of the Agent. -/
def status (n : Network ω) (config : Config) (l : Line ω) : Ending × Line ω :=
  match (AgentStatus.request config config.token).perform n l with
  | (.error e, l) => (.ofFailure e, l)
  | (.ok status, l) =>
      match status.version with
      | .error e => (.ofFailureIn "Agent reported an unreadable version" e, l)
      | .ok version => (⟨0, version.tag ++ "\n", ""⟩, l)

/-- Opens a session and lets go of it. -/
def ping (n : Network ω) (config : Config) (project job : String) (l : Line ω) :
    Ending × Line ω :=
  match config.developerToken with
  | .error e => (.ofFailure e, l)
  | .ok token =>
      match (Client.start config token [] (.ofNames project job)).perform n l with
      | (.error e, l) => (.ofFailureIn "Failed to start a development session" e, l)
      | (.ok c, l) =>
          let l := l.note (Log.info ("Session " ++ c.session.id ++ " is up"))
          let (c, l) := c.stop n l
          let (_, l) := c.withLine n l c.closeSocket
          (⟨0, "", ""⟩, l)

/-- Runs the program. -/
def run (n : Network ω) (lookup : Environment) (args : List String) (l : Line ω) :
    Ending × Line ω :=
  match Arguments.read args with
  | .error (.help topic) => (⟨0, topic.text, ""⟩, l)
  | .error (.usage message) => (⟨2, "", "error: " ++ message ++ "\n"⟩, l)
  | .ok a =>
      let (config, notes) := Config.ofEnvironment lookup
      let l := notes.foldl Line.note l
      let config := match a.agentUrl with
        | some address => { config with agentUrl := address }
        | none => config
      match a.action with
      | .status => status n config l
      | .ping project job => ping n config project job l

end Courier.Cli
