import Courier.Action
import Courier.Report.Basic
import Courier.Session
import Courier.Step.Policy
import Courier.Timer

/-!
# The runner

A runner passes commands on to a driver and tells the Agent about them. What it
remembers is a value, and so are its surroundings: the driver and the Agent are
functions on a state of their own, so that a run is determined by both.

Everything that can be observed of a run is an event, in the order it happened.
A report is first built. It then leaves for the Agent, or is put aside and later
leaves, gives way to another, or is thrown away. The trace tells which of these it
was: it has the moments when reports were built, in a wait or not, those when what
was put aside had its turn, and those when what all this goes by was changed.
-/

namespace Courier

/-- What is held back from the reports, and whether secrets are left in them. -/
structure Switches where
  disableReports : Bool
  disableAutoTestReports : Bool
  disableCommandReports : Bool
  disableRedaction : Bool
  deriving DecidableEq, Repr

/-- Commands are reported. -/
def Switches.reportsCommands (s : Switches) : Bool :=
  !s.disableReports && !s.disableCommandReports

/-- What the steps of the moment go by. -/
structure StepContext where
  policy : StepPolicy
  /-- The steps are rounds of a wait. -/
  polling : Bool
  deriving DecidableEq, Repr

/-- A scope that is open, and the context to go back to when it is left. -/
structure Scope where
  name : String
  outer : StepContext
  deriving DecidableEq, Repr

/-- Why a command goes to the driver. -/
inductive Purpose where
  /-- It was asked for. -/
  | request
  /-- It sets the implicit wait of the step. -/
  | timing
  /-- It asks whether a field holds a secret. -/
  | secrecy
  /-- It takes the picture for a report. -/
  | picture
  deriving DecidableEq, Repr

/-- What happens in a run and can be seen from the outside. -/
inductive Event where
  | called (purpose : Purpose) (command : Command) (params : Json)
  | slept (ms : Nat)
  /-- The report was put together, in a round of a wait or not. -/
  | built (r : Report) (polled : Bool)
  /-- What was put aside, if anything, had its turn; commands were reported then or not. -/
  | flushed (allowed : Bool)
  /-- The report left for the Agent. -/
  | reported (r : Report)
  /-- From here on steps and reports go by these. -/
  | adjusted (s : Switches) (c : StepContext)
  | ranAction (a : AddonAction)
  | ranCodeblock (guid : String) (body : Json)
  | noted (e : Log.Entry)

/-- The state of a runner in surroundings with the state `ω`. -/
structure Runner (ω : Type) where
  switches : Switches
  /-- The command report put aside while polling. -/
  stash : Option CommandReport
  latestTest : String
  currentTest : String
  excludedTests : List String
  context : StepContext
  /-- The open scopes, the oldest first. -/
  scopes : List Scope
  /-- Milliseconds. -/
  clock : Nat
  /-- How many identifiers have been made. -/
  made : Nat
  trace : List Event
  world : ω

/-- An answer from the Agent, and what there is to say about it. -/
structure Reply (α : Type) where
  answer : Except Failure α
  notes : List Log.Entry

/-- What a runner works with. -/
structure Surroundings (ω : Type) where
  session : Session
  drive : Command → Json → ω → Except Failure Response × ω
  report : Report → ω → ω
  runAction : AddonAction → ω → Reply AddonAnswer × ω
  runCodeblock : String → Json → ω → Reply CodeblockAnswer × ω
  /-- The identifiers for steps. -/
  guid : Nat → String

/-- What a runner does in its surroundings. -/
abbrev Run (ω : Type) := ReaderT (Surroundings ω) (StateM (Runner ω))

namespace Runner

variable {ω : Type}

/-- A runner at the start of a run. -/
def ofConfig (c : Config) (world : ω) : Runner ω where
  switches := ⟨false, c.disableAutoReporting, c.disableAutoReporting, false⟩
  stash := none
  latestTest := c.initialTestName
  currentTest := c.initialTestName
  excludedTests := []
  context := ⟨.standard, false⟩
  scopes := []
  clock := 0
  made := 0
  trace := []
  world

end Runner

namespace Run

variable {ω : Type}

/-! ## What a run is made of -/

/-- Adds an event to the trace. -/
def emit (e : Event) : Run ω Unit := modify fun r => { r with trace := r.trace ++ [e] }

/-- Adds a line to the log. -/
def note (e : Log.Entry) : Run ω Unit := emit (.noted e)

/-- Lets time pass, as long as a sleep takes. -/
def sleep (ms : Nat) : Run ω Unit := do
  emit (.slept (timer ms))
  modify fun r => { r with clock := r.clock + timer ms }

/-- Has the driver execute a command. -/
def drive (purpose : Purpose) (command : Command) (params : Json) :
    Run ω (Except Failure Response) := do
  emit (.called purpose command params)
  let surroundings ← read
  modifyGet fun r =>
    let (answer, world) := surroundings.drive command params r.world
    (answer, { r with world })

/-- Sends a report to the Agent. -/
def deliver (report : Report) : Run ω Unit := do
  emit (.reported report)
  let surroundings ← read
  modify fun r => { r with world := surroundings.report report r.world }

/-- Asks the Agent for something, and notes what there is to say about the answer. -/
def ask {α : Type} (e : Event) (call : Surroundings ω → ω → Reply α × ω) :
    Run ω (Except Failure α) := do
  emit e
  let surroundings ← read
  let reply ← modifyGet fun r =>
    let (reply, world) := call surroundings r.world
    (reply, { r with world })
  reply.notes.forM note
  return reply.answer

/-- Has the Agent run an addon action. -/
def callAction (a : AddonAction) : Run ω (Except Failure AddonAnswer) :=
  ask (.ranAction a) fun surroundings => surroundings.runAction a

/-- Has the Agent run a codeblock. -/
def callCodeblock (guid : String) (body : Json) : Run ω (Except Failure CodeblockAnswer) :=
  ask (.ranCodeblock guid body) fun surroundings => surroundings.runCodeblock guid body

/-- An identifier that has not been used. -/
def newGuid : Run ω String := do
  let surroundings ← read
  modifyGet fun r => (surroundings.guid r.made, { r with made := r.made + 1 })

/-- The policy in force. -/
def policy : Run ω StepPolicy := return (← get).context.policy

/-- The switches as they are now. -/
def switches : Run ω Switches := return (← get).switches

/-- Notes that a report is put together. -/
def build (report : Report) : Run ω Unit := do emit (.built report (← get).context.polling)

/-! ## Adjusting a runner -/

/-- Changes what steps and reports go by. -/
def adjust (change : Runner ω → Runner ω) : Run ω Unit := do
  modify change
  let r ← get
  emit (.adjusted r.switches r.context)

/-- Changes the switches. -/
def setSwitches (change : Switches → Switches) : Run ω Unit :=
  adjust fun r => { r with switches := change r.switches }

/-- Names the test that is running, to be noticed by the next step. -/
def setCurrentTest (name : String) : Run ω Unit := modify fun r => { r with currentTest := name }

/-- Tests of these names are not reported by themselves. -/
def excludeTests (names : List String) : Run ω Unit :=
  modify fun r => { r with excludedTests := names }

end Run
end Courier
