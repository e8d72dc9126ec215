import Courier.Command
import Courier.Locator

/-!
# Reports

What the Agent is told about a run: driver commands, steps and tests. A field that
is absent is left out of the written form and never written as null, so that
absence, an empty text and an empty object stay apart; the tag `type` keeps the
three kinds apart inside one batch.
-/

namespace Courier

/-- The kinds of report. -/
inductive ReportKind where
  | command
  | step
  | test
  deriving DecidableEq, Repr

namespace ReportKind

/-- The name of a kind in reports. -/
def name : ReportKind → String
  | .command => "Command"
  | .step => "Step"
  | .test => "Test"

/-- Every kind of report. -/
def all : List ReportKind := [.command, .step, .test]

/-- A kind is written as its name. -/
def encode (k : ReportKind) : Json := .str k.name

/-- Reads a kind by its name. -/
def decode : Json → Decoded ReportKind := Decoding.choice (all.map fun k => (k.name, k))

end ReportKind

/-- A member for a value that is there. -/
def present {α : Type} (name : String) (write : α → Json) : Option α → List (String × Json)
  | some a => [(name, write a)]
  | none => []

/-- The report of a command that was executed. -/
structure CommandReport where
  command : Command
  params : Json
  result : Json
  passed : Bool
  message : Option String
  screenshot : Option String

/-- The report of a step, whoever told it. -/
structure StepReport where
  guid : String
  description : String
  message : String
  passed : Bool
  screenshot : Option String
  element : Option SearchCriteria
  inputs : Option Object
  outputs : Option Object

/-- The report of a test. -/
structure TestReport where
  name : String
  passed : Bool
  message : Option String

/-- A report, of whatever kind. -/
inductive Report where
  | command (r : CommandReport)
  | step (r : StepReport)
  | test (r : TestReport)

namespace CommandReport

/-- The report of a command as it is written. -/
def encode (r : CommandReport) : Json :=
  .object <|
    [("commandName", .str r.command.name), ("commandParameters", r.params), ("result", r.result),
     ("passed", .bool r.passed)] ++
      present "message" .str r.message ++ present "screenshot" .str r.screenshot ++
      [("type", ReportKind.command.encode)]

end CommandReport

namespace StepReport

/-- The report of a step as it is written. -/
def encode (r : StepReport) : Json :=
  .object <|
    [("guid", .str r.guid), ("description", .str r.description), ("message", .str r.message),
     ("passed", .bool r.passed)] ++
      present "screenshot" .str r.screenshot ++
      present "element" SearchCriteria.encode r.element ++
      present "inputParameters" .obj r.inputs ++ present "outputParameters" .obj r.outputs ++
      [("type", ReportKind.step.encode)]

end StepReport

namespace TestReport

/-- The report of a test as it is written. -/
def encode (r : TestReport) : Json :=
  .object <|
    [("name", .str r.name), ("passed", .bool r.passed)] ++ present "message" .str r.message ++
      [("type", ReportKind.test.encode)]

end TestReport

namespace Report

/-- The kind of a report. -/
def kind : Report → ReportKind
  | .command _ => .command
  | .step _ => .step
  | .test _ => .test

/-- A report as it is written, with its kind in it. -/
def encode : Report → Json
  | .command r => r.encode
  | .step r => r.encode
  | .test r => r.encode

end Report
end Courier
