import Courier.Decoding

/-!
# Report identity

Under which project, job and name the Agent files the reports of a session, and
where it produces them. Two clients that ask for the same identity may share one
session.
-/

namespace Courier

/-- Where the Agent produces a report. -/
inductive Destination where
  | cloud
  | onDisk
  | cloudAndOnDisk
  deriving DecidableEq, Repr

namespace Destination

/-- The destinations by the names they are written under. -/
def names : List (String × Destination) :=
  [("CLOUD", .cloud), ("LOCAL", .onDisk), ("CLOUD_AND_LOCAL", .cloudAndOnDisk)]

/-- The name of a destination. -/
def name : Destination → String
  | .cloud => "CLOUD"
  | .onDisk => "LOCAL"
  | .cloudAndOnDisk => "CLOUD_AND_LOCAL"

/-- A destination is written as its name. -/
def encode (d : Destination) : Json := .str d.name

/-- Reads a destination by its name. -/
def decode : Json → Decoded Destination := Decoding.choice names

end Destination

/-- Under which names reports are kept, and where. -/
structure ReportIdentity where
  project : Option String
  job : Option String
  destination : Destination
  name : Option String
  path : Option String
  deriving DecidableEq, Repr

namespace ReportIdentity

/-- No names, in the cloud and on disk. -/
def unnamed : ReportIdentity := ⟨none, none, .cloudAndOnDisk, none, none⟩

/-- The identity with these names and nothing else set. -/
def ofNames (project job : String) : ReportIdentity :=
  { unnamed with project := some project, job := some job }

/-- An identity as it is written; what is not set is null. -/
def encode (r : ReportIdentity) : Json :=
  .object
    [("projectName", Json.orNull .str r.project),
     ("jobName", Json.orNull .str r.job),
     ("reportType", r.destination.encode),
     ("reportName", Json.orNull .str r.name),
     ("reportPath", Json.orNull .str r.path)]

open Decoding in
/-- Reads an identity. -/
def decode : Json → Decoded ReportIdentity :=
  let shape : Shape := ⟨"ReportSettings", 5⟩
  let project := maybe "projectName" string
  let job := maybe "jobName" string
  let destination := required "reportType" Destination.decode
  let name := maybe "reportName" string
  let path := maybe "reportPath" string
  record shape [project.check, job.check, destination.check, name.check, path.check] fun src => do
    return {
      project := ← src.take shape 0 project
      job := ← src.take shape 1 job
      destination := ← src.take shape 2 destination
      name := ← src.take shape 3 name
      path := ← src.take shape 4 path }

end ReportIdentity
end Courier
