import Courier.Report.Basic

/-!
# Endpoints of the Agent
-/

namespace Courier

/-- What the Agent can be asked for under an address of its own. -/
inductive Endpoint where
  | session
  | codeblocks
  | commandReport
  | stepReport
  | testReport
  | batchReport
  | addons
  | status
  deriving DecidableEq, Repr

namespace Endpoint

/-- The path of an endpoint below the address of the Agent. -/
def path : Endpoint → String
  | .session => "/api/development/session"
  | .codeblocks => "/api/codeblocks/executions/"
  | .commandReport => "/api/development/report/command"
  | .stepReport => "/api/development/report/step"
  | .testReport => "/api/development/report/test"
  | .batchReport => "/api/development/report/batch"
  | .addons => "/api/addons/executions"
  | .status => "/api/status"

/-- Where reports of a kind go when they go one by one. -/
def ofReport : ReportKind → Endpoint
  | .command => .commandReport
  | .step => .stepReport
  | .test => .testReport

end Endpoint
end Courier
