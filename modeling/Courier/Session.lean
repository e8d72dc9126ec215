import Courier.Config

/-!
# Sessions

A development session with the Agent: what is asked for, what comes back, and
what is kept of it.
-/

namespace Courier

/-- The protocol the driver of a session speaks. -/
inductive Dialect where
  | w3c
  | oss
  deriving DecidableEq, Repr

namespace Dialect

/-- The name of a dialect. -/
def name : Dialect → String
  | .w3c => "W3C"
  | .oss => "OSS"

/-- A dialect is written as its name. -/
def encode (d : Dialect) : Json := .str d.name

/-- Reads a dialect by its name. -/
def decode : Json → Decoded Dialect :=
  Decoding.choice ([Dialect.w3c, Dialect.oss].map fun d => (d.name, d))

/-- The dialect the Agent names; any other word, and none, is the older one. -/
def ofAgent : Option String → Dialect
  | some "W3C" => .w3c
  | _ => .oss

/-- The dialect is the one of the standard. -/
def isW3c : Dialect → Bool
  | .w3c => true
  | .oss => false

end Dialect

/-- A session as the driver needs to know it. -/
structure Session where
  remoteAddress : Option String
  id : String
  dialect : Dialect
  capabilities : Object

namespace Session

/-- A capability that is a text. -/
def capability? (s : Session) (name : String) : Option String :=
  (s.capabilities.get? name).bind Json.asString?

end Session

/-- What a client sends to start a session. -/
structure SessionRequest where
  identity : ReportIdentity
  capabilities : Object
  sdkVersion : String
  language : String

namespace SessionRequest

/-- The request for a session with this configuration. -/
def ofConfig (c : Config) (capabilities : Object) (identity : ReportIdentity) : SessionRequest :=
  ⟨identity, capabilities, c.sdkVersion, c.language⟩

/-- A request for a session as it is written. -/
def encode (r : SessionRequest) : Json :=
  .object
    [("projectName", Json.orNull .str r.identity.project),
     ("jobName", Json.orNull .str r.identity.job),
     ("capabilities", .obj r.capabilities),
     ("sdkVersion", .str r.sdkVersion),
     ("language", .str r.language),
     ("reportType", r.identity.destination.encode),
     ("reportName", Json.orNull .str r.identity.name),
     ("reportPath", Json.orNull .str r.identity.path)]

end SessionRequest

/-- What the Agent answers. -/
structure SessionAnswer where
  /-- The port of the development socket. -/
  socketPort : Nat
  serverAddress : Option String
  sessionId : Option String
  dialect : Option String
  capabilities : Option Object
  version : Option String
  localReport : Option String
  localReportUrl : Option String
  uuid : Option String
  warnings : Option (List String)

namespace SessionAnswer

open Decoding in
/-- Reads the answer to a request for a session. -/
def decode : Json → Decoded SessionAnswer :=
  let shape : Shape := ⟨"SessionResponse", 10⟩
  let socketPort := required "devSocketPort" word16
  let serverAddress := maybe "serverAddress" string
  let sessionId := maybe "sessionId" string
  let dialect := maybe "dialect" string
  let capabilities := defaulted "capabilities" (optional object) none
  let version := maybe "version" string
  let localReport := maybe "localReport" string
  let localReportUrl := maybe "localReportUrl" string
  let uuid := maybe "uuid" string
  let warnings := maybe "warnings" (list string)
  record shape
    [socketPort.check, serverAddress.check, sessionId.check, dialect.check, capabilities.check,
     version.check, localReport.check, localReportUrl.check, uuid.check,
     warnings.check] fun src => do
    return {
      socketPort := ← src.take shape 0 socketPort
      serverAddress := ← src.take shape 1 serverAddress
      sessionId := ← src.take shape 2 sessionId
      dialect := ← src.take shape 3 dialect
      capabilities := ← src.take shape 4 capabilities
      version := ← src.take shape 5 version
      localReport := ← src.take shape 6 localReport
      localReportUrl := ← src.take shape 7 localReportUrl
      uuid := ← src.take shape 8 uuid
      warnings := ← src.take shape 9 warnings }

/-- The session of an answer; `fresh` is its id if the Agent gave none. -/
def session (a : SessionAnswer) (fresh : String) : Session where
  remoteAddress := a.serverAddress
  id := a.sessionId.getD fresh
  dialect := .ofAgent a.dialect
  capabilities := a.capabilities.getD []

end SessionAnswer
end Courier
