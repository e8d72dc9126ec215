import Courier.Failure
import Courier.Log
import Courier.Number.Word
import Courier.Report.Identity
import Courier.Text.Blank
import Courier.Text.Case

/-!
# Configuration

Where the Agent is, who asks, and how reports are named and batched. The values
come from the environment; what is missing there has a default. A blank token
counts as none, and whether a session may go on without one is a policy.
-/

namespace Courier

/-- What to do without a developer token. -/
inductive TokenPolicy where
  | failFast
  | allowMissing
  deriving DecidableEq, Repr

namespace TokenPolicy

/-- The policies by the names they are written under. -/
def names : List (String × TokenPolicy) :=
  [("FailFast", .failFast), ("AllowMissing", .allowMissing)]

/-- The name of a policy. -/
def name : TokenPolicy → String
  | .failFast => "FailFast"
  | .allowMissing => "AllowMissing"

/-- A policy is written as its name. -/
def encode (p : TokenPolicy) : Json := .str p.name

/-- Reads a policy by its name. -/
def decode : Json → Decoded TokenPolicy := Decoding.choice names

end TokenPolicy

/-- All that can be set from the outside. -/
structure Config where
  agentUrl : String
  token : Option String
  tokenPolicy : TokenPolicy
  disableAutoReporting : Bool
  updateJobName : Bool
  maxBatchSize : Nat
  projectName : Option String
  jobName : Option String
  testName : Option String
  /-- How long a stopping report queue is waited for, in milliseconds. -/
  queueTimeout : Nat
  /-- How long a handshake is waited for, in milliseconds. -/
  handshakeTimeout : Nat
  sdkVersion : String
  language : String
  deriving DecidableEq, Repr

/-- The variables of an environment that can be read. -/
abbrev Environment := String → Option String

namespace Config

/-- Where the Agent is unless said otherwise. -/
def defaultAgentUrl : String := "http://127.0.0.1:8585"

/-- How many reports there are in a batch at most unless said otherwise. -/
def defaultBatchSize : Nat := 10

/-- The name of a test that has none; no report is made for it. -/
def unnamedTest : String := "Unnamed Test"

/-- The configuration if nothing is set. -/
def default : Config where
  agentUrl := defaultAgentUrl
  token := none
  tokenPolicy := .failFast
  disableAutoReporting := false
  updateJobName := false
  maxBatchSize := defaultBatchSize
  projectName := none
  jobName := none
  testName := none
  queueTimeout := 10000
  handshakeTimeout := 15000
  sdkVersion := "0.1.0"
  language := "Rust"

/-! ## The environment -/

/-- The variable for the address of the Agent. -/
def agentUrlVariable : String := "TP_AGENT_URL"
/-- The variable for the developer token. -/
def tokenVariable : String := "TP_DEV_TOKEN"
/-- The variable that turns automatic reports off. -/
def disableAutoReportingVariable : String := "TP_DISABLE_AUTO_REPORTING"
/-- The variable for updating the name of the job. -/
def updateJobNameVariable : String := "TP_UPDATE_JOB_NAME"
/-- The variable for the size of batches. -/
def batchSizeVariable : String := "TP_MAX_REPORTS_BATCH_SIZE"
/-- The variable for the name of the project. -/
def projectNameVariable : String := "TP_PROJECT_NAME"
/-- The variable for the name of the job. -/
def jobNameVariable : String := "TP_JOB_NAME"
/-- The variable for the name of the first test. -/
def testNameVariable : String := "TP_TEST_NAME"

/-- A name of this machine that may stand for several addresses. -/
def localhost : List Char := "localhost".toList

/-- The address of this machine that is put in its place. -/
def loopback : List Char := "127.0.0.1".toList

/-- Replaces each occurrence of a word, from left to right and without overlap; the
next `skip` characters belong to an occurrence that has been replaced. -/
def replaceAfter (word replacement : List Char) : Nat → List Char → List Char
  | _, [] => []
  | skip + 1, _ :: rest => replaceAfter word replacement skip rest
  | 0, c :: rest =>
      if word.isPrefixOf (c :: rest) then
        replacement ++ replaceAfter word replacement (word.length - 1) rest
      else c :: replaceAfter word replacement 0 rest

/-- Replaces each occurrence of a word, from left to right and without overlap. -/
def replaceWord (word replacement cs : List Char) : List Char := replaceAfter word replacement 0 cs

/-- Words that switch a flag on. -/
def affirmative : List String := ["1", "true", "yes", "y", "on", "t"]

/-- A flag is on for an affirmative word, whatever its case and the blanks around it. -/
def flag (value : String) : Bool :=
  affirmative.contains (Text.lower (Text.trim value))

/-- A positive number of 64 bits, with blanks around it and a plus before it allowed. -/
def batchSize? (value : String) : Option Nat :=
  let digits := match (Text.trim value).toList with
    | '+' :: rest => rest
    | cs => cs
  (Text.decimalValue? digits).filter fun n => 0 < n && n < wordBound

/-- The token, unless there is nothing but blanks in it. -/
def tokenOf (value : Option String) : Option String :=
  value.filter fun t => !(Text.trim t).isEmpty

/-- The configuration an environment asks for, and what there is to say about it. -/
def ofEnvironment (lookup : Environment) : Config × List Log.Entry :=
  let agentUrl := match lookup agentUrlVariable with
    | some address => String.ofList (replaceWord localhost loopback address.toList)
    | none => defaultAgentUrl
  let unset :=
    if (lookup agentUrlVariable).isNone then
      [Log.info ("No Agent service address found in " ++ agentUrlVariable ++
        " environment variable, defaulting to " ++ defaultAgentUrl)]
    else []
  let size := (lookup batchSizeVariable).bind batchSize?
  let refused :=
    if (lookup batchSizeVariable).isSome && size.isNone then
      [Log.warn ("The environment variable " ++ batchSizeVariable ++
        " value must be a positive integer, using " ++ toString defaultBatchSize)]
    else []
  let config : Config :=
    { default with
      agentUrl
      token := tokenOf (lookup tokenVariable)
      disableAutoReporting := ((lookup disableAutoReportingVariable).map flag).getD false
      updateJobName := ((lookup updateJobNameVariable).map flag).getD false
      maxBatchSize := size.getD defaultBatchSize
      projectName := lookup projectNameVariable
      jobName := lookup jobNameVariable
      testName := lookup testNameVariable }
  (config,
    unset ++ [Log.info ("Using " ++ agentUrl ++ " as the Agent URL")] ++ refused ++
      [Log.info ("The maximum reports batch size is defined as " ++ toString config.maxBatchSize)])

/-! ## What follows from a configuration -/

/-- The token to use; without one the policy decides. -/
def developerToken (c : Config) : Except Failure (Option String) :=
  match c.token, c.tokenPolicy with
  | some token, _ => .ok (some token)
  | none, .allowMissing => .ok none
  | none, .failFast =>
      .error (.general ("No development token defined in " ++ tokenVariable ++
        " environment variable"))

/-- The identity of reports that the configuration asks for. -/
def reportIdentity (c : Config) : ReportIdentity :=
  { ReportIdentity.unnamed with project := c.projectName, job := c.jobName }

/-- The name of the first test, or the one for tests without a name. -/
def initialTestName (c : Config) : String := c.testName.getD unnamedTest

/-! ## Written form -/

/-- A configuration as it is written, with all of its fields. -/
def encode (c : Config) : Json :=
  .object
    [("agent_url", .str c.agentUrl),
     ("token", Json.orNull .str c.token),
     ("token_policy", c.tokenPolicy.encode),
     ("disable_auto_reporting", .bool c.disableAutoReporting),
     ("update_job_name", .bool c.updateJobName),
     ("max_batch_size", .ofNat c.maxBatchSize),
     ("project_name", Json.orNull .str c.projectName),
     ("job_name", Json.orNull .str c.jobName),
     ("test_name", Json.orNull .str c.testName),
     ("reports_queue_timeout_ms", .ofNat c.queueTimeout),
     ("socket_handshake_timeout_ms", .ofNat c.handshakeTimeout),
     ("sdk_version", .str c.sdkVersion),
     ("language", .str c.language)]

open Decoding in
/-- Reads a configuration. -/
def decode : Json → Decoded Config :=
  let shape : Shape := ⟨"SdkConfig", 13⟩
  let agentUrl := required "agent_url" string
  let token := maybe "token" string
  let tokenPolicy := required "token_policy" TokenPolicy.decode
  let disableAutoReporting := required "disable_auto_reporting" bool
  let updateJobName := required "update_job_name" bool
  let maxBatchSize := required "max_batch_size" size
  let projectName := maybe "project_name" string
  let jobName := maybe "job_name" string
  let testName := maybe "test_name" string
  let queueTimeout := required "reports_queue_timeout_ms" word64
  let handshakeTimeout := required "socket_handshake_timeout_ms" word64
  let sdkVersion := required "sdk_version" string
  let language := required "language" string
  record shape
    [agentUrl.check, token.check, tokenPolicy.check, disableAutoReporting.check,
     updateJobName.check, maxBatchSize.check, projectName.check, jobName.check, testName.check,
     queueTimeout.check, handshakeTimeout.check, sdkVersion.check, language.check] fun src => do
    return {
      agentUrl := ← src.take shape 0 agentUrl
      token := ← src.take shape 1 token
      tokenPolicy := ← src.take shape 2 tokenPolicy
      disableAutoReporting := ← src.take shape 3 disableAutoReporting
      updateJobName := ← src.take shape 4 updateJobName
      maxBatchSize := ← src.take shape 5 maxBatchSize
      projectName := ← src.take shape 6 projectName
      jobName := ← src.take shape 7 jobName
      testName := ← src.take shape 8 testName
      queueTimeout := ← src.take shape 9 queueTimeout
      handshakeTimeout := ← src.take shape 10 handshakeTimeout
      sdkVersion := ← src.take shape 11 sdkVersion
      language := ← src.take shape 12 language }

end Config
end Courier
