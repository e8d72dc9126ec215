import Courier.Action
import Courier.Agent.Endpoint
import Courier.Agent.Socket
import Courier.Queue.Clock
import Courier.Report.Basic
import Courier.Session
import Courier.Version

/-!
# Clients

A client holds a session with the Agent: the socket that keeps it alive, and the
queue that its reports go through. Every answer to the start of a session is
either a session or a failure of one kind.
-/

namespace Courier

/-- A client: a session at an Agent, with the queue of its reports and its socket. -/
structure Client where
  config : Config
  baseUrl : Url
  token : Option String
  session : Session
  identity : ReportIdentity
  version : Version
  /-- Where the Agent leaves the report on disk. -/
  localReport : Option String
  socket : Socket
  dispatch : Dispatch
  /-- The queues before the one in use, the oldest first. -/
  retired : List Dispatch

namespace Client

variable {ω : Type}

/-- The reports of the client on their way. -/
def queue (c : Client) : Queue := c.dispatch.queue

/-- The session outlives a stop. -/
def canReuse (c : Client) : Bool := c.version.atLeast Version.sessionReuse

/-! ## Starting a session -/

/-- What an Agent means that answers the start of a session with this status, and what
there is to say about it. -/
def refusal (r : OperationResult) (c : Config) : Failure × List Log.Entry :=
  match r.status with
  | 401 =>
      (.invalidToken r.message,
        [Log.error ("Failed to initialize a session with the Agent - " ++
            "invalid developer token supplied"),
         Log.error ("Get your developer token from the Agent's SDK integration page " ++
            "and set it in the TP_DEV_TOKEN environment variable")])
  | 404 =>
      let own := ((r.field? "message").bind Json.asString?).filter fun m => !m.isEmpty
      (.sessionStart (own.getD "Failed to start a new session!"), [])
  | 406 =>
      (.obsoleteVersion r.message,
        [Log.error ("Failed to initialize a session with the Agent - obsolete SDK version " ++
            c.sdkVersion)])
  | status =>
      (.agentConnect ("Agent responded with HTTP status " ++ toString status ++ ": [" ++
          r.message ++ "]"),
        [Log.error "Failed to initialize a session with the Agent"])

/-- The session that an answer tells. -/
def readAnswer (r : OperationResult) : Except Failure SessionAnswer :=
  match r.data with
  | none =>
      .error (.general "Could not parse session response: no JSON response body present")
  | some data =>
      match SessionAnswer.decode data with
      | .ok answer => .ok answer
      | .error text => .error (.general ("Could not parse session response: " ++ text))

/-- The version that an Agent reports, and what there is to say about it. -/
def readVersion : Option String → Version × List Log.Entry
  | some tag =>
      match Version.parse tag with
      | .ok version => (version, [])
      | .error e => (.unknown, [Log.warn e.message])
  | none => (.unknown, [Log.warn "Agent did not report its version"])

/-- Reports on disk alone are asked of an Agent that cannot make them. -/
def asksTooMuch (identity : ReportIdentity) (version : Version) : Bool :=
  identity.destination == .onDisk && !version.atLeast Version.localReport

/-- The address of a report, at the host that the client talks to. -/
def reportAddress (address : String) (agent : Url) : String :=
  match Url.parse address with
  | .ok url =>
      match agent.hostText? with
      | some host => (url.withHost host).text
      | none => url.text
  | .error _ => address

/-- How reports are delivered to an Agent of this version. -/
def deliveryMode (config : Config) (base : Url) (version : Version) :
    Except Url.ParseError QueueMode :=
  if version.atLeast Version.batchReport then
    (base.join Endpoint.batchReport.path).map fun url => .ofLimit url config.maxBatchSize
  else .ok .single

/-- Settles how reports are delivered, and says so if it is in batches. -/
def queueMode (config : Config) (base : Url) (version : Version) : Talk ω QueueMode := do
  if version.atLeast Version.batchReport then
    Talk.note (Log.debug ("Agent supports batch reports, batch size " ++
      toString config.maxBatchSize))
  match deliveryMode config base version with
  | .ok mode => return mode
  | .error e => throw (.url e)

/-- Begins a report queue. -/
def startQueue (config : Config) (base : Url) (token : Option String) (version : Version) :
    Talk ω Dispatch := do
  let queue := Queue.start (← queueMode config base version) token
  modify fun l => { l with queueLog := l.queueLog ++ queue.log }
  return .ofQueue queue

/-- Sends the request for a session. -/
def requestSession (config : Config) (base : Url) (token : Option String)
    (capabilities : Object) (identity : ReportIdentity) : Talk ω OperationResult := do
  let body := (SessionRequest.ofConfig config capabilities identity).encode
  let url ← Talk.resolve base Endpoint.session.path
  tryCatch (Talk.operate ⟨.post, url, token, some body⟩) fun e => do
    if e.isConnectionFailure then
      Talk.note (Log.error
        "Could not reach the Agent. Please make sure that it is running and try again")
      throw (.agentConnect ("Connection error trying to connect to Agent on " ++ base.text))
    else throw e

/-- The session that the Agent grants. -/
def grant (config : Config) (r : OperationResult) : Talk ω SessionAnswer := do
  if !r.passed then
    let (failure, notes) := refusal r config
    notes.forM Talk.note
    throw failure
  match readAnswer r with
  | .ok answer =>
      (answer.warnings.getD []).forM fun w => Talk.note (Log.warn ("Agent warning: " ++ w))
      return answer
  | .error e => throw e

/-- The version of the Agent, if it can do what is asked of it. -/
def checkVersion (identity : ReportIdentity) (tag : Option String) : Talk ω Version := do
  let (version, notes) := readVersion tag
  notes.forM Talk.note
  Talk.note (Log.info ("Agent version: " ++ version.tag))
  if asksTooMuch identity version then
    Talk.note (Log.error ("Local reports are not supported by Agent version " ++ version.tag ++
      ", upgrade to " ++ Version.localReport ++ " or newer"))
    throw (.obsoleteVersion ("Target Agent version [" ++ version.tag ++
      "] doesn't support local reports. Upgrade the Agent to the latest version and try again."))
  return version

/-- Starts a session. -/
def start (config : Config) (token : Option String) (capabilities : Object)
    (identity : ReportIdentity) : Talk ω Client := do
  let base ← Talk.parseUrl config.agentUrl
  Talk.note (Log.info ("Initializing new session with the Agent at " ++ base.text))
  let answer ← grant config (← requestSession config base token capabilities identity)
  let version ← checkVersion identity answer.version
  if let some address := answer.localReportUrl then
    Talk.note (Log.info ("Execution report will be available at " ++ reportAddress address base))
  match base.hostText? with
  | none => throw (.general ("Agent URL " ++ base.text ++ " has no host"))
  | some host =>
      let socket ← Socket.connect host answer.socketPort answer.uuid config.handshakeTimeout
      let session := answer.session (← Talk.newId)
      let dispatch ← startQueue config base token version
      Talk.note (Log.info "Session initialized")
      return {
        config, token, session, identity, version, socket, dispatch
        baseUrl := base, localReport := answer.localReport, retired := [] }

/-! ## Requests -/

/-- Sends a request under the session. -/
def sendRequest (c : Client) (method : HttpMethod) (path : String) (body : Option Json)
    (query : List (String × String)) : Talk ω OperationResult := do
  if !method.isSupported then
    throw (.general ("Unsupported HTTP method " ++ method.name))
  let url ← Talk.resolve c.baseUrl path
  Talk.operate ⟨method, url.appendQuery query, c.token, body⟩

/-- The fields of an answer to an addon action. -/
def readFields (data : Json) : Decoded (List ResultField) :=
  match data.get? "fields" with
  | some (.arr items) => items.mapM ResultField.decode
  | _ => .ok []

/-- What the verdict of an answer is. -/
def readVerdict (data : Json) : Verdict :=
  .ofAgent ((data.get? "resultType").bind Json.asString?)

/-- What the result of an addon request comes to. -/
def readAddonAnswer (a : AddonAction) (r : OperationResult) : Except Failure AddonAnswer :=
  if r.status = 404 then .error (.addonNotInstalled a.guid a.className)
  else if !r.passed then .ok ⟨.failed, r.message, []⟩
  else
    let data := r.data.getD .null
    match readFields data with
    | .ok fields =>
        .ok ⟨readVerdict data, ((data.get? "message").bind Json.asString?).getD "", fields⟩
    | .error text => .error (.decoding text)

/-- Runs an addon action, which the Agent does not report itself. -/
def runAction (c : Client) (a : AddonAction) : Talk ω AddonAnswer := do
  let r ← c.sendRequest .post Endpoint.addons.path (some a.payload) [("skipReporting", "true")]
  match readAddonAnswer a r with
  | .ok answer => return answer
  | .error e =>
      if r.status = 404 then Talk.note (Log.error (Failure.notInstalled a.guid a.className))
      throw e

/-- What the result of a codeblock request comes to. -/
def readCodeblockAnswer (r : OperationResult) : CodeblockAnswer :=
  if !r.passed then ⟨.failed, r.message, none⟩
  else
    let data := r.data.getD .null
    ⟨readVerdict data, r.message, (data.get? "outputs").bind Json.asObject?⟩

/-- Runs a codeblock of the account. -/
def runCodeblock (c : Client) (guid : String) (body : Json) : Talk ω CodeblockAnswer :=
  return readCodeblockAnswer
    (← c.sendRequest .post (Endpoint.codeblocks.path ++ guid) (some body) [])

/-- Says that a job name could not be changed. -/
def jobNameKept (name reason : String) : Log.Entry :=
  Log.error ("Failed to update job name to '" ++ name ++ "': " ++ reason)

/-- Gives the running session another job name, if the configuration asks for that. -/
def updateJobName (c : Client) (name : String) : Talk ω Unit := do
  if !c.config.updateJobName then
    Talk.note (Log.debug "Job name updates are disabled, keeping the current job name")
  else
    tryCatch
      (do
        let body := Json.object [("jobName", .str name)]
        let r ← c.sendRequest .put Endpoint.session.path (some body) []
        if r.passed then Talk.note (Log.info ("Job name updated to '" ++ name ++ "'"))
        else Talk.note (jobNameKept name r.message))
      fun e => Talk.note (jobNameKept name e.message)

/-! ## Reports -/

/-- How an answer counts for a delivery. -/
def deliveryOutcome (outcome : Except TransportFault HttpAnswer) : Except Failure Unit :=
  match outcome with
  | .ok answer =>
      if answer.isSuccess then .ok ()
      else .error (.unexpectedStatus answer.status (if answer.truncated then "" else answer.text))
  | .error fault => .error (.http fault)

/-- Posts loads over a network. -/
def sender (n : Network ω) : Sender (Line ω) := fun a l =>
  let (e, l) := l.exchange n ⟨.post, a.url, a.token, some a.body⟩
  (⟨e.delay, deliveryOutcome e.outcome⟩, l)

/-- Does something with the queue, on the line. -/
def withQueue (c : Client) (l : Line ω) (act : Clocked (Line ω) → Clocked (Line ω)) :
    Client × Line ω :=
  let after := act { c.dispatch with world := l, now := l.now }
  let said := after.queue.log.drop c.queue.log.length
  ({ c with dispatch := after.toDispatch },
    { after.world with now := after.now, queueLog := after.world.queueLog ++ said })

/-- A report made ready to go to the Agent, each kind to its own address. -/
def parcel (base : Url) (report : Report) : Except Url.ParseError Parcel :=
  (base.join (Endpoint.ofReport report.kind).path).map fun url => ⟨url, report.encode⟩

/-- Hands a report to the queue. -/
def submit (c : Client) (report : Report) (l : Line ω) : Client × Line ω :=
  match parcel c.baseUrl report with
  | .ok p => c.withQueue l (·.apply (·.submit p))
  | .error e =>
      (c, l.note (Log.error ("Invalid report URL for " ++
        (Endpoint.ofReport report.kind).path ++ ": " ++ e.message)))

/-- Waits until no report is pending. -/
def flush (n : Network ω) (c : Client) (l : Line ω) : Client × Line ω :=
  c.withQueue l (·.flush (sender n))

/-- Does something over the line that cannot fail. -/
def withLine (n : Network ω) (c : Client) (l : Line ω) (act : Talk ω Client) : Client × Line ω :=
  match act.perform n l with
  | (.ok c, l) => (c, l)
  | (.error _, l) => (c, l)

/-- Lets go of the socket, if the client has one. -/
def closeSocket (c : Client) : Talk ω Client := return { c with socket := ← c.socket.close }

/-- Has the queue deliver what it holds and stop. The socket stays open if the session
can be taken up again. -/
def stop (n : Network ω) (c : Client) (l : Line ω) : Client × Line ω :=
  let (c, l) := c.withQueue l (·.stop (sender n) c.config.queueTimeout)
  let l := match c.localReport with
    | some path => l.note (Log.info ("Execution report: " ++ path))
    | none => l
  if c.canReuse then (c, l) else withLine n c l c.closeSocket

/-- Takes the session up again with a new queue. -/
def restartQueue (c : Client) : Talk ω Client := do
  Talk.note (Log.info "Reusing existing Agent session")
  let dispatch ← startQueue c.config c.baseUrl c.token c.version
  return { c with dispatch, retired := c.retired ++ [c.dispatch] }

end Client
end Courier
