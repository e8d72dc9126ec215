import Courier.Proofs.AgentAnswers
import Courier.Proofs.AgentUrl
import Courier.Proofs.SocketHandshake

/-!
# How a session starts

A session is asked for with one request. The answer is sorted by its status first, then by its
body, then by the version in it, and only an answer that passes all of these has a socket opened
and a queue begun. So each answer has one outcome, and the order in which they are tried shows on
the wire: whatever is refused for what it says is refused before anything is connected, and a
socket that is refused is closed. The queue comes last and cannot fail, since an Agent that can
be asked for a session can also be addressed for reports.
-/

namespace Courier

/-- The connections that are open after this, the latest first. -/
def connections (ts : List Transmission) : List (String × Nat) :=
  ts.foldl (fun held t =>
    match t with
    | .requested _ => held
    | .connected host port => (host, port) :: held
    | .disconnected host port => held.erase (host, port)) []

/-- The session that the body tells of, if it tells of one. -/
def HttpAnswer.Grants (a : HttpAnswer) (answer : SessionAnswer) : Prop :=
  ∃ body, Json.parse? a.text = some body ∧ SessionAnswer.decode body = .ok answer

theorem HttpAnswer.Grants.unique {a : HttpAnswer} {answer answer' : SessionAnswer}
    (h : a.Grants answer) (h' : a.Grants answer') : answer = answer' := by
  obtain ⟨body, hbody, hdecode⟩ := h
  obtain ⟨body', hbody', hdecode'⟩ := h'
  cases Option.some.inj (hbody.symm.trans hbody')
  exact Except.ok.inj (hdecode.symm.trans hdecode')

/-- The Agent is from before reports on disk alone, as far as anybody can tell. -/
def SessionAnswer.IsDated (answer : SessionAnswer) : Prop :=
  ∀ tag ∈ answer.version, ∀ v, Version.parse tag = .ok v → compare v ⟨"2.1.0", [2, 1, 0]⟩ = .lt

namespace Line

variable {ω : Type}

/-- Nothing but what is said has changed. -/
structure Said (l l' : Line ω) : Prop where
  net : l'.net = l.net
  wire : l'.wire = l.wire
  queueLog : l'.queueLog = l.queueLog

theorem Said.refl (l : Line ω) : Said l l := ⟨rfl, rfl, rfl⟩

theorem Said.trans {l l' l'' : Line ω} (h : Said l l') (h' : Said l' l'') : Said l l'' :=
  ⟨h'.net.trans h.net, h'.wire.trans h.wire, h'.queueLog.trans h.queueLog⟩

theorem Said.wire_append {l l' : Line ω} (h : Said l l') : l'.wire = l.wire ++ [] :=
  h.wire.trans (List.append_nil _).symm

theorem Said.queueLog_append {l l' : Line ω} (h : Said l l') : l'.queueLog = l.queueLog ++ [] :=
  h.queueLog.trans (List.append_nil _).symm

theorem said_note (l : Line ω) (e : Log.Entry) : Said l (l.note e) := ⟨rfl, rfl, rfl⟩

theorem Said.answers_iff {l l' : Line ω} {n : Network ω} {r : HttpRequest} {a : HttpAnswer}
    (h : Said l l') : l'.Answers n r a ↔ l.Answers n r a := by
  constructor
  · exact fun ⟨hs, ho, hw⟩ => ⟨hs, by rw [← h.net]; exact ho, hw⟩
  · exact fun ⟨hs, ho, hw⟩ => ⟨hs, by rw [h.net]; exact ho, hw⟩

theorem Said.asked {l l' : Line ω} (h : Said l l') (n : Network ω) (r : HttpRequest) :
    (l.asked n r).Said (l'.asked n r) := by
  unfold Line.asked exchange
  split
  · refine ⟨?_, congrArg (· ++ _) h.wire, h.queueLog⟩
    exact congrArg (fun net => (n.exchange r net).2) h.net
  · exact ⟨h.net, h.wire, h.queueLog⟩

end Line

theorem Talk.perform_forM_note {ω α : Type} {n : Network ω} (say : α → Log.Entry) (es : List α)
    (l : Line ω) : ∃ l', l.Said l' ∧
      (es.forM fun e => (note (say e) : Talk ω Unit)).perform n l = (.ok (), l') := by
  induction es generalizing l with
  | nil => exact ⟨l, .refl l, rfl⟩
  | cons e es ih =>
      obtain ⟨l', hsaid, hp⟩ := ih (l.note (say e))
      have hnote : (note (say e) : Talk ω Unit).perform n l = (.ok (), l.note (say e)) := rfl
      exact ⟨l', (l.said_note _).trans hsaid, (perform_bind_ok hnote _).trans hp⟩

namespace Client

variable {ω : Type} {config : Config} {token : Option String} {capabilities : Object}
  {identity : ReportIdentity} {n : Network ω} {l l' : Line ω} {a : HttpAnswer} {base : Url}
  {result : Except Failure Client}

/-! ## The answer -/

theorem readAnswer_of_grants {answer : SessionAnswer} (h : a.Grants answer) :
    readAnswer (.ofAnswer a a.text) = .ok answer := by
  obtain ⟨body, hbody, hdecode⟩ := h
  unfold readAnswer
  rw [OperationResult.ofAnswer_data, hbody]
  dsimp only
  rw [hdecode]

theorem readAnswer_of_not_grants (h : ∀ answer, ¬ a.Grants answer) : ∃ why,
    readAnswer (.ofAnswer a a.text) =
      .error (.general ("Could not parse session response: " ++ why)) := by
  unfold readAnswer
  rw [OperationResult.ofAnswer_data]
  cases hbody : Json.parse? a.text with
  | none => exact ⟨"no JSON response body present", rfl⟩
  | some body =>
      dsimp only
      cases hdecode : SessionAnswer.decode body with
      | ok answer => exact absurd ⟨body, hbody, hdecode⟩ (h answer)
      | error why => exact ⟨why, rfl⟩

theorem grant_of_error (config : Config) (hs : a.isSuccess = false) : ∃ l', l.Said l' ∧
    (grant config (.ofAnswer a a.text)).perform n l =
      (.error (refusal (.ofAnswer a a.text) config).1, l') := by
  obtain ⟨l', hsaid, hp⟩ := Talk.perform_forM_note (n := n) id
    (refusal (.ofAnswer a a.text) config).2 l
  unfold grant
  rw [OperationResult.ofAnswer_passed, hs]
  exact ⟨l', hsaid, (Talk.perform_bind_ok hp _).trans rfl⟩

theorem grant_of_not_grants (config : Config) (hs : a.isSuccess = true)
    (h : ∀ answer, ¬ a.Grants answer) : ∃ why, (grant config (.ofAnswer a a.text)).perform n l =
      (.error (.general ("Could not parse session response: " ++ why)), l) := by
  obtain ⟨why, hread⟩ := readAnswer_of_not_grants h
  unfold grant
  rw [OperationResult.ofAnswer_passed, hs, hread]
  exact ⟨why, rfl⟩

theorem grant_of_grants (config : Config) (hs : a.isSuccess = true) {answer : SessionAnswer}
    (h : a.Grants answer) : ∃ l', l.Said l' ∧
      (grant config (.ofAnswer a a.text)).perform n l = (.ok answer, l') := by
  obtain ⟨l', hsaid, hp⟩ := Talk.perform_forM_note (n := n)
    (fun w => Log.warn ("Agent warning: " ++ w)) (answer.warnings.getD []) l
  unfold grant
  rw [OperationResult.ofAnswer_passed, hs, readAnswer_of_grants h]
  exact ⟨l', hsaid, (Talk.perform_bind_ok hp _).trans rfl⟩

/-! ## The version -/

theorem not_atLeast_iff (v : Version) :
    v.atLeast Version.localReport = false ↔ compare v ⟨"2.1.0", [2, 1, 0]⟩ = .lt := by
  have hleast : Version.parse? Version.localReport = some ⟨"2.1.0", [2, 1, 0]⟩ := rfl
  rw [Version.atLeast, hleast]
  dsimp only
  cases compare v ⟨"2.1.0", [2, 1, 0]⟩ <;> decide

theorem isDated_iff (answer : SessionAnswer) :
    answer.IsDated ↔ (readVersion answer.version).1.atLeast Version.localReport = false := by
  have hunknown : Version.unknown.atLeast Version.localReport = false := by decide +kernel
  unfold SessionAnswer.IsDated readVersion
  cases answer.version with
  | none => exact iff_of_true (by rintro _ ⟨⟩) hunknown
  | some tag =>
      dsimp only
      cases hv : Version.parse tag with
      | error e =>
          refine iff_of_true ?_ hunknown
          rintro _ ⟨⟩ v hv'
          rw [hv] at hv'
          cases hv'
      | ok v =>
          rw [not_atLeast_iff]
          constructor
          · exact fun h => h tag rfl v hv
          · rintro h _ ⟨⟩ v' hv'
            rw [hv] at hv'
            cases hv'
            exact h

/-- Reports on disk alone are asked of an Agent that cannot make them. -/
def TooOld (identity : ReportIdentity) (answer : SessionAnswer) : Prop :=
  identity.destination = .onDisk ∧ answer.IsDated

theorem tooOld_iff (identity : ReportIdentity) (answer : SessionAnswer) :
    TooOld identity answer ↔ asksTooMuch identity (readVersion answer.version).1 = true := by
  rw [TooOld, isDated_iff, asksTooMuch]
  simp

/-- What is said to an Agent of this version that is too old. -/
def tooOldText (version : Version) : String :=
  "Target Agent version [" ++ version.tag ++
    "] doesn't support local reports. Upgrade the Agent to the latest version and try again."

theorem perform_checkVersion (identity : ReportIdentity) (tag : Option String) (l : Line ω) :
    ∃ l', l.Said l' ∧ (checkVersion identity tag).perform n l =
      (if asksTooMuch identity (readVersion tag).1 then
        .error (.obsoleteVersion (tooOldText (readVersion tag).1))
        else .ok (readVersion tag).1, l') := by
  unfold checkVersion
  -- Whatever is noted about a version that cannot be read, the unknown one stands for it.
  generalize readVersion tag = read
  obtain ⟨version, notes⟩ := read
  obtain ⟨l', hsaid, hp⟩ := Talk.perform_forM_note (n := n) id notes l
  dsimp only
  cases asksTooMuch identity version with
  | false =>
      exact ⟨l'.note (Log.info ("Agent version: " ++ version.tag)),
        hsaid.trans (l'.said_note _), (Talk.perform_bind_ok hp _).trans rfl⟩
  | true =>
      refine ⟨(l'.note (Log.info ("Agent version: " ++ version.tag))).note (Log.error
        ("Local reports are not supported by Agent version " ++ version.tag ++ ", upgrade to " ++
          Version.localReport ++ " or newer")), ?_, (Talk.perform_bind_ok hp _).trans rfl⟩
      exact (hsaid.trans (l'.said_note _)).trans (Line.said_note _ _)

/-! ## The socket and the queue -/

/-- The socket of the session opens, and where the session has a UUID the Agent sends it. -/
def Connects (n : Network ω) (net : ω) (config : Config) (base : Url) (answer : SessionAnswer) :
    Prop :=
  ∃ host, base.hostText? = some host ∧ (n.connect host answer.socketPort net).1 = .ok () ∧
    ∀ text ∈ answer.uuid, Handshake.validate text config.handshakeTimeout
      (Socket.heard n net host answer.socketPort config.handshakeTimeout) = .ok ()

/-- What a queue says when it begins. -/
def queueBegins : Log.Entry := Log.debug "Starting reports queue"

theorem startQueue_spec (config : Config) (h : Addressed base token) (version : Version)
    (l : Line ω) : ∃ d l', (startQueue config base token version).perform n l = (.ok d, l') ∧
      l'.wire = l.wire ∧ l'.queueLog = l.queueLog ++ [queueBegins] := by
  unfold startQueue queueMode
  rw [h.deliveryMode_eq config version]
  dsimp only
  split
  · exact ⟨_, _, rfl, rfl, rfl⟩
  · exact ⟨_, _, rfl, rfl, rfl⟩

theorem settle_of_connects (h : Addressed base token) {answer : SessionAnswer} {version : Version}
    (hc : Connects n l.net config base answer)
    (hp : (settle config token identity base answer version).perform n l = (result, l')) :
    ∃ c, result = .ok c ∧ l'.wire = l.wire ++ [.connected c.socket.host c.socket.port] ∧
      l'.queueLog = l.queueLog ++ [queueBegins] := by
  obtain ⟨host, hhost, hconnect, hvalid⟩ := hc
  unfold settle at hp
  rw [hhost] at hp
  dsimp only at hp
  cases hs : (Socket.connect host answer.socketPort answer.uuid config.handshakeTimeout).perform
      n l with
  | mk socket l₁ =>
      obtain ⟨ts, hwire, hlog, hopening⟩ := Socket.opening_connect hs
      cases hopening with
      | unreachable hwhy => cases hconnect.symm.trans hwhy
      | refused _ htext hrefused => cases (hvalid _ htext).symm.trans hrefused
      | opened _ _ =>
          have hid : (Talk.newId : Talk ω String).perform n l₁ =
              (.ok (n.newId l₁.made), { l₁ with made := l₁.made + 1 }) := rfl
          obtain ⟨d, l₂, hq, hwire', hlog'⟩ := startQueue_spec (n := n) config h version
            { l₁ with made := l₁.made + 1 }
          rw [Talk.perform_bind_ok hs, Talk.perform_bind_ok hid, Talk.perform_bind_ok hq] at hp
          cases hp
          exact ⟨_, rfl, hwire'.trans hwire, hlog'.trans (congrArg (· ++ _) hlog)⟩

theorem settle_of_not_connects {host : String} (hhost : base.hostText? = some host)
    {answer : SessionAnswer} {version : Version} (hc : ¬ Connects n l.net config base answer)
    (hp : (settle config token identity base answer version).perform n l = (result, l')) :
    ∃ why ts, result = .error (.agentConnect why) ∧ l'.queueLog = l.queueLog ∧
      l'.wire = l.wire ++ ts ∧
      (ts = [] ∨ ∃ host port, ts = [.connected host port, .disconnected host port]) := by
  unfold settle at hp
  rw [hhost] at hp
  dsimp only at hp
  cases hs : (Socket.connect host answer.socketPort answer.uuid config.handshakeTimeout).perform
      n l with
  | mk socket l₁ =>
      obtain ⟨ts, hwire, hlog, hopening⟩ := Socket.opening_connect hs
      cases hopening with
      | unreachable _ =>
          rw [Talk.perform_bind_error hs] at hp
          cases hp
          exact ⟨_, _, rfl, hlog, hwire, .inl rfl⟩
      | refused _ _ _ =>
          rw [Talk.perform_bind_error hs] at hp
          cases hp
          exact ⟨_, _, rfl, hlog, hwire, .inr ⟨_, _, rfl⟩⟩
      | opened hconnect hvalid => exact absurd ⟨host, hhost, hconnect, hvalid⟩ hc

/-! ## After the answer -/

theorem enter_of_error (hs : a.isSuccess = false)
    (hp : (enter config token identity base (.ofAnswer a a.text)).perform n l = (result, l')) :
    result = .error (refusal (.ofAnswer a a.text) config).1 ∧ l.Said l' := by
  obtain ⟨l₁, hsaid, hgrant⟩ := grant_of_error (n := n) (l := l) config hs
  unfold enter at hp
  rw [Talk.perform_bind_error hgrant] at hp
  cases hp
  exact ⟨rfl, hsaid⟩

theorem enter_of_not_grants (hs : a.isSuccess = true) (h : ∀ answer, ¬ a.Grants answer)
    (hp : (enter config token identity base (.ofAnswer a a.text)).perform n l = (result, l')) :
    (∃ why, result = .error (.general ("Could not parse session response: " ++ why))) ∧
      l.Said l' := by
  obtain ⟨why, hgrant⟩ := grant_of_not_grants (n := n) (l := l) config hs h
  unfold enter at hp
  rw [Talk.perform_bind_error hgrant] at hp
  cases hp
  exact ⟨⟨why, rfl⟩, .refl _⟩

theorem enter_of_tooOld (hs : a.isSuccess = true) {answer : SessionAnswer} (h : a.Grants answer)
    (hold : TooOld identity answer)
    (hp : (enter config token identity base (.ofAnswer a a.text)).perform n l = (result, l')) :
    result = .error (.obsoleteVersion (tooOldText (readVersion answer.version).1)) ∧
      l.Said l' := by
  obtain ⟨l₁, hsaid, hgrant⟩ := grant_of_grants (n := n) (l := l) config hs h
  obtain ⟨l₂, hsaid', hcheck⟩ := perform_checkVersion (n := n) identity answer.version l₁
  rw [if_pos ((tooOld_iff identity answer).1 hold)] at hcheck
  unfold enter at hp
  rw [Talk.perform_bind_ok hgrant, Talk.perform_bind_error hcheck] at hp
  cases hp
  exact ⟨rfl, hsaid.trans hsaid'⟩

theorem enter_of_not_tooOld (hs : a.isSuccess = true) {answer : SessionAnswer}
    (h : a.Grants answer) (hnew : ¬ TooOld identity answer)
    (hp : (enter config token identity base (.ofAnswer a a.text)).perform n l = (result, l')) :
    ∃ l₁, l.Said l₁ ∧ (settle config token identity base answer
      (readVersion answer.version).1).perform n l₁ = (result, l') := by
  obtain ⟨l₁, hsaid, hgrant⟩ := grant_of_grants (n := n) (l := l) config hs h
  obtain ⟨l₂, hsaid', hcheck⟩ := perform_checkVersion (n := n) identity answer.version l₁
  rw [if_neg fun hold => hnew ((tooOld_iff identity answer).2 hold)] at hcheck
  unfold enter at hp
  rw [Talk.perform_bind_ok hgrant, Talk.perform_bind_ok hcheck] at hp
  -- The address of a local report is only noted here.
  generalize answer.localReportUrl = address at hp
  cases address with
  | none => exact ⟨l₂, hsaid.trans hsaid', hp⟩
  | some address => exact ⟨_, (hsaid.trans hsaid').trans (l₂.said_note _), hp⟩

/-- What an answer to the request for a session comes to, with what gets onto the wire after it. -/
inductive Stage (config : Config) (identity : ReportIdentity) (base : Url) (n : Network ω)
    (net : ω) (a : HttpAnswer) : Except Failure Client → List Transmission → Prop where
  | refused : a.isSuccess = false →
      Stage config identity base n net a (.error (refusal (.ofAnswer a a.text) config).1) []
  | unreadable {why : String} : a.isSuccess = true → (∀ answer, ¬ a.Grants answer) →
      Stage config identity base n net a
        (.error (.general ("Could not parse session response: " ++ why))) []
  | tooOld {answer : SessionAnswer} : a.isSuccess = true → a.Grants answer →
      TooOld identity answer → Stage config identity base n net a
        (.error (.obsoleteVersion (tooOldText (readVersion answer.version).1))) []
  | unconnected {answer : SessionAnswer} {why : String} {ts : List Transmission} :
      a.isSuccess = true → a.Grants answer → ¬ TooOld identity answer →
      ¬ Connects n net config base answer →
      (ts = [] ∨ ∃ host port, ts = [.connected host port, .disconnected host port]) →
      Stage config identity base n net a (.error (.agentConnect why)) ts
  | connected {answer : SessionAnswer} {c : Client} :
      a.isSuccess = true → a.Grants answer → ¬ TooOld identity answer →
      Connects n net config base answer →
      Stage config identity base n net a (.ok c) [.connected c.socket.host c.socket.port]

/-- What is heard of queues on the way to a client. -/
def queueSays : Except Failure Client → List Log.Entry
  | .ok _ => [queueBegins]
  | .error _ => []

/-- The stages are passed one after the other, and one that is not passed is the last. -/
theorem stage_enter (h : Addressed base token) (hb : Url.parse config.agentUrl = .ok base)
    (hp : (enter config token identity base (.ofAnswer a a.text)).perform n l = (result, l')) :
    ∃ ts, l'.wire = l.wire ++ ts ∧ l'.queueLog = l.queueLog ++ queueSays result ∧
      Stage config identity base n l.net a result ts := by
  cases hs : a.isSuccess with
  | false =>
      obtain ⟨rfl, hsaid⟩ := enter_of_error hs hp
      exact ⟨[], hsaid.wire_append, hsaid.queueLog_append, .refused hs⟩
  | true =>
      by_cases hgrants : ∃ answer, a.Grants answer
      · obtain ⟨answer, hg⟩ := hgrants
        by_cases hold : TooOld identity answer
        · obtain ⟨rfl, hsaid⟩ := enter_of_tooOld hs hg hold hp
          exact ⟨[], hsaid.wire_append, hsaid.queueLog_append, .tooOld hs hg hold⟩
        · obtain ⟨l₁, hsaid, hp⟩ := enter_of_not_tooOld hs hg hold hp
          rw [← hsaid.wire, ← hsaid.queueLog, ← hsaid.net]
          by_cases hc : Connects n l₁.net config base answer
          · obtain ⟨c, rfl, hwire, hlog⟩ := settle_of_connects h hc hp
            exact ⟨_, hwire, hlog, .connected hs hg hold hc⟩
          · obtain ⟨host, hhost⟩ :=
              Url.exists_hostText hb (HttpRequest.isWeb_of_isSendable h.sendable)
            obtain ⟨why, ts, rfl, hlog, hwire, hts⟩ := settle_of_not_connects hhost hc hp
            exact ⟨ts, hwire, hlog.trans (List.append_nil _).symm,
              .unconnected hs hg hold hc hts⟩
      · have hnone : ∀ answer, ¬ a.Grants answer := fun answer hg => hgrants ⟨answer, hg⟩
        obtain ⟨⟨why, rfl⟩, hsaid⟩ := enter_of_not_grants hs hnone hp
        exact ⟨[], hsaid.wire_append, hsaid.queueLog_append, .unreadable hs hnone⟩

/-! ## The request -/

theorem sessionRequest?_eq_some {r : HttpRequest}
    (h : sessionRequest? config token capabilities identity = some r) :
    ∃ base url, Url.parse config.agentUrl = .ok base ∧
      base.join Endpoint.session.path = .ok url ∧ r = ⟨.post, url, token,
        some (SessionRequest.ofConfig config capabilities identity).encode⟩ := by
  unfold sessionRequest? at h
  cases hb : Url.parse config.agentUrl with
  | error e =>
      rw [hb] at h
      cases h
  | ok base =>
      rw [hb] at h
      change (base.join Endpoint.session.path).toOption.bind _ = _ at h
      cases hu : base.join Endpoint.session.path with
      | error e =>
          rw [hu] at h
          cases h
      | ok url =>
          rw [hu] at h
          cases h
          exact ⟨base, url, rfl, hu, rfl⟩

theorem perform_requestSession {url : Url} (hu : base.join Endpoint.session.path = .ok url)
    {r : HttpRequest} (hr : r = ⟨.post, url, token,
      some (SessionRequest.ofConfig config capabilities identity).encode⟩) : ∃ result l',
    (requestSession config base token capabilities identity).perform n l = (result, l') ∧
      (l.asked n r).Said l' ∧
      ((∃ a, l.Answers n r a ∧ result = .ok (.ofAnswer a a.text)) ∨
        (∀ a, ¬ l.Answers n r a) ∧ ∃ e, result = .error e) := by
  have hresolve : (Talk.resolve base Endpoint.session.path).perform n l = (.ok url, l) := by
    rw [Talk.resolve, hu]
    rfl
  obtain ⟨result, hp, hasking⟩ := Talk.perform_operate (n := n) (l := l) r
  unfold requestSession
  rw [Talk.perform_bind_ok hresolve, ← hr, Talk.perform_tryCatch, hp]
  cases hasking with
  | answered ha => exact ⟨_, _, rfl, .refl _, .inl ⟨_, ha, rfl⟩⟩
  | failed hnone =>
      dsimp only
      split
      · exact ⟨_, _, rfl, (l.asked n r).said_note _, .inr ⟨hnone, _, rfl⟩⟩
      · exact ⟨_, _, rfl, .refl _, .inr ⟨hnone, _, rfl⟩⟩

theorem perform_start (n : Network ω) (l : Line ω) (token : Option String)
    (capabilities : Object) (identity : ReportIdentity)
    (hb : Url.parse config.agentUrl = .ok base) : ∃ l', l.Said l' ∧
    (start config token capabilities identity).perform n l =
      (requestSession config base token capabilities identity >>=
        enter config token identity base).perform n l' := by
  have hparse : (Talk.parseUrl config.agentUrl).perform n l = (.ok base, l) := by
    rw [Talk.parseUrl, hb]
    rfl
  rw [start_eq, Talk.perform_bind_ok hparse]
  exact ⟨_, l.said_note _, rfl⟩

/-- The answer is all that the start of a session goes by. -/
theorem start_of_answers {r : HttpRequest}
    (hr : sessionRequest? config token capabilities identity = some r) (ha : l.Answers n r a) :
    ∃ base l', Url.parse config.agentUrl = .ok base ∧ Addressed base token ∧
      (l.asked n r).Said l' ∧ (start config token capabilities identity).perform n l =
        (enter config token identity base (.ofAnswer a a.text)).perform n l' := by
  obtain ⟨base, url, hb, hu, heq⟩ := sessionRequest?_eq_some hr
  have hs := ha.sendable
  rw [heq] at hs
  obtain ⟨l₁, hsaid₁, hstart⟩ := perform_start n l token capabilities identity hb
  obtain ⟨result, l₂, hp, hsaid₂, hresult⟩ := perform_requestSession (n := n) (l := l₁) hu heq
  have ha₁ := hsaid₁.answers_iff.2 ha
  rcases hresult with ⟨a', ha', rfl⟩ | ⟨hnone, -⟩
  · rw [hstart, Talk.perform_bind_ok hp, ha'.unique ha₁]
    exact ⟨base, l₂, hb, addressed_of_join hb hu hs, (hsaid₁.asked n r).trans hsaid₂, rfl⟩
  · exact absurd ha₁ (hnone a)

/-- Without an answer there is no session, and nothing but the request was made. -/
theorem start_of_not_answers
    (h : ∀ r a, sessionRequest? config token capabilities identity = some r → ¬ l.Answers n r a) :
    ∃ e l', (start config token capabilities identity).perform n l = (.error e, l') ∧
      l'.queueLog = l.queueLog ∧
      (l'.wire = l.wire ∨ ∃ r, l'.wire = l.wire ++ [.requested r]) := by
  cases hb : Url.parse config.agentUrl with
  | error e =>
      have hparse : (Talk.parseUrl config.agentUrl).perform n l = (.error (.url e), l) := by
        rw [Talk.parseUrl, hb]
        rfl
      exact ⟨_, l, Talk.perform_bind_error hparse _, rfl, .inl rfl⟩
  | ok base =>
      obtain ⟨l₁, hsaid₁, hstart⟩ := perform_start n l token capabilities identity hb
      rw [hstart]
      cases hu : base.join Endpoint.session.path with
      | error e =>
          have hrequest : (requestSession config base token capabilities identity).perform n l₁ =
              (.error (.url e), l₁) := by
            have hresolve : (Talk.resolve base Endpoint.session.path).perform n l₁ =
                (.error (.url e), l₁) := by
              rw [Talk.resolve, hu]
              rfl
            exact Talk.perform_bind_error hresolve _
          exact ⟨_, l₁, Talk.perform_bind_error hrequest _, hsaid₁.queueLog, .inl hsaid₁.wire⟩
      | ok url =>
          have hr : sessionRequest? config token capabilities identity = _ :=
            sessionRequest?_of_join hb hu
          obtain ⟨result, l₂, hp, hsaid₂, hresult⟩ :=
            perform_requestSession (n := n) (l := l₁) hu rfl
          rcases hresult with ⟨a, ha, -⟩ | ⟨-, e, rfl⟩
          · exact absurd (hsaid₁.answers_iff.1 ha) (h _ a hr)
          · refine ⟨e, l₂, Talk.perform_bind_error hp _, ?_, ?_⟩
            · rw [hsaid₂.queueLog, Line.queueLog_asked, hsaid₁.queueLog]
            · rw [hsaid₂.wire, Line.wire_asked, hsaid₁.wire]
              unfold HttpRequest.sent
              split
              · exact .inr ⟨_, rfl⟩
              · exact .inl (List.append_nil _)

/-! ## Refusals -/

theorem isSuccess_of_status (h : a.status ∈ [401, 404, 406]) : a.isSuccess = false := by
  simp only [List.mem_cons, List.not_mem_nil, or_false] at h
  rw [Bool.eq_false_iff, ne_eq, HttpAnswer.isSuccess_iff]
  omega

theorem message_of_error (hs : a.isSuccess = false) :
    (OperationResult.ofAnswer a a.text).message = a.complaint := by
  rw [OperationResult.ofAnswer_message, hs]
  rfl

theorem refusal_unauthorized (config : Config) (h : a.status = 401) :
    (refusal (.ofAnswer a a.text) config).1 = .invalidToken a.complaint := by
  have hs := isSuccess_of_status (a := a) (by simp [h])
  rw [refusal, OperationResult.ofAnswer_status, h, message_of_error hs]
  rfl

theorem refusal_notFound (config : Config) (h : a.status = 404) :
    (refusal (.ofAnswer a a.text) config).1 = .sessionStart
      (((a.textMember? "message").filter (· != "")).getD "Failed to start a new session!") := by
  -- An empty message is as good as none, and the reason of the status is never given.
  have hempty : (fun m : String => !m.isEmpty) = (· != "") := by
    funext m
    rw [Bool.eq_iff_iff]
    simp
  rw [refusal, OperationResult.ofAnswer_status, h, ← hempty]
  rw [OperationResult.field?, OperationResult.ofAnswer_data]
  rfl

theorem refusal_notAcceptable (config : Config) (h : a.status = 406) :
    (refusal (.ofAnswer a a.text) config).1 = .obsoleteVersion a.complaint := by
  have hs := isSuccess_of_status (a := a) (by simp [h])
  rw [refusal, OperationResult.ofAnswer_status, h, message_of_error hs]
  rfl

theorem refusal_other (config : Config) (hs : a.isSuccess = false)
    (h : a.status ∉ [401, 404, 406]) :
    (refusal (.ofAnswer a a.text) config).1 = .agentConnect ("Agent responded with HTTP status " ++
      toString a.status ++ ": [" ++ a.complaint ++ "]") := by
  simp only [List.mem_cons, List.not_mem_nil, or_false, not_or] at h
  unfold refusal
  rw [OperationResult.ofAnswer_status, message_of_error hs]
  split
  · exact absurd ‹_› h.1
  · exact absurd ‹_› h.2.1
  · exact absurd ‹_› h.2.2
  · rfl

/-! ## Starts as a whole -/

/-- What an answer to the request for a session comes to. -/
structure AnswerOutcome (config : Config) (identity : ReportIdentity) (base : Url) (n : Network ω)
    (l : Line ω) (r : HttpRequest) (a : HttpAnswer) (result : Except Failure Client)
    (l' : Line ω) : Prop where
  starts : (∃ c, result = .ok c) ↔ a.isSuccess = true ∧ ∃ answer, a.Grants answer ∧
    ¬ TooOld identity answer ∧ Connects n (l.asked n r).net config base answer
  unauthorized : a.status = 401 → result = .error (.invalidToken a.complaint)
  notFound : a.status = 404 → result = .error (.sessionStart
    (((a.textMember? "message").filter (· != "")).getD "Failed to start a new session!"))
  notAcceptable : a.status = 406 → result = .error (.obsoleteVersion a.complaint)
  failed : a.isSuccess = false → a.status ∉ [401, 404, 406] → result = .error (.agentConnect
    ("Agent responded with HTTP status " ++ toString a.status ++ ": [" ++ a.complaint ++ "]"))
  unreadable : a.isSuccess = true → (∀ answer, ¬ a.Grants answer) →
    ∃ why, result = .error (.general ("Could not parse session response: " ++ why))
  tooOld (answer : SessionAnswer) : a.isSuccess = true → a.Grants answer →
    TooOld identity answer →
    result = .error (.obsoleteVersion (tooOldText (readVersion answer.version).1))
  unconnected (answer : SessionAnswer) : a.isSuccess = true → a.Grants answer →
    ¬ TooOld identity answer → ¬ Connects n (l.asked n r).net config base answer →
    ∃ why, result = .error (.agentConnect why)
  /-- What is refused for what it says is refused before anything is connected. -/
  early : (a.isSuccess = true → ∀ answer, a.Grants answer → TooOld identity answer) →
    l'.wire = l.wire ++ [.requested r]
  /-- What fails begins no queue, and leaves no connection that was not there. -/
  tidy (e : Failure) : result = .error e →
    l'.queueLog = l.queueLog ∧ connections l'.wire = connections l.wire
  held (c : Client) : result = .ok c →
    l'.queueLog = l.queueLog ++ [queueBegins] ∧
      l'.wire = l.wire ++ [.requested r, .connected c.socket.host c.socket.port]

/-- What the start of a session comes to. -/
structure StartOutcome (config : Config) (token : Option String) (capabilities : Object)
    (identity : ReportIdentity) (n : Network ω) (l : Line ω) (result : Except Failure Client)
    (l' : Line ω) : Prop where
  answered (r : HttpRequest) (a : HttpAnswer) :
    sessionRequest? config token capabilities identity = some r → l.Answers n r a →
    ∃ base, Url.parse config.agentUrl = .ok base ∧
      AnswerOutcome config identity base n l r a result l'
  unanswered : (∀ r a, sessionRequest? config token capabilities identity = some r →
    ¬ l.Answers n r a) → ∃ e, result = .error e ∧
      l'.queueLog = l.queueLog ∧ connections l'.wire = connections l.wire
  opened (c : Client) : result = .ok c → Opened config token identity c

theorem connections_append (ts : List Transmission) (r : HttpRequest) :
    connections (ts ++ [.requested r]) = connections ts := by
  simp [connections, List.foldl_append]

theorem connections_given_up (ts : List Transmission) (host : String) (port : Nat) :
    connections (ts ++ [.connected host port, .disconnected host port]) = connections ts := by
  simp [connections, List.foldl_append]

theorem Stage.connections_eq {net : ω} {e : Failure} {ts : List Transmission}
    (h : Stage config identity base n net a (.error e) ts) (before : List Transmission) :
    connections (before ++ ts) = connections before := by
  cases h with
  | unconnected _ _ _ _ hts =>
      rcases hts with rfl | ⟨host, port, rfl⟩
      · rw [List.append_nil]
      · exact connections_given_up before host port
  | _ => rw [List.append_nil]

/-- A status that is no success is all that counts. -/
theorem Stage.eq_refusal {net : ω} {ts : List Transmission}
    (h : Stage config identity base n net a result ts) (hs : a.isSuccess = false) :
    result = .error (refusal (.ofAnswer a a.text) config).1 := by
  cases h with
  | refused _ => rfl
  | unreadable hs' _ => cases hs'.symm.trans hs
  | tooOld hs' _ _ => cases hs'.symm.trans hs
  | unconnected hs' _ _ _ _ => cases hs'.symm.trans hs
  | connected hs' _ _ _ => cases hs'.symm.trans hs

theorem Stage.eq_unreadable {net : ω} {ts : List Transmission}
    (h : Stage config identity base n net a result ts) (hs : a.isSuccess = true)
    (hnone : ∀ answer, ¬ a.Grants answer) :
    ∃ why, result = .error (.general ("Could not parse session response: " ++ why)) := by
  cases h with
  | refused hs' => cases hs'.symm.trans hs
  | unreadable _ _ => exact ⟨_, rfl⟩
  | tooOld _ hg _ => exact absurd hg (hnone _)
  | unconnected _ hg _ _ _ => exact absurd hg (hnone _)
  | connected _ hg _ _ => exact absurd hg (hnone _)

/-- A session that is granted fails for the version or for the socket, or not at all. -/
theorem Stage.of_grants {net : ω} {ts : List Transmission} {answer : SessionAnswer}
    (h : Stage config identity base n net a result ts) (hs : a.isSuccess = true)
    (hg : a.Grants answer) :
    (TooOld identity answer ∧
      result = .error (.obsoleteVersion (tooOldText (readVersion answer.version).1))) ∨
    (¬ TooOld identity answer ∧ ¬ Connects n net config base answer ∧
      ∃ why, result = .error (.agentConnect why)) ∨
    (¬ TooOld identity answer ∧ Connects n net config base answer ∧ ∃ c, result = .ok c) := by
  cases h with
  | refused hs' => cases hs'.symm.trans hs
  | unreadable _ hnone => exact absurd hg (hnone answer)
  | tooOld _ hg' hold =>
      rw [hg.unique hg']
      exact .inl ⟨hold, rfl⟩
  | unconnected _ hg' hnew hc _ =>
      rw [hg.unique hg']
      exact .inr (.inl ⟨hnew, hc, _, rfl⟩)
  | connected _ hg' hnew hc =>
      rw [hg.unique hg']
      exact .inr (.inr ⟨hnew, hc, _, rfl⟩)

theorem answerOutcome_of_stage {r : HttpRequest} {ts : List Transmission}
    (h : Stage config identity base n (l.asked n r).net a result ts)
    (hwire : l'.wire = l.wire ++ [.requested r] ++ ts)
    (hlog : l'.queueLog = l.queueLog ++ queueSays result) :
    AnswerOutcome config identity base n l r a result l' where
  starts := by
    constructor
    · rintro ⟨c, rfl⟩
      cases h with
      | connected hs hg hnew hc => exact ⟨hs, _, hg, hnew, hc⟩
    · rintro ⟨hs, answer, hg, hnew, hc⟩
      rcases h.of_grants hs hg with ⟨hold, -⟩ | ⟨-, hc', -⟩ | ⟨-, -, hok⟩
      · exact absurd hold hnew
      · exact absurd hc hc'
      · exact hok
  unauthorized hst := by
    rw [h.eq_refusal (isSuccess_of_status (by simp [hst])), refusal_unauthorized config hst]
  notFound hst := by
    rw [h.eq_refusal (isSuccess_of_status (by simp [hst])), refusal_notFound config hst]
  notAcceptable hst := by
    rw [h.eq_refusal (isSuccess_of_status (by simp [hst])), refusal_notAcceptable config hst]
  failed hs hst := by
    rw [h.eq_refusal hs, refusal_other config hs hst]
  unreadable := h.eq_unreadable
  tooOld answer hs hg hold := by
    rcases h.of_grants hs hg with ⟨-, he⟩ | ⟨hnew, -⟩ | ⟨hnew, -⟩
    · exact he
    · exact absurd hold hnew
    · exact absurd hold hnew
  unconnected answer hs hg hnew hc := by
    rcases h.of_grants hs hg with ⟨hold, -⟩ | ⟨-, -, he⟩ | ⟨-, hc', -⟩
    · exact absurd hold hnew
    · exact he
    · exact absurd hc' hc
  early hrefused := by
    cases h with
    | unconnected hs hg hnew _ _ => exact absurd (hrefused hs _ hg) hnew
    | connected hs hg hnew _ => exact absurd (hrefused hs _ hg) hnew
    | _ => rw [hwire, List.append_nil]
  tidy e he := by
    subst he
    refine ⟨hlog.trans (List.append_nil _), ?_⟩
    rw [hwire, h.connections_eq, connections_append]
  held c hc := by
    subst hc
    cases h
    rw [hwire, List.append_assoc]
    exact ⟨hlog, rfl⟩

theorem outcome_start (config : Config) (token : Option String) (capabilities : Object)
    (identity : ReportIdentity) (n : Network ω) (l : Line ω) :
    StartOutcome config token capabilities identity n l
      ((start config token capabilities identity).perform n l).1
      ((start config token capabilities identity).perform n l).2 where
  answered r a hr ha := by
    obtain ⟨base, l₁, hb, haddressed, hsaid, hstart⟩ := start_of_answers hr ha
    cases hp : (start config token capabilities identity).perform n l
    obtain ⟨ts, hwire, hlog, hstage⟩ := stage_enter haddressed hb (hstart.symm.trans hp)
    rw [hsaid.net] at hstage
    refine ⟨base, hb, answerOutcome_of_stage hstage ?_ ?_⟩
    · rw [hwire, hsaid.wire, Line.wire_asked, HttpRequest.sent, if_pos ha.sendable]
      rfl
    · rw [hlog, hsaid.queueLog, Line.queueLog_asked]
  unanswered hnone := by
    obtain ⟨e, l', hp, hlog, hwire⟩ := start_of_not_answers hnone
    rw [hp]
    refine ⟨e, rfl, hlog, ?_⟩
    rcases hwire with hwire | ⟨r, hwire⟩
    · rw [hwire]
    · rw [hwire, connections_append]
  opened c hc := (sends_start config token capabilities identity).result n l c hc

/-- An Agent that takes no token. -/
def distrustful : Network Unit where
  exchange _ net :=
    let body := Text.utf8 (Json.object [("message", .str "bad token")]).text.toList
    (⟨5, .ok ⟨401, body, false⟩⟩, net)
  connect _ _ net := (.ok (), net)
  listen _ _ _ net := (⟨[], none⟩, net)
  disconnect _ _ net := (.ok (), net)
  newId _ := "00000000-0000-4000-8000-000000000000"

theorem outcome_start_badToken :
    ((start .default (some "stale") [] .unnamed).perform distrustful (.fresh ())).1 =
      .error (.invalidToken "bad token") := by
  obtain ⟨base, hb, url, hu, hs⟩ : ∃ base, Url.parse Config.default.agentUrl = .ok base ∧
      ∃ url, base.join Endpoint.session.path = .ok url ∧
        HttpRequest.isSendable ⟨.post, url, some "stale", none⟩ = true := by
    refine ⟨⟨"http", "", "", some (.ipv4 0x7f000001), some 8585, .segments [""], none, none⟩, ?_,
      ⟨"http", "", "", some (.ipv4 0x7f000001), some 8585,
        .segments ["api", "development", "session"], none, none⟩, ?_, ?_⟩
    all_goals decide +kernel
  have hcomplaint : HttpAnswer.complaint
      ⟨401, Text.utf8 (Json.object [("message", .str "bad token")]).text.toList, false⟩ =
        "bad token" := by
    decide +kernel
  obtain ⟨_, -, houtcome⟩ := (outcome_start .default (some "stale") [] .unnamed distrustful
    (.fresh ())).answered _ _ (sessionRequest?_of_join hb hu) ⟨hs, rfl, rfl⟩
  rw [houtcome.unauthorized rfl, hcomplaint]

end Client
end Courier
