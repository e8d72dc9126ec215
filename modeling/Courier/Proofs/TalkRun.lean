import Courier.Agent.Registry

/-!
# What a conversation leaves behind

What is done over a network is a computation that may fail at any point, and what it
has sent by then stays sent. Starting a session sends one request. All that is done
after it, and all that is done with a session on the side of the client, opens and
closes connections at most: it is quiet. Quietness is closed under sequencing, with
what is known of the values on the way, so that each part is looked at once and by
itself. The network is arbitrary throughout.
-/

namespace Courier

/-- What comes of a request that is made: one that cannot be sent is not. -/
def HttpRequest.sent (r : HttpRequest) : List HttpRequest := if r.isSendable then [r] else []

/-- The request that was transmitted, if it is one. -/
def Transmission.request? : Transmission → Option HttpRequest
  | .requested r => some r
  | .connected _ _ | .disconnected _ _ => none

/-- The requests among what is on a wire. -/
def requests (ts : List Transmission) : List HttpRequest := ts.filterMap Transmission.request?

@[simp]
theorem requests_append (ts ts' : List Transmission) :
    requests (ts ++ ts') = requests ts ++ requests ts' :=
  List.filterMap_append

theorem Line.exchange_wire {ω : Type} (n : Network ω) (r : HttpRequest) (l : Line ω) :
    ∃ ts, (l.exchange n r).2.wire = l.wire ++ ts ∧ requests ts = r.sent := by
  unfold exchange HttpRequest.sent
  split
  · exact ⟨[.requested r], rfl, rfl⟩
  · exact ⟨[], (List.append_nil _).symm, rfl⟩

namespace Talk

variable {ω α β : Type} {n : Network ω} {l l' : Line ω}

/-! ## How a conversation runs -/

theorem perform_bind (t : Talk ω α) (f : α → Talk ω β) :
    (t >>= f).perform n l =
      match t.perform n l with
      | (.ok a, l) => (f a).perform n l
      | (.error e, l) => (.error e, l) := by
  unfold perform
  rw [ExceptT.run_bind, ReaderT.run_bind, StateT.run_bind]
  obtain ⟨a, l'⟩ := (t.run.run n).run l
  cases a <;> rfl

theorem perform_tryCatch (t : Talk ω α) (f : Failure → Talk ω α) :
    (tryCatch t f : Talk ω α).perform n l =
      match t.perform n l with
      | (.ok a, l) => (.ok a, l)
      | (.error e, l) => (f e).perform n l := by
  unfold perform
  rw [ExceptT.run_tryCatch, ReaderT.run_bind, StateT.run_bind]
  obtain ⟨a, l'⟩ := (t.run.run n).run l
  cases a <;> rfl

theorem perform_bind_ok {t : Talk ω α} {a : α} (h : t.perform n l = (.ok a, l'))
    (f : α → Talk ω β) : (t >>= f).perform n l = (f a).perform n l' := by
  rw [perform_bind, h]

theorem perform_bind_error {t : Talk ω α} {e : Failure} (h : t.perform n l = (.error e, l'))
    (f : α → Talk ω β) : (t >>= f).perform n l = (.error e, l') := by
  rw [perform_bind, h]

theorem perform_network : (readThe (Network ω) : Talk ω (Network ω)).perform n l = (.ok n, l) :=
  rfl

/-! ## What is sent on the way -/

/-- These are the requests that get onto the wire, whatever the network does, and a value
that comes out in the end is as it should be. -/
structure Sends (t : Talk ω α) (rs : List HttpRequest) (Q : α → Prop) : Prop where
  wire : ∀ n l, ∃ ts, (t.perform n l).2.wire = l.wire ++ ts ∧ requests ts = rs
  result : ∀ n l a, (t.perform n l).1 = .ok a → Q a

/-- Nothing is requested. -/
abbrev Quiet (t : Talk ω α) (Q : α → Prop) : Prop := t.Sends [] Q

variable {Q : α → Prop} {R : β → Prop} {t : Talk ω α} {f : α → Talk ω β}
  {rs : List HttpRequest}

theorem quiet_of_wire (hw : ∀ n l, (t.perform n l).2.wire = l.wire)
    (hr : ∀ n l a, (t.perform n l).1 = .ok a → Q a) : t.Quiet Q :=
  ⟨fun n l => ⟨[], (hw n l).trans (List.append_nil _).symm, rfl⟩, hr⟩

theorem quiet_pure {a : α} (h : Q a) : (pure a : Talk ω α).Quiet Q :=
  quiet_of_wire (fun _ _ => rfl) fun _ _ _ he => by cases he; exact h

theorem quiet_throw (e : Failure) : (throw e : Talk ω α).Quiet Q :=
  quiet_of_wire (fun _ _ => rfl) fun _ _ _ he => by cases he

/-- All is sent before the first value is there. -/
theorem Sends.bind (ht : t.Sends rs Q) (hf : ∀ a, Q a → (f a).Quiet R) :
    (t >>= f).Sends rs R := by
  constructor
  · intro n l
    obtain ⟨ts, hts, hrs⟩ := ht.wire n l
    cases hp : t.perform n l with
    | mk a l' =>
        rw [hp] at hts
        cases a with
        | error e => exact ⟨ts, by rw [perform_bind_error hp]; exact hts, hrs⟩
        | ok a =>
            have hq : Q a := ht.result n l a (by rw [hp])
            obtain ⟨ts', hts', hrs'⟩ := (hf a hq).wire n l'
            refine ⟨ts ++ ts', ?_, by rw [requests_append, hrs, hrs', List.append_nil]⟩
            rw [perform_bind_ok hp, hts', ← List.append_assoc]
            exact congrArg (· ++ ts') hts
  · intro n l b hb
    cases hp : t.perform n l with
    | mk a l' =>
        cases a with
        | error e =>
            rw [perform_bind_error hp] at hb
            cases hb
        | ok a =>
            rw [perform_bind_ok hp] at hb
            exact (hf a (ht.result n l a (by rw [hp]))).result n l' b hb

/-- All is sent after the first value is there, which is at once. -/
theorem sends_after {a : Network ω → α}
    (ht : ∀ n l, ∃ l', t.perform n l = (.ok (a n), l') ∧ l'.wire = l.wire)
    (hf : ∀ n, (f (a n)).Sends rs R) : (t >>= f).Sends rs R := by
  constructor
  · intro n l
    obtain ⟨l', hp, hw⟩ := ht n l
    rw [perform_bind_ok hp, ← hw]
    exact (hf n).wire n l'
  · intro n l b hb
    obtain ⟨l', hp, -⟩ := ht n l
    rw [perform_bind_ok hp] at hb
    exact (hf n).result n l' b hb

theorem Sends.tryCatch {f : Failure → Talk ω α} (ht : t.Sends rs Q) (hf : ∀ e, (f e).Quiet Q) :
    (tryCatch t f : Talk ω α).Sends rs Q := by
  constructor
  · intro n l
    obtain ⟨ts, hts, hrs⟩ := ht.wire n l
    rw [perform_tryCatch]
    cases hp : t.perform n l with
    | mk a l' =>
        rw [hp] at hts
        cases a with
        | ok a => exact ⟨ts, hts, hrs⟩
        | error e =>
            obtain ⟨ts', hts', hrs'⟩ := (hf e).wire n l'
            refine ⟨ts ++ ts', ?_, by rw [requests_append, hrs, hrs', List.append_nil]⟩
            rw [hts', ← List.append_assoc]
            exact congrArg (· ++ ts') hts
  · intro n l a ha
    rw [perform_tryCatch] at ha
    cases hp : t.perform n l with
    | mk a' l' =>
        rw [hp] at ha
        cases a' with
        | ok a' => exact ht.result n l a (by rw [hp]; exact ha)
        | error e => exact (hf e).result n l' a ha

theorem Sends.then (ht : t.Sends rs fun _ => True) (hf : ∀ a, (f a).Quiet R) :
    (t >>= f).Sends rs R :=
  ht.bind fun a _ => hf a

theorem quiet_ite {p : Prop} [Decidable p] {u : Talk ω α} (ht : p → t.Quiet Q)
    (hu : ¬ p → u.Quiet Q) : (if p then t else u).Quiet Q := by
  split
  · next h => exact ht h
  · next h => exact hu h

theorem quiet_network : (readThe (Network ω) : Talk ω (Network ω)).Quiet fun _ => True :=
  quiet_of_wire (fun _ _ => rfl) fun _ _ _ _ => trivial

theorem sends_modifyGet {g : Line ω → α × Line ω}
    (hg : ∀ l, ∃ ts, (g l).2.wire = l.wire ++ ts ∧ requests ts = rs) :
    (modifyGet g : Talk ω α).Sends rs fun _ => True :=
  ⟨fun _ l => hg l, fun _ _ _ _ => trivial⟩

theorem quiet_modifyGet {g : Line ω → α × Line ω} (hg : ∀ l, (g l).2.wire = l.wire) :
    (modifyGet g : Talk ω α).Quiet fun _ => True :=
  quiet_of_wire (fun _ l => hg l) fun _ _ _ _ => trivial

theorem quiet_modify {g : Line ω → Line ω} (hg : ∀ l, (g l).wire = l.wire) :
    (modify g : Talk ω Unit).Quiet fun _ => True :=
  quiet_of_wire (fun _ l => hg l) fun _ _ _ _ => trivial

theorem quiet_note (e : Log.Entry) : (note e : Talk ω Unit).Quiet fun _ => True :=
  quiet_modify fun _ => rfl

theorem quiet_forM {γ : Type} (say : γ → Log.Entry) :
    (es : List γ) → (es.forM fun e => (note (say e) : Talk ω Unit)).Quiet fun _ => True
  | [] => quiet_pure trivial
  | e :: es => (quiet_note (say e)).then fun _ => quiet_forM say es

theorem quiet_connect (host : String) (port : Nat) :
    (connect host port : Talk ω Unit).Quiet fun _ => True := by
  unfold connect
  refine quiet_network.then fun n => Sends.then (quiet_modifyGet fun _ => rfl) fun opened => ?_
  split
  · exact ⟨fun _ _ => ⟨[_], rfl, rfl⟩, fun _ _ _ _ => trivial⟩
  · exact quiet_throw _

theorem quiet_listen (host : String) (port limit : Nat) :
    (listen host port limit : Talk ω Stream).Quiet fun _ => True :=
  quiet_network.then fun _ => quiet_modifyGet fun _ => rfl

theorem quiet_disconnect (host : String) (port : Nat) :
    (disconnect host port : Talk ω (Except String Unit)).Quiet fun _ => True :=
  ⟨fun _ _ => ⟨[_], rfl, rfl⟩, fun _ _ _ _ => trivial⟩

theorem quiet_newId : (newId : Talk ω String).Quiet fun _ => True :=
  quiet_network.then fun _ => quiet_modifyGet fun _ => rfl

theorem sends_operate (r : HttpRequest) :
    (operate r : Talk ω OperationResult).Sends r.sent fun _ => True := by
  have hsend : (send r : Talk ω HttpAnswer).Sends r.sent fun _ => True := by
    refine sends_after (fun n l => ⟨l, rfl, rfl⟩) fun n =>
      Sends.then (sends_modifyGet ?_) fun e => ?_
    · exact fun l => l.exchange_wire n r
    · split
      · exact quiet_pure trivial
      · exact quiet_throw _
  refine hsend.then fun answer => ?_
  split
  · exact quiet_pure trivial
  · exact quiet_throw _

end Talk

/-! ## The socket -/

namespace Socket

variable {ω : Type}

theorem quiet_shakeHands (host : String) (port : Nat) (expected : String) (limit : Nat) :
    (shakeHands host port expected limit : Talk ω _).Quiet fun _ => True := by
  unfold shakeHands
  split
  · exact Talk.quiet_pure trivial
  · exact (Talk.quiet_listen _ _ _).then fun _ => Talk.quiet_pure trivial

theorem quiet_connect (host : String) (port : Nat) (expected : Option String) (limit : Nat) :
    (connect host port expected limit : Talk ω Socket).Quiet fun s => s.isOpen = true := by
  unfold connect
  have hopen : (do
      Talk.note (Log.info ("Socket connection to " ++ host ++ ":" ++ toString port ++
        " established successfully"))
      return ⟨host, port, true⟩ : Talk ω Socket).Quiet fun s => s.isOpen = true :=
    (Talk.quiet_note _).then fun _ => Talk.quiet_pure rfl
  refine (Talk.quiet_connect host port).then fun _ => ?_
  split
  · refine (quiet_shakeHands _ _ _ _).then fun shaken => ?_
    split
    · exact (Talk.quiet_note _).then fun _ => hopen
    · exact (Talk.quiet_disconnect _ _).then fun _ => Talk.quiet_throw _
  · exact hopen

/-- A socket is closed for good, whatever comes of it. -/
theorem close_result (s : Socket) (n : Network ω) (l : Line ω) :
    (s.close.perform n l).1 = .ok { s with isOpen := false } := by
  unfold close
  split
  · have hd : ∃ closed l', (Talk.disconnect s.host s.port).perform n l = (.ok closed, l') :=
      ⟨_, _, rfl⟩
    obtain ⟨closed, l', hd⟩ := hd
    rw [Talk.perform_bind_ok hd]
    cases closed with
    | ok => rfl
    | error text => rfl
  · rfl

theorem quiet_close (s : Socket) : (s.close : Talk ω Socket).Quiet fun _ => True := by
  unfold close
  split
  · refine (Talk.quiet_disconnect _ _).then fun closed => ?_
    split
    · exact (Talk.quiet_note _).then fun _ => Talk.quiet_pure trivial
    · exact (Talk.quiet_note _).then fun _ => Talk.quiet_pure trivial
  · exact (Talk.quiet_note _).then fun _ => Talk.quiet_pure trivial

end Socket
/-! ## Starting a session -/

namespace Client

variable {ω : Type} {config : Config} {token : Option String} {capabilities : Object}
  {identity : ReportIdentity} {n : Network ω} {l : Line ω}

/-- The request for a session, if it can be addressed. -/
def sessionRequest? (config : Config) (token : Option String) (capabilities : Object)
    (identity : ReportIdentity) : Option HttpRequest := do
  let base ← (Url.parse config.agentUrl).toOption
  let url ← (base.join Endpoint.session.path).toOption
  return ⟨.post, url, token, some (SessionRequest.ofConfig config capabilities identity).encode⟩

theorem sessionRequest?_of_join {base url : Url} (hb : Url.parse config.agentUrl = .ok base)
    (hu : base.join Endpoint.session.path = .ok url) :
    sessionRequest? config token capabilities identity = some ⟨.post, url, token,
      some (SessionRequest.ofConfig config capabilities identity).encode⟩ := by
  rw [sessionRequest?, hb]
  show (base.join Endpoint.session.path).toOption.bind _ = _
  rw [hu]
  rfl

/-- What is requested to start a session. -/
def sessionRequests (config : Config) (token : Option String) (capabilities : Object)
    (identity : ReportIdentity) : List HttpRequest :=
  (sessionRequest? config token capabilities identity).elim [] HttpRequest.sent

/-- Opens the socket and the queue of a session that was granted. -/
def settle (config : Config) (token : Option String) (identity : ReportIdentity) (base : Url)
    (answer : SessionAnswer) (version : Version) : Talk ω Client := do
  match base.hostText? with
  | none => throw (.general ("Agent URL " ++ base.text ++ " has no host"))
  | some host =>
      let socket ← Socket.connect host answer.socketPort answer.uuid config.handshakeTimeout
      let session := answer.session (← Talk.newId)
      let dispatch ← startQueue config base token version
      Talk.note (Log.info "Session initialized")
      return {
        config, token, session, identity, version, socket, dispatch
        baseUrl := base, localReport := answer.localReport, retired := [] }

/-- What is done once the Agent has answered. -/
def enter (config : Config) (token : Option String) (identity : ReportIdentity) (base : Url)
    (r : OperationResult) : Talk ω Client := do
  let answer ← grant config r
  let version ← checkVersion identity answer.version
  if let some address := answer.localReportUrl then
    Talk.note (Log.info ("Execution report will be available at " ++ reportAddress address base))
  settle config token identity base answer version

theorem start_eq : (start config token capabilities identity : Talk ω Client) = (do
    let base ← Talk.parseUrl config.agentUrl
    Talk.note (Log.info ("Initializing new session with the Agent at " ++ base.text))
    enter config token identity base
      (← requestSession config base token capabilities identity)) :=
  rfl

/-- A client as a start leaves it. -/
structure Opened (config : Config) (token : Option String) (identity : ReportIdentity)
    (c : Client) : Prop where
  settings : c.config = config
  base : Url.parse config.agentUrl = .ok c.baseUrl
  token_eq : c.token = token
  identity_eq : c.identity = identity
  socket : c.socket.isOpen = true
  retired : c.retired = []
  queue : ∃ mode, deliveryMode c.config c.baseUrl c.version = .ok mode ∧
    c.dispatch = .ofQueue (.start mode c.token)

theorem quiet_grant (r : OperationResult) :
    (grant config r : Talk ω SessionAnswer).Quiet fun _ => True := by
  refine Talk.quiet_ite (fun _ => (Talk.quiet_forM id _).then fun _ =>
    (Talk.quiet_throw _ (Q := fun _ => True)).then fun _ => ?_) fun _ => ?_
  all_goals
    split
    · exact (Talk.quiet_forM _ _).then fun _ => Talk.quiet_pure trivial
    · exact Talk.quiet_throw _

theorem quiet_checkVersion (tag : Option String) :
    (checkVersion identity tag : Talk ω Version).Quiet fun _ => True := by
  refine (Talk.quiet_forM id _).then fun _ => (Talk.quiet_note _).then fun _ => ?_
  refine Talk.quiet_ite (fun _ => ?_) fun _ => Talk.quiet_pure trivial
  refine (Talk.quiet_note _).then fun _ => ?_
  exact (Talk.quiet_throw _ (Q := fun _ => True)).then fun _ => Talk.quiet_pure trivial

theorem quiet_queueMode (base : Url) (version : Version) :
    (queueMode config base version : Talk ω QueueMode).Quiet fun mode =>
      deliveryMode config base version = .ok mode := by
  refine Talk.quiet_ite (fun _ => (Talk.quiet_note _).then fun _ => ?_) fun _ => ?_
  all_goals
    split
    · next h => exact Talk.quiet_pure h
    · exact Talk.quiet_throw _

theorem quiet_startQueue (base : Url) (version : Version) :
    (startQueue config base token version : Talk ω Dispatch).Quiet fun d =>
      ∃ mode, deliveryMode config base version = .ok mode ∧
        d = .ofQueue (.start mode token) := by
  refine (quiet_queueMode base version).bind fun mode hm => ?_
  refine Talk.Sends.then (Talk.quiet_modify fun _ => rfl) fun _ => ?_
  exact Talk.quiet_pure ⟨mode, hm, rfl⟩

theorem quiet_settle {base : Url} (hb : Url.parse config.agentUrl = .ok base)
    (answer : SessionAnswer) (version : Version) :
    (settle config token identity base answer version : Talk ω Client).Quiet
      (Opened config token identity) := by
  unfold settle
  split
  · exact Talk.quiet_throw _
  · refine (Socket.quiet_connect _ _ _ _).bind fun socket hs => Talk.quiet_newId.then fun _ => ?_
    exact (quiet_startQueue base version).bind fun d hd => (Talk.quiet_note _).then fun _ =>
      Talk.quiet_pure ⟨rfl, hb, rfl, rfl, hs, rfl, hd⟩

theorem quiet_enter {base : Url} (hb : Url.parse config.agentUrl = .ok base)
    (r : OperationResult) :
    (enter config token identity base r : Talk ω Client).Quiet (Opened config token identity) := by
  refine (quiet_grant r).then fun answer => (quiet_checkVersion _).then fun version => ?_
  generalize answer.localReportUrl = address
  cases address with
  | none => exact quiet_settle hb answer version
  | some address => exact (Talk.quiet_note _).then fun _ => quiet_settle hb answer version

theorem sends_requestSession {base url : Url} (hu : base.join Endpoint.session.path = .ok url) :
    (requestSession config base token capabilities identity : Talk ω OperationResult).Sends
      (HttpRequest.sent ⟨.post, url, token,
        some (SessionRequest.ofConfig config capabilities identity).encode⟩) fun _ => True := by
  have hr : (Talk.resolve base Endpoint.session.path : Talk ω Url) = pure url := by
    rw [Talk.resolve, hu]
  unfold requestSession
  rw [hr]
  refine Talk.sends_after (fun _ l => ⟨l, rfl, rfl⟩) fun _ =>
    (Talk.sends_operate _).tryCatch fun e => Talk.quiet_ite (fun _ => ?_) fun _ => ?_
  · exact (Talk.quiet_note _).then fun _ => Talk.quiet_throw _
  · exact Talk.quiet_throw _

/-- The request for a session is all that is sent, and a client that comes of it is open. -/
theorem sends_start (config : Config) (token : Option String) (capabilities : Object)
    (identity : ReportIdentity) : (start config token capabilities identity : Talk ω Client).Sends
      (sessionRequests config token capabilities identity) (Opened config token identity) := by
  rw [start_eq, sessionRequests]
  cases hb : Url.parse config.agentUrl with
  | error e =>
      -- Without an address nothing is sent, nor is there anything to send.
      have hp : (Talk.parseUrl config.agentUrl : Talk ω Url) = throw (.url e) := by
        rw [Talk.parseUrl, hb]
      have hs : sessionRequest? config token capabilities identity = none := by
        rw [sessionRequest?, hb]
        rfl
      rw [hp, hs]
      exact Talk.quiet_of_wire (fun _ _ => rfl) fun _ _ _ h => nomatch h
  | ok base =>
      have hp : (Talk.parseUrl config.agentUrl : Talk ω Url) = pure base := by
        rw [Talk.parseUrl, hb]
      rw [hp]
      refine Talk.sends_after (fun _ l => ⟨l, rfl, rfl⟩) fun _ =>
        Talk.sends_after (a := fun _ => ()) (fun _ l => ⟨l.note _, rfl, rfl⟩) fun _ => ?_
      cases hu : base.join Endpoint.session.path with
      | error e =>
          have hs : sessionRequest? config token capabilities identity = none := by
            rw [sessionRequest?, hb]
            show (base.join Endpoint.session.path).toOption.bind _ = _
            rw [hu]
            rfl
          have hr : (Talk.resolve base Endpoint.session.path : Talk ω Url) = throw (.url e) := by
            rw [Talk.resolve, hu]
          rw [hs, requestSession, hr]
          exact Talk.quiet_of_wire (fun _ _ => rfl) fun _ _ _ h => nomatch h
      | ok url =>
          rw [sessionRequest?_of_join hb hu]
          exact (sends_requestSession hu).then fun r => quiet_enter hb r

end Client
end Courier
