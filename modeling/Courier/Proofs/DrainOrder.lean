import Courier.Proofs.WireOrder

/-!
# Acquires on the wire

Where requests can be sent to every Agent that is asked for, and no stop times out, an
acquire shows on the wire in its place. First come the attempts at all reports that were
accepted before it. Then a session is requested, if there is none that can be taken up
again. All attempts at reports that are accepted later come after that. So the reports of
one client arrive in the order they were submitted, however often its queue was started
anew.

That the URL of the Agent is read as one does not suffice: under a token that cannot stand
in a header nothing is sent, though there may be no session.
-/

namespace Courier

/-! ## Addresses -/

namespace Client

variable {config : Config} {token : Option String} {url : Url}

/-- A session can be requested, and that makes no reports. -/
theorem exists_sessionRequests (hp : Url.parse config.agentUrl = .ok url)
    (hs : HttpRequest.isSendable ⟨.post, url, token, none⟩ = true) (capabilities : Object)
    (identity : ReportIdentity) : ∃ q, sessionRequests config token capabilities identity = [q] ∧
      q.startsSession = true ∧ q.reports = false := by
  have ha : Addressed url token := addressed_of_parse hp hs
  refine ⟨⟨.post, url.endpoint .session, token,
    some (SessionRequest.ofConfig config capabilities identity).encode⟩, ?_,
    HttpRequest.startsSession_endpoint, HttpRequest.reports_endpoint⟩
  have hrequest : sessionRequest? config token capabilities identity =
      some ⟨.post, url.endpoint .session, token,
        some (SessionRequest.ofConfig config capabilities identity).encode⟩ := by
    rw [sessionRequest?, hp]
    show (url.join Endpoint.session.path).toOption.bind _ = _
    rw [ha.join_endpoint]
    rfl
  rw [sessionRequests, hrequest]
  exact ha.sent_endpoint .session _

end Client

namespace Registry

variable {ω : Type} {n : Network ω} {r r' : Registry ω}

/-- The URL and the token of each client. -/
def addresses (r : Registry ω) : List (Url × Option String) :=
  r.clients.map fun c => (c.baseUrl, c.token)

theorem addresses_update {act : Client → Line ω → Client × Line ω} (hr : r.Sound)
    (ha : Client.Neutral act) (i : Nat) : (r.update i act).addresses = r.addresses := by
  cases hi : r.clients[i]? with
  | none => rw [update_none hi]
  | some c =>
      obtain ⟨mode, hc⟩ := hr.clients c (List.mem_of_getElem? hi)
      obtain ⟨before, after, hsplit, -, hset⟩ := Client.exists_split_of_getElem? hi
      have hsame : ((act c r.line).1.baseUrl, (act c r.line).1.token) = (c.baseUrl, c.token) := by
        have hturns := ha.turns r.line hc
        generalize (act c r.line).1 = c' at hturns ⊢
        generalize (act c r.line).2.wire = w at hturns
        cases hturns with
        | inUse => rfl
        | earlier => rfl
      rw [update_eq hi]
      show (r.clients.set i (act c r.line).1).map _ = r.clients.map _
      rw [hset, hsplit, List.map_append, List.map_append, List.map_cons, List.map_cons, hsame]

theorem Releases.addresses (h : Releases n r r') : r'.addresses = r.addresses := by
  cases h with
  | idle => rfl
  | live hc =>
      rw [Registry.addresses, Registry.addresses, hc, List.map_append, List.map_append]
      rfl

theorem Acquires.addresses {config : Config} {token : Option String} {identity : ReportIdentity}
    {qs : List HttpRequest} {result : Except Failure Nat}
    (h : Acquires n config token identity qs r result r') :
    r'.addresses = r.addresses ∨ ∃ base, Url.parse config.agentUrl = .ok base ∧
      r'.addresses = r.addresses ++ [(base, token)] := by
  cases h with
  | started _ hrel hst =>
      cases hst with
      | failed => exact .inl hrel.addresses
      | @opened c line ts _ _ ho =>
          refine .inr ⟨c.baseUrl, ho.base, ?_⟩
          rw [← hrel.addresses, Registry.addresses, Registry.addresses, List.map_append,
            List.map_singleton, ho.token_eq]
  | reused hc =>
      left
      rw [Registry.addresses, Registry.addresses, hc, List.map_append, List.map_append]
      rfl

/-! ## What comes later -/

/-- The wire has gone on, and what was over has stayed as it was. -/
structure Later (r r' : Registry ω) : Prop where
  wire : ∃ ts, r'.line.wire = r.line.wire ++ ts
  follows : r.Follows r'

theorem Later.refl (r : Registry ω) : r.Later r := ⟨⟨[], (List.append_nil _).symm⟩, .refl r⟩

theorem Later.trans {r'' : Registry ω} (h : r.Later r') (h' : r'.Later r'') : r.Later r'' := by
  obtain ⟨ts, hts⟩ := h.wire
  obtain ⟨ts', hts'⟩ := h'.wire
  exact ⟨⟨ts ++ ts', by rw [hts', hts, List.append_assoc]⟩, h.follows.trans h'.follows⟩

theorem Silent.later (h : r.Silent r') (hf : r.Follows r') : r.Later r' :=
  ⟨h.imp fun _ hts => hts.1, hf⟩

/-- After all workers have left, the first queues are those that there were. -/
theorem Follows.postedBy_take {mid last : Registry ω} (h : mid.Follows last) (hi : mid.Idle) :
    postedBy (last.queues.take mid.queues.length) = postedBy mid.queues := by
  have hsent := h.take hi (fun d => d.sent.map Attempt.request) fun d d' hs _ => by rw [hs]
  rw [postedBy, postedBy, List.flatMap_def, List.flatMap_def, hsent]

theorem Follows.gone_take {mid last : Registry ω} (h : mid.Follows last) (hi : mid.Idle) :
    ∀ d ∈ last.queues.take mid.queues.length, d.queue.isGone = true := by
  intro d hd
  obtain ⟨j, hj⟩ := List.mem_iff_getElem?.1 hd
  rw [List.getElem?_take] at hj
  split at hj
  · next hlt =>
      obtain ⟨d', hj', hd'⟩ := h j _ (List.getElem?_eq_getElem hlt)
      cases hj.symm.trans hj'
      exact (hd' (hi _ (List.getElem_mem hlt))).1
  · cases hj

/-- What the first queues have not sent has been sent by the others. -/
theorem InOrder.later {k : Nat} {earlier ts : List Transmission} (h : r.InOrder)
    (hw : reportRequests r.line.wire = reportRequests earlier ++ reportRequests ts)
    (he : reportRequests earlier = postedBy (r.queues.take k)) :
    reportRequests ts = postedBy (r.queues.drop k) := by
  have hsplit : postedBy r.queues = postedBy (r.queues.take k) ++ postedBy (r.queues.drop k) := by
    rw [postedBy, postedBy, postedBy, ← List.flatMap_append, List.take_append_drop]
  have hall : postedBy (r.queues.take k) ++ reportRequests ts = postedBy r.queues := by
    rw [← he, ← hw]
    exact h
  exact List.append_cancel_left (hall.trans hsplit)

/-! ## An acquire -/

/-- The live client gives way to the one that is asked for. -/
structure Takeover (identity : ReportIdentity) (r mid r' : Registry ω)
    (opening : List Transmission) : Prop where
  handover : r.Handover mid
  ordered : mid.Ordered
  silent : r.Silent mid
  follows : mid.Follows r'
  wire : r'.line.wire = mid.line.wire ++ opening
  reports : reportRequests opening = []
  starts : r.NeedsSession identity → ∃ q, sessionStarts opening = [q]
  takesUp : ¬ r.NeedsSession identity → sessionStarts opening = []

theorem Takeover.later {identity : ReportIdentity} {mid : Registry ω} {opening : List Transmission}
    (h : Takeover identity r mid r' opening) : r.Later r' :=
  (h.silent.later h.handover.follows).trans ⟨⟨opening, h.wire⟩, h.follows⟩

theorem Acquires.takeover {config : Config} {token : Option String} {identity : ReportIdentity}
    {q : HttpRequest} {result : Except Failure Nat}
    (h : Acquires n config token identity [q] r result r') (ho : r.Ordered) (hp : r.Prompt n)
    (hm : ∀ d ∈ r'.queues, ∀ a ∈ d.sent, a.MakesReports) (hstarts : q.startsSession = true)
    (hreports : q.reports = false) :
    r'.Ordered ∧ ∃ mid opening, Takeover identity r mid r' opening := by
  obtain ⟨mid, fresh, ts, hhand, hq, hs, hn, hw, hts⟩ := h.handover ho hp
  have hmid : ∀ d ∈ mid.queues, ∀ a ∈ d.sent, a.MakesReports :=
    fun d hd => hm d (hq ▸ List.mem_append_left _ hd)
  obtain ⟨hordered, hsilent⟩ := hhand.ordered ho hmid
  have hnone : reportRequests ts = [] := by
    rcases hts with ⟨-, hts⟩ | ⟨-, hts⟩
    · rw [reportRequests, hts, List.filter_cons, hreports]
      rfl
    · rw [reportRequests, hts]
      rfl
  refine ⟨hordered.begin hhand.idle hq hs hn hw hnone, mid, ts, hhand, hordered, hsilent,
    follows_of_append hq, hw, hnone, fun hneeds => ?_, fun hneeds => ?_⟩
  · rcases hts with ⟨-, hts⟩ | ⟨hno, -⟩
    · refine ⟨q, ?_⟩
      rw [sessionStarts, hts, List.filter_cons, hstarts]
      rfl
    · exact absurd hneeds hno
  · rcases hts with ⟨hyes, -⟩ | ⟨-, hts⟩
    · exact absurd hyes hneeds
    · rw [sessionStarts, hts]
      rfl

/-- A session that is not requested is the one of the live client. -/
theorem Acquires.same {config : Config} {token : Option String} {identity : ReportIdentity}
    {qs : List HttpRequest} {result : Except Failure Nat}
    (h : Acquires n config token identity qs r result r') (hn : ¬ r.NeedsSession identity) :
    ∃ i c c', r.current = some i ∧ result = .ok i ∧ r.clients[i]? = some c ∧
      r'.clients[i]? = some c' ∧ c'.session = c.session := by
  cases h with
  | started hneeds => exact absurd hneeds hn
  | @reused cs c d' line mode hc hcur =>
      refine ⟨cs.length, c, _, hcur, rfl, ?_, List.getElem?_concat_length, rfl⟩
      rw [hc]
      exact List.getElem?_concat_length

end Registry

/-! ## Orderly runs -/

/-- Requests can be sent to an Agent at this address, under this token. -/
def Reachable (address : String) (token : Option String) : Prop :=
  ∃ url, Url.parse address = .ok url ∧ HttpRequest.isSendable ⟨.post, url, token, none⟩ = true

instance (address : String) (token : Option String) : Decidable (Reachable address token) :=
  match h : Url.parse address with
  | .ok url => decidable_of_iff (HttpRequest.isSendable ⟨.post, url, token, none⟩ = true)
      ⟨fun hs => ⟨url, h, hs⟩, fun ⟨_, hp, hs⟩ => by cases h.symm.trans hp; exact hs⟩
  | .error _ => .isFalse fun ⟨_, hp, _⟩ => by cases h.symm.trans hp

/-- What is asked of an acquire can be sent. -/
def Deed.Proper : Deed → Prop
  | .acquire config token _ _ => Reachable config.agentUrl token
  | _ => True

instance : (d : Deed) → Decidable d.Proper
  | .acquire config token _ _ => inferInstanceAs (Decidable (Reachable config.agentUrl token))
  | .shutdown | .submit _ _ | .work _ _ | .wait _ => .isTrue trivial

instance {ω : Type} (n : Network ω) (r : Registry ω) : Decidable (r.Prompt n) :=
  match hcur : r.current with
  | none => .isTrue fun i _ hi => by cases hcur.symm.trans hi
  | some i =>
      match hc : r.clients[i]? with
      | none => .isTrue fun j _ hj hx => by cases hcur.symm.trans hj; cases hc.symm.trans hx
      | some c => decidable_of_iff ((c.stop n r.line).1.queue.isGone = true)
          ⟨fun hg j _ hj hx => by cases hcur.symm.trans hj; cases hc.symm.trans hx; exact hg,
            fun hp => hp i c hcur hc⟩

namespace Tenure

variable {ω : Type} {n : Network ω} {net : ω} {t t' : Tenure ω}

/-- No stop times out, if there is one. -/
def Prompt (n : Network ω) (t : Tenure ω) : Deed → Prop
  | .acquire _ _ _ _ | .shutdown => t.registry.Prompt n
  | _ => True

/-- All that is asked for can be sent, and no stop times out. -/
def Orderly (n : Network ω) : Tenure ω → List Deed → Prop
  | _, [] => True
  | t, d :: ds => d.Proper ∧ t.Prompt n d ∧ Orderly n (t.perform n d) ds

instance (n : Network ω) (t : Tenure ω) : (d : Deed) → Decidable (t.Prompt n d)
  | .acquire _ _ _ _ | .shutdown => inferInstanceAs (Decidable (t.registry.Prompt n))
  | .submit _ _ | .work _ _ | .wait _ => .isTrue trivial

instance decidableOrderly (n : Network ω) :
    (t : Tenure ω) → (ds : List Deed) → Decidable (Orderly n t ds)
  | _, [] => .isTrue trivial
  | t, d :: ds =>
      have := decidableOrderly n (t.perform n d) ds
      inferInstanceAs (Decidable (d.Proper ∧ t.Prompt n d ∧ Orderly n (t.perform n d) ds))

theorem orderly_append (ds ds' : List Deed) : Orderly n t (ds ++ ds') ↔
    Orderly n t ds ∧ Orderly n (ds.foldl (perform n) t) ds' := by
  induction ds generalizing t with
  | nil => exact (iff_of_eq (true_and _)).symm
  | cons d ds ih =>
      rw [List.cons_append, Orderly, Orderly, ih, and_assoc, and_assoc, List.foldl_cons]

/-! ## What holds at all times -/

/-- What holds of a tenure in which things are done in an orderly way. -/
structure Ordered (t : Tenure ω) : Prop where
  sound : t.Sound
  addressed : ∀ a ∈ t.registry.addresses, Client.Addressed a.1 a.2
  ordered : t.registry.Ordered

theorem makesReports (hs : t.Sound)
    (ha : ∀ a ∈ t.registry.addresses, Client.Addressed a.1 a.2) :
    ∀ d ∈ t.registry.queues, ∀ a ∈ d.sent, a.MakesReports := by
  intro d hd
  obtain ⟨c, hc, hd⟩ := List.mem_flatMap.1 hd
  obtain ⟨mode, hsound⟩ := hs.registry.clients c hc
  obtain ⟨i, hi⟩ := List.mem_iff_getElem?.1 hc
  refine hsound.makesReports (ha _ (List.mem_map_of_mem hc)) (fun p hp => ?_) d hd
  obtain ⟨report, -, hreport⟩ := List.mem_filterMap.1 ((hs.ledger i c hi).subset hp)
  refine ⟨report, ?_⟩
  cases hparcel : Client.parcel c.baseUrl report with
  | error e =>
      rw [hparcel] at hreport
      cases hreport
  | ok p' =>
      rw [hparcel] at hreport
      cases hreport
      rfl

theorem ordered_start (net : ω) : (start net).Ordered where
  sound := sound_start net
  addressed := List.forall_mem_nil _
  ordered := ⟨List.forall_mem_nil _, fun _ => List.forall_mem_nil _, rfl⟩

theorem Ordered.neutral (h : t.Ordered) {act : Client → Line ω → Client × Line ω}
    (ha : Client.Neutral act) (i : Nat) (hs : t'.Sound)
    (ht : t'.registry = t.registry.update i act) :
    t'.Ordered ∧ t.registry.Later t'.registry := by
  have haddressed : ∀ a ∈ t'.registry.addresses, Client.Addressed a.1 a.2 := by
    rw [ht, Registry.addresses_update h.sound.registry ha i]
    exact h.addressed
  rcases Registry.update_turns h.sound.registry ha i with he | hturn
  · have hsame : t'.registry = t.registry := ht.trans he
    exact ⟨⟨hs, haddressed, hsame ▸ h.ordered⟩, hsame ▸ .refl _⟩
  · rw [← ht] at hturn
    have hcur : t'.registry.current = t.registry.current := by rw [ht, update_current]
    obtain ⟨hordered, hsilent⟩ :=
      hturn.ordered h.ordered (fun hn => hcur ▸ hn) (makesReports hs haddressed)
    exact ⟨⟨hs, haddressed, hordered⟩, hsilent.later hturn.follows⟩

theorem Ordered.acquire (h : t.Ordered) {config : Config} {token : Option String}
    {capabilities : Object} {identity : ReportIdentity}
    (hd : (Deed.acquire config token capabilities identity).Proper)
    (hp : t.registry.Prompt n) :
    (t.perform n (.acquire config token capabilities identity)).Ordered ∧
      ∃ mid opening, Registry.Takeover identity t.registry mid
        (t.perform n (.acquire config token capabilities identity)).registry opening := by
  obtain ⟨url, hurl, hsend⟩ := hd
  have hsound := h.sound.perform (n := n) (.acquire config token capabilities identity)
  have hacq := Registry.acquire_acquires (n := n) h.sound.registry config token capabilities
    identity
  obtain ⟨q, hq, hstarts, hreports⟩ :=
    Client.exists_sessionRequests hurl hsend capabilities identity
  rw [hq] at hacq
  have haddressed : ∀ a ∈ (t.perform n (.acquire config token capabilities
      identity)).registry.addresses, Client.Addressed a.1 a.2 := by
    intro a hmem
    rcases hacq.addresses with he | ⟨base, hbase, he⟩
    · exact h.addressed a (he ▸ hmem)
    · replace hmem : a ∈ t.registry.addresses ++ [(base, token)] := he ▸ hmem
      rcases List.mem_append.1 hmem with hmem | hmem
      · exact h.addressed a hmem
      · rw [List.mem_singleton.1 hmem]
        cases hurl.symm.trans hbase
        exact Client.addressed_of_parse hurl hsend
  obtain ⟨hordered, htakeover⟩ :=
    hacq.takeover h.ordered hp (makesReports hsound haddressed) hstarts hreports
  exact ⟨⟨hsound, haddressed, hordered⟩, htakeover⟩

theorem Ordered.perform (h : t.Ordered) {d : Deed} (hd : d.Proper) (hp : t.Prompt n d) :
    (t.perform n d).Ordered ∧ t.registry.Later (t.perform n d).registry := by
  have hsound := h.sound.perform (n := n) d
  cases d with
  | submit i report => exact h.neutral (Client.neutral_submit report) i hsound rfl
  | work i k => exact h.neutral (Client.neutral_work n k) i hsound rfl
  | wait ms =>
      exact ⟨⟨hsound, h.addressed, h.ordered.sequential, h.ordered.idle, h.ordered.inOrder⟩,
        ⟨[], (List.append_nil _).symm⟩, Registry.Follows.refl _⟩
  | shutdown =>
      have hrel := Registry.shutdown_releases (n := n) h.sound.registry
      have haddressed : ∀ a ∈ (t.perform n .shutdown).registry.addresses,
          Client.Addressed a.1 a.2 := fun a hmem => h.addressed a (hrel.addresses ▸ hmem)
      have hhand := hrel.handover h.ordered hp
      obtain ⟨hordered, hsilent⟩ := hhand.ordered h.ordered (makesReports hsound haddressed)
      exact ⟨⟨hsound, haddressed, hordered⟩, hsilent.later hhand.follows⟩
  | acquire config token capabilities identity =>
      obtain ⟨hordered, mid, opening, htakeover⟩ := h.acquire hd hp
      exact ⟨hordered, htakeover.later⟩

theorem Ordered.foldl (h : t.Ordered) {ds : List Deed} (ho : Orderly n t ds) :
    (ds.foldl (Tenure.perform n) t).Ordered ∧
      t.registry.Later (ds.foldl (Tenure.perform n) t).registry := by
  induction ds generalizing t with
  | nil => exact ⟨h, .refl _⟩
  | cons d ds ih =>
      obtain ⟨hd, hp, ho⟩ := ho
      obtain ⟨h', hlater⟩ := h.perform hd hp
      obtain ⟨hlast, hlater'⟩ := ih h' ho
      exact ⟨hlast, hlater.trans hlater'⟩

/-! ## One queue after the other -/

theorem exists_attemptsAt {ds : List Dispatch} {mode : QueueMode} {token : Option String}
    (h : ∀ d ∈ ds, d.Lives mode token) :
    ∃ ps, Queue.AttemptsAt mode token (ds.flatMap Dispatch.sent) ps ∧
      ps.Sublist (ds.flatMap fun d => d.queue.accepted) := by
  induction ds with
  | nil => exact ⟨[], Queue.attemptsAt_nil mode token, .slnil⟩
  | cons d ds ih =>
      obtain ⟨ps, hps, hprefix⟩ := (h d List.mem_cons_self).sent_attemptsAt
      obtain ⟨ps', hps', hsub⟩ := ih fun d' hd' => h d' (List.mem_cons_of_mem d hd')
      rw [List.flatMap_cons, List.flatMap_cons]
      exact ⟨ps ++ ps', hps.append hps', hprefix.sublist.append hsub⟩

/-! ## An acquire in a run -/

/-- How an acquire shows on the wire: `t` is there before it, `t'` after it, and `last` some time
later. What it has the queues send is `drained`, and what it sends itself is `opening`. -/
structure DrainOrder (identity : ReportIdentity) (t t' last : Tenure ω)
    (drained opening later : List Transmission) : Prop where
  acquired : t'.registry.line.wire = t.registry.line.wire ++ drained ++ opening
  goesOn : last.registry.line.wire = t'.registry.line.wire ++ later
  /-- A session is requested once, after all that is drained, if none can be taken up again. -/
  drains : sessionStarts drained = []
  starts : t.registry.NeedsSession identity → ∃ q, sessionStarts opening = [q]
  /-- Otherwise none is, and the live client is returned with the session it has. -/
  takesUp : ¬ t.registry.NeedsSession identity → sessionStarts opening = [] ∧
    ∃ i c c', t.registry.current = some i ∧ t'.returned = some i ∧
      t.registry.clients[i]? = some c ∧ t'.registry.clients[i]? = some c' ∧
      c'.session = c.session
  /-- The queues there were by then have accepted what they had, and their workers have left. -/
  accepted : (last.registry.queues.take t.registry.queues.length).map (fun d => d.queue.accepted) =
    t.registry.queues.map fun d => d.queue.accepted
  gone : ∀ d ∈ last.registry.queues.take t.registry.queues.length, d.queue.isGone = true
  /-- All that they ever send out is on the wire before the request. -/
  before : reportRequests (t.registry.line.wire ++ drained) =
    postedBy (last.registry.queues.take t.registry.queues.length)
  between : reportRequests opening = []
  /-- All that the queues send out that began later is on the wire after it. -/
  after : reportRequests later = postedBy (last.registry.queues.drop t.registry.queues.length)
  /-- A queue whose worker has left has tried all that it accepted, if there was room for it. -/
  attempted : ∀ c ∈ last.registry.clients, ∀ d ∈ c.dispatches, d.queue.isGone = true →
    d.queue.mode.fits = true → Queue.AttemptsAt d.queue.mode c.token d.sent d.queue.accepted
  /-- The reports on the wire are those of one client after the other. -/
  arrivals : reportRequests last.registry.line.wire =
    last.registry.clients.flatMap fun c => (c.dispatches.flatMap Dispatch.sent).map Attempt.request
  /-- Those of one client are there in the order they were submitted, whatever queue took them. -/
  inOrder : ∀ (i : Nat) (c : Client), last.registry.clients[i]? = some c → ∃ mode ps,
    Client.deliveryMode c.config c.baseUrl c.version = .ok mode ∧
      Queue.AttemptsAt mode c.token (c.dispatches.flatMap Dispatch.sent) ps ∧
      ps.Sublist ((last.through i).filterMap fun r => (Client.parcel c.baseUrl r).toOption)

theorem drainOrder_of_takeover {last : Tenure ω} {identity : ReportIdentity} {mid : Registry ω}
    {opening : List Transmission}
    (h : Registry.Takeover identity t.registry mid t'.registry opening) (hlast : last.Ordered)
    (hlater : t'.registry.Later last.registry)
    (hsame : ¬ t.registry.NeedsSession identity → ∃ i c c', t.registry.current = some i ∧
      t'.returned = some i ∧ t.registry.clients[i]? = some c ∧
      t'.registry.clients[i]? = some c' ∧ c'.session = c.session) :
    ∃ drained later, DrainOrder identity t t' last drained opening later := by
  obtain ⟨drained, hdrained, hquiet⟩ := h.silent
  obtain ⟨later, hwire⟩ := hlater.wire
  have hfollows := h.follows.trans hlater.follows
  have hlength := h.handover.length_eq
  have hbefore := hfollows.postedBy_take h.handover.idle
  have haccepted := hfollows.take h.handover.idle (fun d => d.queue.accepted) fun _ _ _ ha => ha
  have hgone := hfollows.gone_take h.handover.idle
  rw [hlength] at hbefore haccepted hgone
  have hmid : reportRequests (t.registry.line.wire ++ drained) =
      postedBy (last.registry.queues.take t.registry.queues.length) := by
    rw [← hdrained, hbefore]
    exact h.ordered.inOrder
  refine ⟨drained, later, ?_⟩
  exact {
    acquired := by rw [h.wire, hdrained]
    goesOn := hwire
    drains := hquiet
    starts := h.starts
    takesUp := fun hn => ⟨h.takesUp hn, hsame hn⟩
    accepted := haccepted.trans h.handover.accepted
    gone := hgone
    before := hmid
    between := h.reports
    after := by
      refine hlast.ordered.inOrder.later ?_ hmid
      rw [hwire, h.wire, hdrained, reportRequests_append, reportRequests_append,
        reportRequests_append, h.reports, List.append_nil]
    attempted := fun c hc d hd hg hf => by
      obtain ⟨mode, hs⟩ := hlast.sound.registry.clients c hc
      have hl := hs.lives d hd
      rw [hl.queue.frame.1] at hf ⊢
      exact hl.sent_all hf hg
    arrivals := by
      rw [hlast.ordered.inOrder, postedBy, Registry.queues, List.flatMap_assoc]
      simp only [List.map_flatMap]
    inOrder := fun i c hi => by
      obtain ⟨mode, hs⟩ := hlast.sound.registry.clients c (List.mem_of_getElem? hi)
      obtain ⟨ps, hps, hsub⟩ := exists_attemptsAt hs.lives
      exact ⟨mode, ps, hs.delivery, hps, hsub.trans (hlast.sound.ledger i c hi)⟩ }

/-- Reports are drained before a session is requested and before any later ones are sent. -/
theorem drainOrder_run (n : Network ω) (net : ω) {before after : List Deed} {config : Config}
    {token : Option String} {capabilities : Object} {identity : ReportIdentity}
    (h : Orderly n (start net) (before ++ .acquire config token capabilities identity :: after)) :
    ∃ drained opening later, DrainOrder identity (run n net before)
      (run n net (before ++ [.acquire config token capabilities identity]))
      (run n net (before ++ .acquire config token capabilities identity :: after))
      drained opening later := by
  obtain ⟨hbefore, hproper, hprompt, hafter⟩ := (orderly_append before _).1 h
  have ht := ((ordered_start net).foldl hbefore).1
  obtain ⟨ht', mid, opening, htake⟩ := ht.acquire hproper hprompt
  obtain ⟨hlast, hlater⟩ := ht'.foldl hafter
  have hacq := Registry.acquire_acquires (n := n) ht.sound.registry config token capabilities
    identity
  rw [run, run, run, List.foldl_append, List.foldl_append]
  obtain ⟨drained, later, hdrain⟩ := drainOrder_of_takeover htake hlast hlater fun hn => by
    obtain ⟨i, c, c', hcur, hresult, hc, hc', hsession⟩ := hacq.same hn
    exact ⟨i, c, c', hcur, congrArg Except.toOption hresult, hc, hc', hsession⟩
  exact ⟨drained, opening, later, hdrain⟩

/-- An Agent that grants every session and takes every report, five milliseconds later. -/
def obliging : Network Unit where
  exchange _ net :=
    let body := Json.object [("devSocketPort", .num (.int 9999)), ("version", .str "0.64.20")]
    (⟨5, .ok ⟨200, Text.utf8 body.text.toList, false⟩⟩, net)
  connect _ _ net := (.ok (), net)
  listen _ _ _ net := (⟨[], none⟩, net)
  disconnect _ _ net := (.ok (), net)
  newId _ := "00000000-0000-4000-8000-000000000000"

/-- A client is acquired under this token. -/
def acquiring (token : Option String) : Deed := .acquire .default token [] .unnamed

/-- A test is reported through the first client. -/
def reporting (name : String) : Deed := .submit 0 (.test ⟨name, true, none⟩)

/-- The session is taken up again between two reports: there is one request for it in all. -/
theorem drainOrder_run_takenUp :
    Orderly obliging (start ())
      ([acquiring none, reporting "first"] ++ acquiring none :: [reporting "second"]) ∧
    (sessionStarts (run obliging () ([acquiring none, reporting "first"] ++
      acquiring none :: [reporting "second"])).registry.line.wire).length = 1 ∧
    ∃ drained opening later, DrainOrder .unnamed
      (run obliging () [acquiring none, reporting "first"])
      (run obliging () ([acquiring none, reporting "first"] ++ [acquiring none]))
      (run obliging () ([acquiring none, reporting "first"] ++
        acquiring none :: [reporting "second"]))
      drained opening later := by
  have h : Orderly obliging (start ())
      ([acquiring none, reporting "first"] ++ acquiring none :: [reporting "second"]) := by
    decide +kernel
  exact ⟨h, by decide +kernel, drainOrder_run obliging () h⟩

/-- Nothing is sent under a token that cannot stand in a header, though there is no session, the
address is one that requests can be sent to, and there is no stop. -/
theorem not_starts_of_bad_token :
    Reachable Config.default.agentUrl none ∧
    (start ()).Prompt obliging (acquiring (some "dev\ntoken")) ∧
    (start ()).registry.NeedsSession .unnamed ∧
    sessionStarts (run obliging () [acquiring (some "dev\ntoken")]).registry.line.wire = [] :=
  ⟨by decide +kernel, by decide +kernel, .inl rfl,
    List.isEmpty_iff.1 (by decide +kernel)⟩

end Tenure
end Courier
