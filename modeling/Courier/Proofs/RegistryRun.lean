import Courier.Proofs.ClientLife

/-!
# What a registry does

The clients of a registry stand in a row: those that were replaced, stopped and closed,
and the live one after them, if there is one. An acquire takes the live one out of the row
before it does anything else, and a shutdown does no more than that. What an acquire ends
with is either a client that it returns, at the end of the row, or a failure, and then
there is no live one.

Taking up a session again cannot fail after it was started: the one thing that could go
wrong, the address for batches, was settled when the client was made.
-/

namespace Courier

/-! ## The row of clients -/

namespace Client

/-- Its reports are taken, and its session is kept alive. -/
structure IsLive (c : Client) : Prop where
  running : c.queue.running = true
  isOpen : c.socket.isOpen = true

/-- It has been stopped and closed. -/
structure IsReleased (c : Client) : Prop where
  stopped : c.queue.running = false
  closed : c.socket.isOpen = false

theorem Opened.isLive {config : Config} {token : Option String} {identity : ReportIdentity}
    {c : Client} (h : c.Opened config token identity) : c.IsLive := by
  obtain ⟨mode, -, hd⟩ := h.queue
  refine ⟨?_, h.socket⟩
  show c.dispatch.queue.running = true
  rw [hd]
  rfl

end Client

namespace Registry

variable {ω : Type} {n : Network ω} {r r' : Registry ω} {c : Client} {i : Nat}
  {mode : QueueMode}

/-- The clients before the live one are released; without one all of them are. -/
inductive Standing : List Client → Option Nat → Prop where
  | idle {cs : List Client} : (∀ c ∈ cs, c.IsReleased) → Standing cs none
  | live {cs : List Client} {c : Client} : (∀ c ∈ cs, c.IsReleased) → c.IsLive →
      Standing (cs ++ [c]) (some cs.length)

theorem getElem?_concat {cs : List Client} {last : Client} (h : (cs ++ [last])[i]? = some c) :
    (i < cs.length ∧ cs[i]? = some c) ∨ (i = cs.length ∧ c = last) := by
  rcases Nat.lt_or_ge i cs.length with hlt | hge
  · rw [List.getElem?_append_left hlt] at h
    exact .inl ⟨hlt, h⟩
  · have hlen := (List.getElem?_eq_some_iff.1 h).1
    rw [List.length_append, List.length_singleton] at hlen
    obtain rfl : i = cs.length := Nat.le_antisymm (Nat.le_of_lt_succ hlen) hge
    rw [List.getElem?_concat_length] at h
    exact .inr ⟨rfl, (Option.some.inj h).symm⟩

theorem Standing.set {cs : List Client} {current : Option Nat} {c' : Client}
    (h : Standing cs current) (hi : cs[i]? = some c) (hr : c'.queue.running = c.queue.running)
    (hs : c'.socket = c.socket) : Standing (cs.set i c') current := by
  have hreleased : ∀ {cs : List Client}, (∀ c ∈ cs, c.IsReleased) → cs[i]? = some c →
      ∀ x ∈ cs.set i c', x.IsReleased := by
    intro cs hall hi x hx
    rcases List.mem_or_eq_of_mem_set hx with hx | rfl
    · exact hall x hx
    · have hc := hall c (List.mem_of_getElem? hi)
      exact ⟨hr.trans hc.stopped, (congrArg Socket.isOpen hs).trans hc.closed⟩
  cases h with
  | idle hall => exact .idle (hreleased hall hi)
  | @live cs last hall hlast =>
      rcases getElem?_concat hi with ⟨hlt, hi⟩ | ⟨rfl, rfl⟩
      · have hlen : (cs.set i c').length = cs.length := List.length_set
        rw [List.set_append_left _ _ hlt, ← hlen]
        exact .live (hreleased hall hi) hlast
      · rw [List.set_append_right _ _ (Nat.le_refl _), Nat.sub_self]
        exact .live hall ⟨hr.trans hlast.running, (congrArg Socket.isOpen hs).trans hlast.isOpen⟩

/-- What holds of a registry at all times. -/
structure Sound (r : Registry ω) : Prop where
  clients : ∀ c ∈ r.clients, ∃ mode, c.Sound mode
  standing : Standing r.clients r.current

theorem sound_empty (net : ω) : (empty net).Sound :=
  ⟨List.forall_mem_nil _, .idle (List.forall_mem_nil _)⟩

theorem Sound.idle (hr : r.Sound) (hn : r.current = none) : ∀ c ∈ r.clients, c.IsReleased := by
  have hs := hr.standing
  rw [hn] at hs
  generalize r.clients = clients at hs
  cases hs with
  | idle hall => exact hall

/-- The live client is the last one. -/
theorem Sound.live (hr : r.Sound) (hi : r.current = some i) :
    ∃ cs c, r.clients = cs ++ [c] ∧ i = cs.length ∧ (∀ x ∈ cs, x.IsReleased) ∧ c.IsLive := by
  have hs := hr.standing
  rw [hi] at hs
  generalize r.clients = clients at hs
  cases hs with
  | live hall hlive => exact ⟨_, _, rfl, rfl, hall, hlive⟩

theorem Sound.stale (hr : r.Sound) (hi : r.clients[i]? = some c) (hn : r.current ≠ some i) :
    c.IsReleased := by
  cases hcur : r.current with
  | none => exact hr.idle hcur c (List.mem_of_getElem? hi)
  | some j =>
      obtain ⟨cs, last, hc, rfl, hall, -⟩ := hr.live hcur
      rw [hc] at hi
      rcases getElem?_concat hi with ⟨_, hi⟩ | ⟨rfl, -⟩
      · exact hall c (List.mem_of_getElem? hi)
      · exact absurd hcur hn

/-! ## Turns -/

/-- All queues there have been, client by client, in the order they began. -/
def queues (r : Registry ω) : List Dispatch := r.clients.flatMap Client.dispatches

/-- One of all the queues has had a turn. -/
def Turns (r r' : Registry ω) : Prop :=
  ∃ before d d' after mode token, r.queues = before ++ d :: after ∧
    r'.queues = before ++ d' :: after ∧
    Dispatch.Turn mode token r.line.wire d r'.line.wire d'

theorem turns_of_client {before after : List Client} {c' : Client}
    (hr : r.clients = before ++ c :: after) (hr' : r'.clients = before ++ c' :: after)
    (h : c.Turns mode r.line.wire c' r'.line.wire) : r.Turns r' := by
  obtain ⟨front, d, d', back, hd, hd', ht⟩ := h.dispatches
  refine ⟨before.flatMap Client.dispatches ++ front, d, d',
    back ++ after.flatMap Client.dispatches, mode, c.token, ?_, ?_, ht⟩
  · rw [queues, hr, List.flatMap_append, List.flatMap_cons, hd]
    simp only [List.append_assoc, List.cons_append]
  · rw [queues, hr', List.flatMap_append, List.flatMap_cons, hd']
    simp only [List.append_assoc, List.cons_append]

theorem update_eq (hi : r.clients[i]? = some c) (act : Client → Line ω → Client × Line ω) :
    r.update i act =
      { r with clients := r.clients.set i (act c r.line).1, line := (act c r.line).2 } := by
  rw [update, hi]

theorem update_none (hi : r.clients[i]? = none) (act : Client → Line ω → Client × Line ω) :
    r.update i act = r := by
  rw [update, hi]

variable {act : Client → Line ω → Client × Line ω}

theorem Sound.update (hr : r.Sound) (ha : Client.Neutral act) (i : Nat) :
    (r.update i act).Sound := by
  cases hi : r.clients[i]? with
  | none =>
      rw [update_none hi]
      exact hr
  | some c =>
      rw [update_eq hi]
      refine ⟨fun x hx => ?_, hr.standing.set hi (ha.running c _) (ha.socket c _)⟩
      rcases List.mem_or_eq_of_mem_set hx with hx | rfl
      · exact hr.clients x hx
      · obtain ⟨mode, hc⟩ := hr.clients c (List.mem_of_getElem? hi)
        exact ⟨mode, (ha.turns r.line hc).sound hc⟩

theorem update_turns (hr : r.Sound) (ha : Client.Neutral act) (i : Nat) :
    r.update i act = r ∨ r.Turns (r.update i act) := by
  cases hi : r.clients[i]? with
  | none => exact .inl (update_none hi act)
  | some c =>
      right
      obtain ⟨mode, hc⟩ := hr.clients c (List.mem_of_getElem? hi)
      obtain ⟨before, after, hsplit, -, hset⟩ := Client.exists_split_of_getElem? hi
      rw [update_eq hi]
      exact turns_of_client hsplit (hset _) (ha.turns r.line hc)

/-! ## Letting go of the live client -/

/-- The live client, where there is one, has been stopped and closed. -/
inductive Releases (n : Network ω) (r : Registry ω) : Registry ω → Prop where
  | idle : r.current = none → Releases n r r
  | live {cs : List Client} {c : Client} {d' : Dispatch} {line : Line ω} {mode : QueueMode} :
      r.clients = cs ++ [c] → r.current = some cs.length → c.Sound mode →
      (c.stop n r.line).1.dispatch = d' → d'.queue.running = false →
      d'.queue.accepted = c.queue.accepted →
      Dispatch.Turn mode c.token r.line.wire c.dispatch line.wire d' →
      Releases n r ⟨line,
        cs ++ [{ c with dispatch := d', socket := { c.socket with isOpen := false } }], none⟩

theorem stop_live {cs : List Client} (hc : r.clients = cs ++ [c]) (hs : c.Sound mode) :
    ∃ d' line, (c.stop n r.line).1.dispatch = d' ∧ d'.queue.running = false ∧
      d'.queue.accepted = c.queue.accepted ∧
      Dispatch.Turn mode c.token r.line.wire c.dispatch line.wire d' ∧
      { r with current := none }.stop n cs.length = ⟨line, cs ++ [{ c with
        dispatch := d'
        socket := { c.socket with isOpen := c.canReuse && c.socket.isOpen } }], none⟩ := by
  obtain ⟨d', hstop, hrun, hacc, hturn⟩ := Client.stop_spec (n := n) (l := r.line) hs.dispatch
  have hi : ({ r with current := none } : Registry ω).clients[cs.length]? = some c := by
    rw [hc]
    exact List.getElem?_concat_length
  refine ⟨d', (c.stop n r.line).2, by rw [hstop], hrun, hacc, hturn, ?_⟩
  unfold stop
  rw [update_eq hi, hstop, hc, List.set_append_right _ _ (Nat.le_refl _), Nat.sub_self]
  rfl

theorem close_live (n : Network ω) (cs : List Client) (c : Client) (line : Line ω) :
    ∃ line' ts, line'.wire = line.wire ++ ts ∧ requests ts = [] ∧
      (⟨line, cs ++ [c], none⟩ : Registry ω).closeSocket n cs.length =
        ⟨line', cs ++ [{ c with socket := { c.socket with isOpen := false } }], none⟩ := by
  obtain ⟨hclose, ts, hw, hrs⟩ := Client.closeSocket_spec n c line
  have hi : (⟨line, cs ++ [c], none⟩ : Registry ω).clients[cs.length]? = some c :=
    List.getElem?_concat_length
  refine ⟨(Client.withLine n c line c.closeSocket).2, ts, hw, hrs, ?_⟩
  unfold closeSocket
  rw [update_eq hi, hclose, List.set_append_right _ _ (Nat.le_refl _), Nat.sub_self]
  rfl

theorem Releases.sound (h : Releases n r r') (hr : r.Sound) : r'.Sound ∧ r'.current = none := by
  cases h with
  | idle hn => exact ⟨hr, hn⟩
  | @live cs c d' line mode hc hcur hs _ hrun _ hturn =>
      obtain ⟨cs', c', hc', -, hall, -⟩ := hr.live hcur
      obtain ⟨rfl, hlast⟩ := List.append_inj' (hc'.symm.trans hc) rfl
      cases hlast
      have hsound := hr.clients
      rw [hc] at hsound
      refine ⟨⟨fun x hx => ?_, .idle fun x hx => ?_⟩, rfl⟩
      · rcases List.mem_append.1 hx with hx | hx
        · exact hsound x (List.mem_append_left _ hx)
        · rw [List.mem_singleton.1 hx]
          exact ⟨mode, (Client.Turns.inUse _ hturn).sound hs⟩
      · rcases List.mem_append.1 hx with hx | hx
        · exact hall x hx
        · rw [List.mem_singleton.1 hx]
          exact ⟨hrun, rfl⟩

theorem shutdown_releases (hr : r.Sound) : Releases n r (r.shutdown n) := by
  unfold shutdown
  split
  · next i hi =>
      obtain ⟨cs, c, hc, rfl, -, -⟩ := hr.live hi
      obtain ⟨mode, hs⟩ := hr.clients c (by rw [hc]; simp)
      obtain ⟨d', line, hd, hrun, hacc, hturn, hstop⟩ := stop_live (n := n) hc hs
      rw [hstop]
      obtain ⟨line', ts, hw, hts, hclose⟩ := close_live n cs _ line
      rw [hclose]
      refine .live (c := c) hc hi hs hd hrun hacc ?_
      rw [hw]
      exact hturn.quiet hts
  · next hn => exact .idle hn

/-! ## Starting a session -/

/-- What the start of a session comes to: these requests are sent, and then there may be a new
client, which is the live one. -/
inductive Starts (config : Config) (token : Option String) (identity : ReportIdentity)
    (qs : List HttpRequest) (r : Registry ω) : Except Failure Nat → Registry ω → Prop where
  | failed {e : Failure} {line : Line ω} {ts : List Transmission} :
      line.wire = r.line.wire ++ ts → requests ts = qs →
      Starts config token identity qs r (.error e) { r with line }
  | opened {c : Client} {line : Line ω} {ts : List Transmission} :
      line.wire = r.line.wire ++ ts → requests ts = qs → c.Opened config token identity →
      Starts config token identity qs r (.ok r.clients.length)
        ⟨line, r.clients ++ [c], some r.clients.length⟩

theorem startCurrent_starts (r : Registry ω) (config : Config) (token : Option String)
    (capabilities : Object) (identity : ReportIdentity) :
    Starts config token identity
      (Client.sessionRequests config token capabilities identity) r
      (r.startCurrent n config token capabilities identity).1
      (r.startCurrent n config token capabilities identity).2 := by
  have hsends := Client.sends_start (ω := ω) config token capabilities identity
  obtain ⟨ts, hw, hts⟩ := hsends.wire n r.line
  have hopened := hsends.result n r.line
  unfold startCurrent start talk
  generalize (Client.start config token capabilities identity).perform n r.line = p at hw hopened
  obtain ⟨result, line⟩ := p
  cases result with
  | ok c => exact .opened hw hts (hopened c rfl)
  | error e => exact .failed hw hts

theorem Starts.sound {config : Config} {token : Option String} {identity : ReportIdentity}
    {qs : List HttpRequest} {result : Except Failure Nat}
    (h : Starts config token identity qs r result r') (hr : r.Sound) (hn : r.current = none) :
    r'.Sound ∧ r'.current = result.toOption := by
  cases h with
  | failed => exact ⟨⟨hr.clients, hr.standing⟩, hn⟩
  | @opened c line ts _ _ ho =>
      refine ⟨⟨fun x hx => ?_, ?_⟩, rfl⟩
      · rcases List.mem_append.1 hx with hx | hx
        · exact hr.clients x hx
        · rw [List.mem_singleton.1 hx]
          exact ho.sound
      · exact .live (hr.idle hn) ho.isLive

/-! ## Acquiring -/

/-- There is no session to take up again for these reports: there is no live client, or it
reports otherwise, or its Agent is too old. -/
def NeedsSession (r : Registry ω) (identity : ReportIdentity) : Prop :=
  r.current = none ∨ ∃ i c, r.current = some i ∧ r.clients[i]? = some c ∧
    (c.identity ≠ identity ∨ Version.compareParts c.version.parts [0, 64, 20] = .lt)

theorem mayReuse_eq_false_iff {identity : ReportIdentity} : mayReuse c identity = false ↔
    c.identity ≠ identity ∨ Version.compareParts c.version.parts [0, 64, 20] = .lt := by
  have hleast : Version.parse? Version.sessionReuse = some ⟨"0.64.20", [0, 64, 20]⟩ := rfl
  have hreuse : c.canReuse = (Version.compareParts c.version.parts [0, 64, 20]).isGE := by
    rw [Client.canReuse, Version.atLeast, hleast]
    rfl
  rw [mayReuse, hreuse, Bool.and_eq_false_iff, beq_eq_false_iff_ne]
  refine or_congr_right ?_
  cases Version.compareParts c.version.parts [0, 64, 20] <;> decide

/-- What an acquire comes to. -/
inductive Acquires (n : Network ω) (config : Config) (token : Option String)
    (identity : ReportIdentity) (qs : List HttpRequest) (r : Registry ω) :
    Except Failure Nat → Registry ω → Prop where
  | reused {cs : List Client} {c : Client} {d' : Dispatch} {line : Line ω} {mode : QueueMode} :
      r.clients = cs ++ [c] → r.current = some cs.length → mayReuse c identity = true →
      c.Sound mode → (c.stop n r.line).1.dispatch = d' → d'.queue.running = false →
      d'.queue.accepted = c.queue.accepted →
      Dispatch.Turn mode c.token r.line.wire c.dispatch line.wire d' →
      Acquires n config token identity qs r (.ok cs.length) ⟨line, cs ++ [{ c with
        dispatch := .ofQueue (.start mode c.token), retired := c.retired ++ [d'] }],
        some cs.length⟩
  | started {r' r'' : Registry ω} {result : Except Failure Nat} :
      r.NeedsSession identity → Releases n r r' →
      Starts config token identity qs r' result r'' →
      Acquires n config token identity qs r result r''

theorem restartQueue_eq (n : Network ω) (cs : List Client) (line : Line ω)
    (hm : Client.deliveryMode c.config c.baseUrl c.version = .ok mode) :
    ∃ line', line'.wire = line.wire ∧
      (⟨line, cs ++ [c], none⟩ : Registry ω).restartQueue n cs.length =
        (.ok (), ⟨line', cs ++ [{ c with
          dispatch := .ofQueue (.start mode c.token), retired := c.retired ++ [c.dispatch] }],
          none⟩) := by
  obtain ⟨line', hp, hw⟩ := Client.restartQueue_spec n line hm
  have hi : (cs ++ [c])[cs.length]? = some c := List.getElem?_concat_length
  refine ⟨line', hw, ?_⟩
  unfold restartQueue talk
  rw [hi]
  dsimp only
  rw [hp]
  dsimp only
  rw [List.set_append_right _ _ (Nat.le_refl _), Nat.sub_self]
  rfl

theorem acquire_acquires (hr : r.Sound) (config : Config) (token : Option String)
    (capabilities : Object) (identity : ReportIdentity) :
    Acquires n config token identity
      (Client.sessionRequests config token capabilities identity) r
      (r.acquire n config token capabilities identity).1
      (r.acquire n config token capabilities identity).2 := by
  unfold acquire
  split
  · next hn =>
      exact .started (.inl hn) (.idle hn) (startCurrent_starts r _ _ _ _)
  · next i hi =>
      obtain ⟨cs, c, hc, rfl, -, hlive⟩ := hr.live hi
      obtain ⟨mode, hs⟩ := hr.clients c (by rw [hc]; simp)
      obtain ⟨d', line, hd, hrun, hacc, hturn, hstop⟩ := stop_live (n := n) hc hs
      dsimp only
      rw [hstop]
      rw [List.getElem?_concat_length, Option.any_some]
      split
      · next hreuse =>
          -- A stop leaves the socket open just where the session can be taken up again.
          have hopen : c.canReuse = true := (Bool.and_eq_true_iff.1 hreuse).2
          obtain ⟨line', hw, hrestart⟩ := restartQueue_eq n cs line
            (c := { c with
              dispatch := d'
              socket := { c.socket with isOpen := c.canReuse && c.socket.isOpen } }) hs.delivery
          rw [hrestart, hopen, Bool.true_and]
          refine .reused (c := c) hc hi hreuse hs hd hrun hacc ?_
          rw [hw]
          exact hturn
      · next hfresh =>
          have hneeds : r.NeedsSession identity :=
            .inr ⟨_, c, hi, by rw [hc]; exact List.getElem?_concat_length,
              mayReuse_eq_false_iff.1 (Bool.eq_false_iff.2 hfresh)⟩
          obtain ⟨line', ts, hw, hts, hclose⟩ := close_live n cs _
            (line.note (Log.info "Report settings changed, starting a new Agent session"))
          rw [hclose]
          refine .started hneeds (.live (c := c) hc hi hs hd hrun hacc ?_)
            (startCurrent_starts _ _ _ _ _)
          rw [hw]
          exact hturn.quiet hts

/-- After an acquire the live client is the one it returned. -/
theorem Acquires.sound {config : Config} {token : Option String} {identity : ReportIdentity}
    {qs : List HttpRequest} {result : Except Failure Nat}
    (h : Acquires n config token identity qs r result r') (hr : r.Sound) :
    r'.Sound ∧ r'.current = result.toOption := by
  cases h with
  | started _ hrel hst =>
      obtain ⟨hr', hn⟩ := hrel.sound hr
      exact hst.sound hr' hn
  | @reused cs c d' line mode hc hcur _ hs _ hrun _ hturn =>
      obtain ⟨cs', c', hc', -, hall, hlive⟩ := hr.live hcur
      obtain ⟨rfl, hlast⟩ := List.append_inj' (hc'.symm.trans hc) rfl
      cases hlast
      have hsound := hr.clients
      rw [hc] at hsound
      refine ⟨⟨fun x hx => ?_, .live hall ⟨rfl, hlive.isOpen⟩⟩, rfl⟩
      rcases List.mem_append.1 hx with hx | hx
      · exact hsound x (List.mem_append_left _ hx)
      · rw [List.mem_singleton.1 hx]
        exact ⟨mode, hs.restarted hturn.lives hrun⟩

/-! ## What is on the wire -/

/-- A request for a session. -/
def AsksSession (q : HttpRequest) : Prop :=
  ∃ config token capabilities identity,
    Client.sessionRequest? config token capabilities identity = some q

/-- Every request asks for a session, or is an attempt of one of the queues. -/
def Posted (r : Registry ω) : Prop :=
  ∀ q ∈ requests r.line.wire, AsksSession q ∨ ∃ d ∈ r.queues, ∃ a ∈ d.sent, q = a.request

theorem Posted.of_queues (h : r.Posted) (qs : List HttpRequest)
    (hq : ∀ d ∈ r.queues, d ∈ r'.queues)
    (hw : requests r'.line.wire = requests r.line.wire ++ qs) (hs : ∀ q ∈ qs, AsksSession q) :
    r'.Posted := by
  intro q hmem
  rw [hw] at hmem
  rcases List.mem_append.1 hmem with hmem | hmem
  · exact (h q hmem).imp id fun ⟨d, hd, ha⟩ => ⟨d, hq d hd, ha⟩
  · exact .inl (hs q hmem)

theorem Posted.turns (h : r.Posted) (ht : r.Turns r') : r'.Posted := by
  obtain ⟨before, d, d', after, mode, token, hr, hr', hturn⟩ := ht
  obtain ⟨new, ts, hs, hw, hts⟩ := hturn.posts
  have hd' : d' ∈ r'.queues := hr' ▸ List.mem_append_right _ List.mem_cons_self
  intro q hmem
  rw [hw, requests_append, hts] at hmem
  rcases List.mem_append.1 hmem with hmem | hmem
  · refine (h q hmem).imp id fun ⟨x, hx, a, ha, he⟩ => ?_
    rw [hr] at hx
    rw [hr']
    rcases List.mem_append.1 hx with hx | hx
    · exact ⟨x, List.mem_append_left _ hx, a, ha, he⟩
    · rcases List.mem_cons.1 hx with rfl | hx
      · exact ⟨d', List.mem_append_right _ List.mem_cons_self, a,
          hs ▸ List.mem_append_left _ ha, he⟩
      · exact ⟨x, List.mem_append_right _ (List.mem_cons_of_mem _ hx), a, ha, he⟩
  · obtain ⟨a, ha, hq⟩ := List.mem_flatMap.1 hmem
    refine .inr ⟨d', hd', a, hs ▸ List.mem_append_right _ ha, ?_⟩
    unfold HttpRequest.sent at hq
    split at hq
    · exact List.mem_singleton.1 hq
    · cases hq

theorem Releases.turns (h : Releases n r r') : r' = r ∨ r.Turns r' := by
  cases h with
  | idle => exact .inl rfl
  | live hc _ _ _ _ _ hturn => exact .inr (turns_of_client hc rfl (.inUse _ hturn))

theorem asksSession_of_mem {config : Config} {token : Option String} {capabilities : Object}
    {identity : ReportIdentity} {q : HttpRequest}
    (h : q ∈ Client.sessionRequests config token capabilities identity) : AsksSession q := by
  unfold Client.sessionRequests at h
  cases hs : Client.sessionRequest? config token capabilities identity with
  | none =>
      rw [hs] at h
      cases h
  | some q' =>
      rw [hs] at h
      replace h : q ∈ q'.sent := h
      unfold HttpRequest.sent at h
      split at h
      · rw [List.mem_singleton.1 h]
        exact ⟨config, token, capabilities, identity, hs⟩
      · cases h

theorem Releases.posted (h : Releases n r r') (hp : r.Posted) : r'.Posted := by
  rcases h.turns with rfl | ht
  · exact hp
  · exact hp.turns ht

/-- A start adds at most one queue after all the others, which has sent nothing yet. -/
theorem Starts.fresh {config : Config} {token : Option String} {identity : ReportIdentity}
    {qs : List HttpRequest} {result : Except Failure Nat}
    (h : Starts config token identity qs r result r') : ∃ fresh : Option Dispatch,
      r'.queues = r.queues ++ fresh.toList ∧ (∀ d ∈ fresh, d.sent = []) ∧
      (r'.current = none → fresh = none) ∧
      ∃ ts, r'.line.wire = r.line.wire ++ ts ∧ requests ts = qs := by
  cases h with
  | failed hw hts =>
      refine ⟨none, (List.append_nil _).symm, fun d hd => ?_, fun _ => rfl, _, hw, hts⟩
      cases hd
  | @opened c line ts hw hts ho =>
      obtain ⟨mode, -, hd⟩ := ho.queue
      refine ⟨some (.ofQueue (.start mode c.token)), ?_, fun d hd => ?_, fun hn => ?_, ts, hw, hts⟩
      · show (r.clients ++ [c]).flatMap Client.dispatches = _
        rw [List.flatMap_append, List.flatMap_singleton, Client.dispatches, ho.retired, hd]
        rfl
      · cases hd
        rfl
      · cases hn

theorem Acquires.posted {config : Config} {token : Option String} {identity : ReportIdentity}
    {qs : List HttpRequest} {result : Except Failure Nat}
    (h : Acquires n config token identity qs r result r') (hp : r.Posted)
    (hqs : ∀ q ∈ qs, AsksSession q) : r'.Posted := by
  cases h with
  | started _ hrel hst =>
      obtain ⟨fresh, hq, -, -, ts, hw, hts⟩ := hst.fresh
      refine (hrel.posted hp).of_queues qs (fun d hd => hq ▸ List.mem_append_left _ hd) ?_ hqs
      rw [hw, requests_append, hts]
  | @reused cs c d' line mode hc hcur _ hs _ hrun _ hturn =>
      have hmid : r.Turns ⟨line, cs ++ [{ c with dispatch := d' }], none⟩ :=
        turns_of_client hc rfl (.inUse c.socket hturn)
      refine (hp.turns hmid).of_queues [] (fun d hd => ?_) (List.append_nil _).symm
        (List.forall_mem_nil _)
      unfold queues at hd ⊢
      rw [List.flatMap_append] at hd ⊢
      refine (List.mem_append.1 hd).elim (List.mem_append_left _) fun hd =>
        List.mem_append_right _ ?_
      rw [List.flatMap_singleton] at hd ⊢
      exact List.mem_append_left _ hd

/-! ## What was accepted -/

/-- The clients there were have accepted what they had, and new ones have accepted nothing. -/
def Keeps (r r' : Registry ω) : Prop :=
  ∀ (i : Nat) (c' : Client), r'.clients[i]? = some c' → c'.accepted = [] ∨
    ∃ c : Client, r.clients[i]? = some c ∧ c'.accepted = c.accepted ∧ c'.baseUrl = c.baseUrl

theorem Keeps.refl (r : Registry ω) : r.Keeps r := fun _ c' hi => .inr ⟨c', hi, rfl, rfl⟩

theorem Keeps.trans {r'' : Registry ω} (h : r.Keeps r') (h' : r'.Keeps r'') : r.Keeps r'' := by
  intro i c'' hi
  rcases h' i c'' hi with he | ⟨c', hi', he', hb'⟩
  · exact .inl he
  · rcases h i c' hi' with he | ⟨c, hi, he, hb⟩
    · exact .inl (he'.trans he)
    · exact .inr ⟨c, hi, he'.trans he, hb'.trans hb⟩

theorem keeps_update (ha : ∀ (c : Client) (l : Line ω), (act c l).1.accepted = c.accepted)
    (hb : ∀ (c : Client) (l : Line ω), (act c l).1.baseUrl = c.baseUrl) (r : Registry ω) (i : Nat) :
    r.Keeps (r.update i act) := by
  cases hi : r.clients[i]? with
  | none =>
      rw [update_none hi]
      exact .refl r
  | some c =>
      intro j x hx
      rw [update_eq hi] at hx
      replace hx : (r.clients.set i (act c r.line).1)[j]? = some x := hx
      rw [List.getElem?_set] at hx
      split at hx
      · next hij =>
          split at hx
          · cases hx
            exact .inr ⟨c, hij ▸ hi, ha c _, hb c _⟩
          · cases hx
      · exact .inr ⟨x, hx, rfl, rfl⟩

theorem keeps_last {cs : List Client} {c' : Client} (hr : r.clients = cs ++ [c])
    (hr' : r'.clients = cs ++ [c']) (ha : c'.accepted = c.accepted)
    (hb : c'.baseUrl = c.baseUrl) : r.Keeps r' := by
  intro i x hx
  rw [hr'] at hx
  rw [hr]
  rcases getElem?_concat hx with ⟨hlt, hx⟩ | ⟨rfl, rfl⟩
  · exact .inr ⟨x, (List.getElem?_append_left hlt).trans hx, rfl, rfl⟩
  · exact .inr ⟨c, List.getElem?_concat_length, ha, hb⟩

theorem Releases.keeps (h : Releases n r r') : r.Keeps r' := by
  cases h with
  | idle => exact .refl r
  | live hc _ _ _ _ hacc _ =>
      exact keeps_last hc rfl (Client.accepted_eq_of_dispatch _ hacc) rfl

theorem Starts.keeps {config : Config} {token : Option String} {identity : ReportIdentity}
    {qs : List HttpRequest} {result : Except Failure Nat}
    (h : Starts config token identity qs r result r') : r.Keeps r' := by
  cases h with
  | failed => exact fun i c' hi => .inr ⟨c', hi, rfl, rfl⟩
  | @opened c line ts _ _ ho =>
      intro i c' hi
      rcases getElem?_concat hi with ⟨_, hi⟩ | ⟨-, rfl⟩
      · exact .inr ⟨c', hi, rfl, rfl⟩
      · obtain ⟨mode, -, hd⟩ := ho.queue
        left
        unfold Client.accepted Client.dispatches
        rw [ho.retired, hd]
        rfl

theorem Acquires.keeps {config : Config} {token : Option String} {identity : ReportIdentity}
    {qs : List HttpRequest} {result : Except Failure Nat}
    (h : Acquires n config token identity qs r result r') : r.Keeps r' := by
  cases h with
  | started _ hrel hst => exact hrel.keeps.trans hst.keeps
  | @reused cs c d' line mode hc hcur _ hs _ hrun hacc hturn =>
      refine keeps_last hc rfl ?_ rfl
      unfold Client.accepted Client.dispatches
      rw [List.flatMap_append, List.flatMap_append, List.flatMap_append]
      simp only [List.flatMap_singleton]
      rw [hacc]
      exact List.append_nil _

end Registry

end Courier
