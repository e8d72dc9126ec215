import Courier.Proofs.QueueLife
import Courier.Proofs.TalkRun

/-!
# The life of a client

A client has one queue after the other. Whatever is done with it touches one of them at
most, and has a turn there: the queue goes on with its life, what goes out of it gets
onto the line in the same order, and a queue whose worker has left stays as it is. Nothing
but a stop closes a queue, and nothing opens it again. Taking up the session again adds a
queue after all the others.
-/

namespace Courier

/-- The request that an attempt makes. -/
def Attempt.request (a : Attempt) : HttpRequest := ⟨.post, a.url, a.token, some a.body⟩

/-- The requests that come of some attempts. -/
def attemptRequests (as : List Attempt) : List HttpRequest := as.flatMap fun a => a.request.sent

theorem attemptRequests_append (as as' : List Attempt) :
    attemptRequests (as ++ as') = attemptRequests as ++ attemptRequests as' :=
  List.flatMap_append

namespace Dispatch

variable {d d' : Dispatch} {mode : QueueMode} {token : Option String} {w w' : List Transmission}

/-- A queue has had a turn, and the wire has carried what went out. -/
structure Turn (mode : QueueMode) (token : Option String) (w : List Transmission) (d : Dispatch)
    (w' : List Transmission) (d' : Dispatch) : Prop where
  lives : d'.Lives mode token
  posts : ∃ new ts, d'.sent = d.sent ++ new ∧ w' = w ++ ts ∧ requests ts = attemptRequests new
  /-- A queue that has been closed stays closed. -/
  closed : d.queue.running = false → d'.queue.running = false
  gone : d.queue.isGone = true →
    d'.queue.isGone = true ∧ d'.sent = d.sent ∧ d'.queue.accepted = d.queue.accepted

theorem Turn.refl (hl : d.Lives mode token) : Turn mode token w d w d where
  lives := hl
  posts := ⟨[], [], (List.append_nil _).symm, (List.append_nil _).symm, rfl⟩
  closed := id
  gone hg := ⟨hg, rfl, rfl⟩

theorem Turn.apart {q : Queue} (hl : d.Lives mode token) (hc : d.queue.Apart q)
    (hq : q.Lives mode token)
    (hr : d.queue.running = false → q.running = false)
    (hg : d.queue.isGone = true → q.accepted = d.queue.accepted) :
    Turn mode token w d w { d with queue := q } where
  lives := hl.of_apart hc hq
  posts := ⟨[], [], by rw [sent_of_apart hc, List.append_nil], (List.append_nil _).symm, rfl⟩
  closed := hr
  gone hgone := ⟨by rw [Queue.isGone, hc.worker]; exact hgone, sent_of_apart hc, hg hgone⟩

/-- More has happened on the wire since, but nothing was requested. -/
theorem Turn.quiet (h : Turn mode token w d w' d') {ts : List Transmission}
    (hts : requests ts = []) : Turn mode token w d (w' ++ ts) d' := by
  obtain ⟨new, sent, hs, hw, hrs⟩ := h.posts
  refine { h with posts := ⟨new, sent ++ ts, hs, by rw [hw, List.append_assoc], ?_⟩ }
  rw [requests_append, hrs, hts, List.append_nil]

end Dispatch

namespace Client

variable {ω : Type} {n : Network ω} {c : Client} {l l' : Line ω} {mode : QueueMode}

/-! ## Turns -/

theorem wire_of_posted {as : List Attempt} (h : Clocked.Posted (sender n) l as l') :
    ∃ ts, l'.wire = l.wire ++ ts ∧ requests ts = attemptRequests as := by
  induction h with
  | nil => exact ⟨[], (List.append_nil _).symm, rfl⟩
  | @snoc as l' a _ ih =>
      obtain ⟨ts, hw, hrs⟩ := ih
      obtain ⟨ts', hw', hrs'⟩ := l'.exchange_wire n a.request
      refine ⟨ts ++ ts', ?_, ?_⟩
      · rw [← List.append_assoc, ← hw]
        exact hw'
      · rw [requests_append, attemptRequests_append, hrs, hrs']
        exact congrArg _ (List.append_nil _).symm

theorem turn_goes {token : Option String} {w : List Transmission} {d : Dispatch}
    {k k' : Clocked (Line ω)} (h : Dispatch.Turn mode token w d k.world.wire k.toDispatch)
    (hg : k.Goes (sender n) k') : Dispatch.Turn mode token w d k'.world.wire k'.toDispatch := by
  obtain ⟨new, ts, hs, hw, hrs⟩ := h.posts
  obtain ⟨new', hs', hp⟩ := hg.posts h.lives
  obtain ⟨ts', hw', hrs'⟩ := wire_of_posted hp
  refine ⟨hg.lives h.lives, ⟨new ++ new', ts ++ ts', ?_, ?_, ?_⟩,
    fun hr => hg.calls.1.trans (h.closed hr), fun hgone => ?_⟩
  · rw [hs', hs, List.append_assoc]
  · rw [hw', hw, List.append_assoc]
  · rw [requests_append, attemptRequests_append, hrs, hrs']
  · obtain ⟨hgone', hsent, hacc⟩ := h.gone hgone
    obtain ⟨hgone'', hattempts⟩ := hg.gone hgone'
    refine ⟨hgone'', ?_, hg.calls.2.trans hacc⟩
    rw [Dispatch.sent_of_gone hgone'', hattempts, ← hsent]
    exact (Dispatch.sent_of_gone hgone').symm

/-! ## Reports -/

theorem submit_turn (hl : c.dispatch.Lives mode c.token) (report : Report) :
    Dispatch.Turn mode c.token l.wire c.dispatch (c.submit report l).2.wire
      (c.submit report l).1.dispatch := by
  unfold submit
  split
  · next p _ =>
      refine .apart hl (Queue.apart_submit _ p) (hl.queue.submit p)
        (fun hr => (Queue.running_submit _ p).trans hr) fun hg => ?_
      cases hr : c.dispatch.queue.running with
      | false => exact Queue.accepted_submit_of_closed hr p
      | true => exact Queue.accepted_submit_of_gone hr hg p
  · exact .refl hl

/-- What becomes of a client when a report is submitted that its queue no longer takes: the
queue remembers that it dropped the report. -/
def refusing (c : Client) (report : Report) : Client :=
  match parcel c.baseUrl report with
  | .ok p => { c with dispatch := { c.dispatch with queue := c.queue.refuse p } }
  | .error _ => c

theorem submit_of_stopped (hr : c.queue.running = false) (report : Report) (l : Line ω) :
    (c.submit report l).1 = c.refusing report ∧ (c.submit report l).2.wire = l.wire := by
  unfold submit refusing
  cases parcel c.baseUrl report with
  | error e => exact ⟨rfl, rfl⟩
  | ok p =>
      refine ⟨?_, rfl⟩
      show { c with dispatch := { c.dispatch with queue := c.queue.submit p } } = _
      rw [Queue.submit, hr, if_neg Bool.false_ne_true]

theorem submit_eq (c : Client) (report : Report) (l : Line ω) : (c.submit report l).1 =
    { c with dispatch := (c.submit report l).1.dispatch, socket := c.socket } := by
  unfold submit
  split
  · rfl
  · rfl

/-- At most the report itself is accepted, and nothing is once the queue is closed. -/
theorem accepted_submit (c : Client) (report : Report) (l : Line ω) :
    ∃ came, (c.submit report l).1.queue.accepted = c.queue.accepted ++ came ∧
      came.Sublist (parcel c.baseUrl report).toOption.toList ∧
      (c.queue.running = false → came = []) := by
  unfold submit
  split
  · next p hp =>
      rw [hp]
      show ∃ came, (c.queue.submit p).accepted = c.queue.accepted ++ came ∧ came.Sublist [p] ∧ _
      cases hr : c.queue.running with
      | false =>
          exact ⟨[], by rw [Queue.accepted_submit_of_closed hr, List.append_nil],
            List.nil_sublist _, fun _ => rfl⟩
      | true =>
          cases hg : c.queue.isGone with
          | true =>
              exact ⟨[], by rw [Queue.accepted_submit_of_gone hr hg, List.append_nil],
                List.nil_sublist _, fun _ => rfl⟩
          | false =>
              exact ⟨[p], Queue.accepted_submit_of_open hr hg p, List.Sublist.refl _, nofun⟩
  · exact ⟨[], (List.append_nil _).symm, List.nil_sublist _, fun _ => rfl⟩

/-! ## The worker -/

/-- The next thing that the worker of a queue does, if there is one. -/
def next (n : Network ω) (k : Clocked (Line ω)) : Clocked (Line ω) :=
  (k.tick (sender n) none).getD k

theorem goes_next (n : Network ω) (k : Clocked (Line ω)) : k.Goes (sender n) (next n k) := by
  unfold next
  cases ht : k.tick (sender n) none with
  | none => exact .refl
  | some k' => exact Clocked.Goes.refl.tick (Clocked.tick_ticks ht)

/-- The worker of one of the queues does its next thing. Beyond the queues that were retired
it is the one in use. -/
def work (n : Network ω) (k : Nat) (c : Client) (l : Line ω) : Client × Line ω :=
  match c.retired[k]? with
  | some d =>
      let (turned, l) := { c with dispatch := d }.withQueue l (next n)
      ({ c with retired := c.retired.set k turned.dispatch }, l)
  | none => c.withQueue l (next n)

theorem next_turn (hl : c.dispatch.Lives mode c.token) :
    Dispatch.Turn mode c.token l.wire c.dispatch (c.withQueue l (next n)).2.wire
      (c.withQueue l (next n)).1.dispatch :=
  turn_goes (k := { c.dispatch with world := l, now := l.now }) (.refl hl) (goes_next n _)

/-! ## Stopping -/

theorem stop_turn (hl : c.dispatch.Lives mode c.token) (timeout : Nat) :
    Dispatch.Turn mode c.token l.wire c.dispatch
      (c.withQueue l (·.stop (sender n) timeout)).2.wire
      (c.withQueue l (·.stop (sender n) timeout)).1.dispatch := by
  refine turn_goes ?_ (Clocked.goes_stop (sender n) timeout
    { c.dispatch with world := l, now := l.now })
  have hacc : c.dispatch.queue.beginStop.accepted = c.dispatch.queue.accepted :=
    Queue.accepted_wake _
  exact .apart hl (Queue.apart_beginStop _) hl.queue.beginStop
    (fun _ => Queue.wake_running _) fun _ => hacc

theorem closeSocket_spec (n : Network ω) (c : Client) (l : Line ω) :
    (withLine n c l c.closeSocket).1 = { c with socket := { c.socket with isOpen := false } } ∧
      ∃ ts, (withLine n c l c.closeSocket).2.wire = l.wire ++ ts ∧ requests ts = [] := by
  have hclose := c.socket.close_result n l
  have hquiet := (Socket.quiet_close c.socket).wire n l
  unfold withLine closeSocket
  rw [Talk.perform_bind]
  generalize c.socket.close.perform n l = p at hclose hquiet
  obtain ⟨s, l'⟩ := p
  cases hclose
  exact ⟨rfl, hquiet⟩

/-- A stop closes the queue, and the socket if the session cannot be taken up again. -/
theorem stop_spec (hl : c.dispatch.Lives mode c.token) :
    ∃ d', (c.stop n l).1 = { c with
        dispatch := d'
        socket := { c.socket with isOpen := c.canReuse && c.socket.isOpen } } ∧
      d'.queue.running = false ∧
      d'.queue.accepted = c.queue.accepted ∧
      Dispatch.Turn mode c.token l.wire c.dispatch (c.stop n l).2.wire d' := by
  have hturn := stop_turn (n := n) (l := l) hl c.config.queueTimeout
  have hcalls := (Clocked.goes_stop (sender n) c.config.queueTimeout
    { c.dispatch with world := l, now := l.now }).calls
  generalize hk : c.withQueue l (·.stop (sender n) c.config.queueTimeout) = stopped at hturn
  obtain ⟨c', l'⟩ := stopped
  have hc' : c' = { c with dispatch := c'.dispatch } := by
    cases hk
    rfl
  have hclosed : c'.dispatch.queue.running = false ∧
      c'.dispatch.queue.accepted = c.queue.accepted := by
    cases hk
    exact ⟨hcalls.1.trans (Queue.wake_running _), hcalls.2.trans (Queue.accepted_wake _)⟩
  refine ⟨c'.dispatch, ?_⟩
  -- What is said of the report on disk changes the log alone, so that lines with one wire do.
  have hend : ∀ l'' : Line ω, l''.wire = l'.wire →
      (if c'.canReuse then (c', l'') else withLine n c' l'' c'.closeSocket).1 = { c with
          dispatch := c'.dispatch
          socket := { c.socket with isOpen := c.canReuse && c.socket.isOpen } } ∧
        Dispatch.Turn mode c.token l.wire c.dispatch
          (if c'.canReuse then (c', l'') else withLine n c' l'' c'.closeSocket).2.wire
          c'.dispatch := by
    intro l'' hw
    have hreuse : c'.canReuse = c.canReuse := by rw [hc']; rfl
    rw [hreuse]
    cases c.canReuse with
    | true => exact ⟨hc', by rw [if_pos rfl, hw]; exact hturn⟩
    | false =>
        obtain ⟨hclose, ts, hts, hrs⟩ := closeSocket_spec n c' l''
        rw [if_neg Bool.false_ne_true, hclose, hts, hw, Bool.false_and]
        exact ⟨by rw [hc'], hturn.quiet hrs⟩
  obtain ⟨l'', hw, hstop⟩ : ∃ l'' : Line ω, l''.wire = l'.wire ∧
      c.stop n l = if c'.canReuse then (c', l'') else withLine n c' l'' c'.closeSocket := by
    unfold stop
    rw [hk]
    refine ⟨_, ?_, rfl⟩
    split
    · rfl
    · rfl
  rw [hstop]
  exact ⟨(hend l'' hw).1, hclosed.1, hclosed.2, (hend l'' hw).2⟩

/-! ## Taking up the session -/

theorem queueMode_perform (n : Network ω) (l : Line ω) {config : Config} {base : Url}
    {version : Version} (hm : deliveryMode config base version = .ok mode) :
    ∃ l', (queueMode config base version).perform n l = (.ok mode, l') ∧ l'.wire = l.wire := by
  unfold queueMode
  rw [hm]
  dsimp only
  split
  · exact ⟨_, rfl, rfl⟩
  · exact ⟨_, rfl, rfl⟩

theorem restartQueue_spec (n : Network ω) (l : Line ω)
    (hm : deliveryMode c.config c.baseUrl c.version = .ok mode) :
    ∃ l', c.restartQueue.perform n l = (.ok { c with
        dispatch := .ofQueue (.start mode c.token), retired := c.retired ++ [c.dispatch] }, l') ∧
      l'.wire = l.wire := by
  have hnote : (Talk.note (Log.info "Reusing existing Agent session")).perform n l =
      (.ok (), l.note (Log.info "Reusing existing Agent session")) := rfl
  obtain ⟨l', hp, hw⟩ := queueMode_perform n (l.note (Log.info "Reusing existing Agent session")) hm
  unfold restartQueue startQueue
  rw [Talk.perform_bind_ok hnote, Talk.perform_bind, Talk.perform_bind, hp]
  exact ⟨_, rfl, hw⟩

/-! ## All queues of a client -/

/-- The queues in the order they began. The last one is in use. -/
def dispatches (c : Client) : List Dispatch := c.retired ++ [c.dispatch]

/-- What holds of a client at all times. The mode of its queues is settled, so that there is
nothing to keep it from taking up its session. -/
structure Sound (c : Client) (mode : QueueMode) : Prop where
  delivery : deliveryMode c.config c.baseUrl c.version = .ok mode
  lives : ∀ d ∈ c.dispatches, d.Lives mode c.token
  retired : ∀ d ∈ c.retired, d.queue.running = false

theorem Sound.dispatch (hc : c.Sound mode) : c.dispatch.Lives mode c.token :=
  hc.lives _ (List.mem_append_right _ (List.mem_singleton.2 rfl))

theorem lives_start (mode : QueueMode) (token : Option String) :
    (Dispatch.ofQueue (.start mode token)).Lives mode token :=
  ⟨.start, fun hn => absurd rfl hn⟩

theorem Opened.sound {config : Config} {token : Option String} {identity : ReportIdentity}
    (h : c.Opened config token identity) : ∃ mode, c.Sound mode := by
  obtain ⟨mode, hm, hd⟩ := h.queue
  refine ⟨mode, hm, fun d hmem => ?_, fun d hmem => ?_⟩
  · rw [dispatches, h.retired, List.nil_append] at hmem
    rw [List.mem_singleton.1 hmem, hd]
    exact lives_start mode c.token
  · rw [h.retired] at hmem
    cases hmem

theorem Sound.restarted (hc : c.Sound mode) {d : Dispatch} (hd : d.Lives mode c.token)
    (hr : d.queue.running = false) : Sound { c with
      dispatch := .ofQueue (.start mode c.token), retired := c.retired ++ [d] } mode := by
  refine ⟨hc.delivery, fun x hx => ?_, fun x hx => ?_⟩
  · rcases List.mem_append.1 hx with hx | hx
    · rcases List.mem_append.1 hx with hx | hx
      · exact hc.lives x (List.mem_append_left _ hx)
      · exact List.mem_singleton.1 hx ▸ hd
    · exact List.mem_singleton.1 hx ▸ lives_start mode c.token
  · rcases List.mem_append.1 hx with hx | hx
    · exact hc.retired x hx
    · exact List.mem_singleton.1 hx ▸ hr

/-- One of the queues has had a turn. -/
inductive Turns (mode : QueueMode) (c : Client) (w : List Transmission) :
    Client → List Transmission → Prop where
  | inUse {d' : Dispatch} (socket : Socket) {w' : List Transmission} :
      Dispatch.Turn mode c.token w c.dispatch w' d' →
      Turns mode c w { c with dispatch := d', socket } w'
  | earlier {before after : List Dispatch} {d d' : Dispatch} {w' : List Transmission} :
      c.retired = before ++ d :: after → Dispatch.Turn mode c.token w d w' d' →
      Turns mode c w { c with retired := before ++ d' :: after } w'

theorem Turns.dispatches {c' : Client} {w w' : List Transmission} (h : c.Turns mode w c' w') :
    ∃ before d d' after, c.dispatches = before ++ d :: after ∧
      c'.dispatches = before ++ d' :: after ∧ Dispatch.Turn mode c.token w d w' d' := by
  cases h with
  | inUse _ ht => exact ⟨c.retired, c.dispatch, _, [], rfl, rfl, ht⟩
  | @earlier before after d d' _ hr ht =>
      refine ⟨before, d, d', after ++ [c.dispatch], ?_, ?_, ht⟩
      · rw [Client.dispatches, hr, List.append_assoc, List.cons_append]
      · rw [Client.dispatches, List.append_assoc, List.cons_append]

theorem Turns.sound {c' : Client} {w w' : List Transmission} (h : c.Turns mode w c' w')
    (hc : c.Sound mode) : c'.Sound mode := by
  have hlives : c'.token = c.token → ∀ d ∈ c'.dispatches, d.Lives mode c'.token := by
    intro htoken d hd
    obtain ⟨before, x, x', after, hx, hx', ht⟩ := h.dispatches
    have hall := hc.lives
    rw [hx] at hall
    rw [hx'] at hd
    rw [htoken]
    rcases List.mem_append.1 hd with hd | hd
    · exact hall d (List.mem_append_left _ hd)
    · rcases List.mem_cons.1 hd with rfl | hd
      · exact ht.lives
      · exact hall d (List.mem_append_right _ (List.mem_cons_of_mem _ hd))
  cases h with
  | inUse _ ht => exact ⟨hc.delivery, hlives rfl, hc.retired⟩
  | @earlier before after x x' _ hr ht =>
      refine ⟨hc.delivery, hlives rfl, fun d hd => ?_⟩
      have hall := hc.retired
      rw [hr] at hall
      rcases List.mem_append.1 hd with hd | hd
      · exact hall d (List.mem_append_left _ hd)
      · rcases List.mem_cons.1 hd with rfl | hd
        · exact ht.closed (hall x (List.mem_append_right _ List.mem_cons_self))
        · exact hall d (List.mem_append_right _ (List.mem_cons_of_mem _ hd))

/-- What gives a queue a turn, and neither opens nor closes anything. -/
structure Neutral (act : Client → Line ω → Client × Line ω) : Prop where
  turns : ∀ {c : Client} {mode : QueueMode} (l : Line ω), c.Sound mode →
    c.Turns mode l.wire (act c l).1 (act c l).2.wire
  running : ∀ (c : Client) (l : Line ω), (act c l).1.queue.running = c.queue.running
  socket : ∀ (c : Client) (l : Line ω), (act c l).1.socket = c.socket

theorem neutral_submit (report : Report) :
    Neutral fun (c : Client) (l : Line ω) => c.submit report l where
  turns {c mode} l hc := by
    rw [submit_eq c report l]
    exact .inUse c.socket (submit_turn hc.dispatch report)
  running c l := by
    unfold submit
    split
    · exact Queue.running_submit _ _
    · rfl
  socket c l := by
    unfold submit
    split
    · rfl
    · rfl

/-- An element with what stands before it and after it, where another one may take its place. -/
theorem exists_split_of_getElem? {α : Type} {as : List α} {i : Nat} {a : α}
    (h : as[i]? = some a) : ∃ before after, as = before ++ a :: after ∧ i = before.length ∧
      ∀ b, as.set i b = before ++ b :: after := by
  obtain ⟨hi, rfl⟩ := List.getElem?_eq_some_iff.1 h
  refine ⟨as.take i, as.drop (i + 1), ?_, ?_, fun b => ?_⟩
  · rw [← List.drop_eq_getElem_cons hi, List.take_append_drop]
  · rw [List.length_take_of_le (Nat.le_of_lt hi)]
  · rw [List.set_eq_take_append_cons_drop, if_pos hi]

theorem neutral_work (n : Network ω) (k : Nat) : Neutral (work n k) where
  turns {c mode} l hc := by
    unfold work
    split
    · next d hd =>
        obtain ⟨before, after, hr, -, hset⟩ := exists_split_of_getElem? hd
        dsimp only
        rw [hset]
        have hmem : d ∈ c.dispatches := by
          rw [dispatches, hr]
          exact List.mem_append_left _ (List.mem_append_right _ List.mem_cons_self)
        exact .earlier hr (next_turn (c := { c with dispatch := d }) (hc.lives d hmem))
    · exact .inUse c.socket (next_turn hc.dispatch)
  running c l := by
    unfold work
    split
    · rfl
    · exact (goes_next n { c.dispatch with world := l, now := l.now }).calls.1
  socket c l := by
    unfold work
    split
    · rfl
    · rfl

/-! ## What was accepted -/

/-- The reports that a client has accepted, over all of its queues. -/
def accepted (c : Client) : List Parcel := c.dispatches.flatMap fun d => d.queue.accepted

theorem accepted_of_dispatch {d : Dispatch} (socket : Socket) {came : List Parcel}
    (hd : d.queue.accepted = c.queue.accepted ++ came) :
    accepted { c with dispatch := d, socket } = c.accepted ++ came := by
  unfold accepted dispatches
  rw [List.flatMap_append, List.flatMap_append, List.flatMap_singleton, List.flatMap_singleton,
    List.append_assoc]
  exact congrArg _ hd

theorem accepted_eq_of_dispatch {d : Dispatch} (socket : Socket)
    (hd : d.queue.accepted = c.queue.accepted) :
    accepted { c with dispatch := d, socket } = c.accepted := by
  have hd' : d.queue.accepted = c.queue.accepted ++ [] := hd.trans (List.append_nil _).symm
  exact (accepted_of_dispatch socket hd').trans (List.append_nil _)

theorem accepted_work (n : Network ω) (k : Nat) (c : Client) (l : Line ω) :
    (work n k c l).1.accepted = c.accepted := by
  have hnext : ∀ d : Dispatch, (({ c with dispatch := d } : Client).withQueue l
      (next n)).1.dispatch.queue.accepted = d.queue.accepted :=
    fun d => (goes_next n { d with world := l, now := l.now }).calls.2
  unfold work
  split
  · next d hd =>
      obtain ⟨before, after, hr, -, hset⟩ := exists_split_of_getElem? hd
      unfold accepted dispatches
      dsimp only
      rw [hset]
      simp only [List.flatMap_append, List.flatMap_cons, hnext]
      rw [hr, List.flatMap_append, List.flatMap_cons]
  · exact accepted_eq_of_dispatch c.socket (hnext c.dispatch)

theorem baseUrl_work (n : Network ω) (k : Nat) (c : Client) (l : Line ω) :
    (work n k c l).1.baseUrl = c.baseUrl := by
  unfold work
  split
  · rfl
  · rfl

end Client
end Courier
