import Courier.Proofs.AgentUrl
import Courier.Proofs.LiveSession

/-!
# The order on the wire

Where every stop waits for the worker to leave, one queue is at work at a time: the last
one of all there have been. A queue whose worker has left stays as it is for good. What
the wire carries of reports is then what the queues have sent out, the queues laid end
to end in the order they began, and a new queue begins when all before it are through.
-/

namespace Courier

/-! ## Attempts -/

/-- What an attempt does on the wire: it is there as a request that makes reports. -/
structure Attempt.MakesReports (a : Attempt) : Prop where
  sent : a.request.sent = [a.request]
  reports : a.request.reports = true
  starts : a.request.startsSession = false

theorem Client.Addressed.makesReports {base : Url} {token : Option String}
    (h : Client.Addressed base token) {e : Endpoint} (he : e.takesReports = true) (body : Json) :
    Attempt.MakesReports ⟨base.endpoint e, token, body⟩ where
  sent := h.sent_endpoint e (some body)
  reports := HttpRequest.reports_endpoint.trans he
  starts := HttpRequest.startsSession_endpoint.trans (by cases e <;> first | rfl | cases he)

/-- All attempts of a client make reports. -/
theorem Client.Sound.makesReports {c : Client} {mode : QueueMode} (hc : c.Sound mode)
    (ha : Client.Addressed c.baseUrl c.token)
    (hp : ∀ p ∈ c.accepted, ∃ report, Client.parcel c.baseUrl report = .ok p) :
    ∀ d ∈ c.dispatches, ∀ a ∈ d.sent, a.MakesReports := by
  intro d hd a hmem
  obtain ⟨ps, ⟨ts, hsent, hts, rfl⟩, hparcels⟩ := (hc.lives d hd).sent_attemptsAt
  rw [hsent] at hmem
  obtain ⟨t, ht, hmem⟩ := List.mem_flatMap.1 hmem
  rw [List.eq_of_mem_replicate hmem]
  have hcarries := (hts t ht).2.2
  have hmode := ha.deliveryMode_eq c.config c.version
  rw [hc.delivery] at hmode
  -- A load has the address of its one report, or the one for batches.
  obtain ⟨e, he, hurl⟩ : ∃ e, Endpoint.takesReports e = true ∧ t.1.url = c.baseUrl.endpoint e := by
    cases hm : mode with
    | single =>
        rw [hm] at hcarries
        obtain ⟨p, hload⟩ := hcarries
        have haccepted : p ∈ d.queue.accepted :=
          hparcels.subset (List.mem_flatMap.2 ⟨t, ht, by rw [hload]; exact .head _⟩)
        obtain ⟨report, hreport⟩ := hp p (List.mem_flatMap.2 ⟨d, hd, haccepted⟩)
        rw [ha.parcel_eq] at hreport
        cases hreport
        refine ⟨Endpoint.ofReport report.kind, ?_, by rw [hload]⟩
        cases report.kind <;> rfl
    | batch url limit =>
        rw [hm] at hcarries hmode
        refine ⟨.batchReport, rfl, ?_⟩
        rw [hcarries.1]
        split at hmode
        · cases hmode
          rfl
        · cases hmode
  rw [hurl]
  exact ha.makesReports he _

/-! ## What is on a wire -/

/-- The requests for a session among what is on a wire. -/
def sessionStarts (ts : List Transmission) : List HttpRequest :=
  (requests ts).filter HttpRequest.startsSession

/-- The requests that make reports. -/
def reportRequests (ts : List Transmission) : List HttpRequest :=
  (requests ts).filter HttpRequest.reports

@[simp]
theorem reportRequests_append (ts ts' : List Transmission) :
    reportRequests (ts ++ ts') = reportRequests ts ++ reportRequests ts' := by
  simp [reportRequests]

/-- The requests of all that these queues have sent out. -/
def postedBy (ds : List Dispatch) : List HttpRequest :=
  ds.flatMap fun d => d.sent.map Attempt.request

theorem reportRequests_of_attempts {ts : List Transmission} {as : List Attempt}
    (ha : ∀ a ∈ as, a.MakesReports) (hts : requests ts = attemptRequests as) :
    reportRequests ts = as.map Attempt.request ∧ sessionStarts ts = [] := by
  have hreqs : requests ts = as.map Attempt.request := by
    rw [hts]
    clear hts
    induction as with
    | nil => rfl
    | cons a as ih =>
        rw [attemptRequests, List.flatMap_cons, (ha a List.mem_cons_self).sent, List.map_cons]
        exact congrArg _ (ih fun b hb => ha b (List.mem_cons_of_mem a hb))
  unfold reportRequests sessionStarts
  rw [hreqs]
  refine ⟨List.filter_eq_self.2 fun q hq => ?_, List.filter_eq_nil_iff.2 fun q hq => ?_⟩
  · obtain ⟨a, hmem, rfl⟩ := List.mem_map.1 hq
    exact (ha a hmem).reports
  · obtain ⟨a, hmem, rfl⟩ := List.mem_map.1 hq
    rw [(ha a hmem).starts]
    exact Bool.false_ne_true

/-! ## Queues that are through -/

namespace Registry

variable {ω : Type} {n : Network ω} {r r' r'' : Registry ω}

/-- What is over stays as it is, and what there is stays where it is. -/
def Follows (r r' : Registry ω) : Prop :=
  ∀ (j : Nat) (d : Dispatch), r.queues[j]? = some d → ∃ d' : Dispatch, r'.queues[j]? = some d' ∧
    (d.queue.isGone = true →
      d'.queue.isGone = true ∧ d'.sent = d.sent ∧ d'.queue.accepted = d.queue.accepted)

theorem Follows.refl (r : Registry ω) : r.Follows r :=
  fun _ d hj => ⟨d, hj, fun hg => ⟨hg, rfl, rfl⟩⟩

theorem Follows.trans (h : r.Follows r') (h' : r'.Follows r'') : r.Follows r'' := by
  intro j d hj
  obtain ⟨d', hj', hd⟩ := h j d hj
  obtain ⟨d'', hj'', hd'⟩ := h' j d' hj'
  refine ⟨d'', hj'', fun hg => ?_⟩
  obtain ⟨hg', hs, ha⟩ := hd hg
  obtain ⟨hg'', hs', ha'⟩ := hd' hg'
  exact ⟨hg'', hs'.trans hs, ha'.trans ha⟩

theorem Turns.follows (h : r.Turns r') : r.Follows r' := by
  obtain ⟨before, d, d', after, mode, token, hr, hr', ht⟩ := h
  intro j x hj
  rw [hr] at hj
  rw [hr']
  rcases Nat.lt_trichotomy j before.length with hlt | rfl | hgt
  · rw [List.getElem?_append_left hlt] at hj ⊢
    exact ⟨x, hj, fun hg => ⟨hg, rfl, rfl⟩⟩
  · rw [List.getElem?_append_right (Nat.le_refl _), Nat.sub_self] at hj ⊢
    cases hj
    exact ⟨d', rfl, ht.gone⟩
  · obtain ⟨m, rfl⟩ : ∃ m, j = before.length + (m + 1) := ⟨j - before.length - 1, by omega⟩
    rw [List.getElem?_append_right (Nat.le_add_right _ _), Nat.add_sub_cancel_left] at hj ⊢
    exact ⟨x, hj, fun hg => ⟨hg, rfl, rfl⟩⟩

theorem follows_of_append {news : List Dispatch} (h : r'.queues = r.queues ++ news) :
    r.Follows r' := by
  intro j d hj
  rw [h, List.getElem?_append_left (List.getElem?_eq_some_iff.1 hj).1]
  exact ⟨d, hj, fun hg => ⟨hg, rfl, rfl⟩⟩

/-- All workers have left. -/
def Idle (r : Registry ω) : Prop := ∀ d ∈ r.queues, d.queue.isGone = true

/-- After all workers have left, nothing that the queues have sent out or accepted changes. -/
theorem Follows.take {α : Type} (h : r.Follows r') (hi : r.Idle) (f : Dispatch → α)
    (hf : ∀ d d' : Dispatch, d'.sent = d.sent → d'.queue.accepted = d.queue.accepted →
      f d' = f d) :
    (r'.queues.take r.queues.length).map f = r.queues.map f := by
  refine List.ext_getElem? fun j => ?_
  rw [List.getElem?_map, List.getElem?_map]
  rcases Nat.lt_or_ge j r.queues.length with hlt | hge
  · obtain ⟨d', hj', hd⟩ := h j _ (List.getElem?_eq_getElem hlt)
    obtain ⟨-, hs, ha⟩ := hd (hi _ (List.getElem_mem hlt))
    rw [List.getElem?_take_of_lt hlt, hj', List.getElem?_eq_getElem hlt]
    exact congrArg some (hf _ _ hs ha)
  · rw [List.getElem?_eq_none hge, List.getElem?_eq_none]
    exact Nat.le_trans (List.length_take_le _ _) hge

/-! ## One queue at work -/

/-- All workers but that of the last queue have left. -/
def Sequential (r : Registry ω) : Prop := ∀ d ∈ r.queues.dropLast, d.queue.isGone = true

/-- The wire carries the reports of one queue after the other. -/
def InOrder (r : Registry ω) : Prop := reportRequests r.line.wire = postedBy r.queues

/-- One queue is at work at most, which is that of the live client. -/
structure Ordered (r : Registry ω) : Prop where
  sequential : r.Sequential
  idle : r.current = none → r.Idle
  inOrder : r.InOrder

/-- No session has been requested since. -/
def Silent (r r' : Registry ω) : Prop :=
  ∃ ts, r'.line.wire = r.line.wire ++ ts ∧ sessionStarts ts = []

theorem Silent.refl (r : Registry ω) : r.Silent r := ⟨[], (List.append_nil _).symm, rfl⟩

theorem Turns.sequential (ht : r.Turns r') (h : r.Sequential) : r'.Sequential := by
  obtain ⟨before, d, d', after, mode, token, hr, hr', hturn⟩ := ht
  unfold Sequential at h ⊢
  rw [hr] at h
  rw [hr']
  cases after with
  | nil =>
      rw [List.dropLast_concat] at h ⊢
      exact h
  | cons x after =>
      rw [List.dropLast_append_cons, List.dropLast_cons_cons] at h ⊢
      intro y hy
      rcases List.mem_append.1 hy with hy | hy
      · exact h y (List.mem_append_left _ hy)
      · rcases List.mem_cons.1 hy with rfl | hy
        · exact (hturn.gone (h d (List.mem_append_right _ List.mem_cons_self))).1
        · exact h y (List.mem_append_right _ (List.mem_cons_of_mem _ hy))

/-- What goes out in a turn comes after all that has gone out before. -/
theorem Turns.inOrder (ht : r.Turns r') (h : r.Sequential) (hw : r.InOrder)
    (hm : ∀ d ∈ r'.queues, ∀ a ∈ d.sent, a.MakesReports) :
    r'.InOrder ∧ r.Silent r' := by
  obtain ⟨before, d, d', after, mode, token, hr, hr', hturn⟩ := ht
  obtain ⟨new, ts, hs, hwire, hts⟩ := hturn.posts
  have hnew : ∀ a ∈ new, a.MakesReports := fun a ha =>
    hm d' (hr' ▸ List.mem_append_right _ List.mem_cons_self) a (hs ▸ List.mem_append_right _ ha)
  obtain ⟨hreports, hstarts⟩ := reportRequests_of_attempts hnew hts
  refine ⟨?_, ts, hwire, hstarts⟩
  unfold InOrder postedBy at hw ⊢
  rw [hwire, reportRequests_append, hw, hreports, hr, hr']
  cases after with
  | nil =>
      simp only [List.flatMap_append, List.flatMap_cons, List.flatMap_nil, hs, List.map_append,
        List.append_nil, List.append_assoc]
  | cons x after =>
      -- A queue with others after it is through, and its turn adds nothing.
      have hgone : d.queue.isGone = true := by
        refine h d ?_
        rw [hr, List.dropLast_append_cons, List.dropLast_cons_cons]
        exact List.mem_append_right _ List.mem_cons_self
      have hsame := (hturn.gone hgone).2.1
      have hnone : new = [] := by
        rw [hs] at hsame
        exact List.append_right_eq_self.1 hsame
      simp only [List.flatMap_append, List.flatMap_cons, hsame, hnone, List.map_nil,
        List.append_nil]

theorem Turns.idle (ht : r.Turns r') (h : r.Idle) : r'.Idle := by
  obtain ⟨before, d, d', after, mode, token, hr, hr', hturn⟩ := ht
  unfold Idle at h ⊢
  rw [hr] at h
  rw [hr']
  intro x hx
  rcases List.mem_append.1 hx with hx | hx
  · exact h x (List.mem_append_left _ hx)
  · rcases List.mem_cons.1 hx with rfl | hx
    · exact (hturn.gone (h d (List.mem_append_right _ List.mem_cons_self))).1
    · exact h x (List.mem_append_right _ (List.mem_cons_of_mem _ hx))

theorem Turns.ordered (ht : r.Turns r') (h : r.Ordered)
    (hcur : r'.current = none → r.current = none)
    (hm : ∀ d ∈ r'.queues, ∀ a ∈ d.sent, a.MakesReports) : r'.Ordered ∧ r.Silent r' := by
  obtain ⟨hwire, hsilent⟩ := ht.inOrder h.sequential h.inOrder hm
  exact ⟨⟨ht.sequential h.sequential, fun hn => ht.idle (h.idle (hcur hn)), hwire⟩, hsilent⟩

/-- All workers have left, and nothing else has happened to the queues that there were. -/
structure Handover (r mid : Registry ω) : Prop where
  turned : mid = r ∨ r.Turns mid
  idle : mid.Idle
  accepted : mid.queues.map (fun d => d.queue.accepted) = r.queues.map fun d => d.queue.accepted

theorem Handover.length_eq {mid : Registry ω} (h : r.Handover mid) :
    mid.queues.length = r.queues.length := by
  have hlength := congrArg List.length h.accepted
  rwa [List.length_map, List.length_map] at hlength

theorem Handover.follows {mid : Registry ω} (h : r.Handover mid) : r.Follows mid := by
  rcases h.turned with rfl | ht
  · exact .refl _
  · exact ht.follows

theorem Handover.ordered {mid : Registry ω} (h : r.Handover mid) (ho : r.Ordered)
    (hm : ∀ d ∈ mid.queues, ∀ a ∈ d.sent, a.MakesReports) : mid.Ordered ∧ r.Silent mid := by
  rcases h.turned with rfl | ht
  · exact ⟨ho, .refl _⟩
  · obtain ⟨hwire, hsilent⟩ := ht.inOrder ho.sequential ho.inOrder hm
    exact ⟨⟨fun d hd => h.idle d (List.dropLast_subset _ hd), fun _ => h.idle, hwire⟩, hsilent⟩

/-- A queue that begins when all others are through is in its place, whatever was requested
just before that is no report. -/
theorem Ordered.begin {mid : Registry ω} (h : mid.Ordered) (hi : mid.Idle)
    {fresh : Option Dispatch} {ts : List Transmission}
    (hq : r.queues = mid.queues ++ fresh.toList) (hs : ∀ d ∈ fresh, d.sent = [])
    (hn : r.current = none → fresh = none) (hw : r.line.wire = mid.line.wire ++ ts)
    (hts : reportRequests ts = []) : r.Ordered := by
  refine ⟨fun d hd => ?_, fun hcur d hd => ?_, ?_⟩
  · rw [hq] at hd
    cases fresh with
    | none =>
        rw [Option.toList_none, List.append_nil] at hd
        exact hi d (List.dropLast_subset _ hd)
    | some x =>
        rw [Option.toList_some, List.dropLast_concat] at hd
        exact hi d hd
  · rw [hq, hn hcur, Option.toList_none, List.append_nil] at hd
    exact hi d hd
  · have hnone : postedBy fresh.toList = [] :=
      List.flatMap_eq_nil_iff.2 fun d hd => by rw [hs d (Option.mem_toList.1 hd)]; rfl
    have hwire := h.inOrder
    unfold InOrder at hwire ⊢
    rw [hw, reportRequests_append, hts, hwire, hq, postedBy, postedBy, List.flatMap_append]
    exact congrArg _ hnone.symm

theorem handover_of_last {cs : List Client} {c : Client} {d' : Dispatch} (socket : Socket)
    {line : Line ω} {current : Option Nat} {mode : QueueMode} (hc : r.clients = cs ++ [c])
    (h : r.Sequential) (hturn : Dispatch.Turn mode c.token r.line.wire c.dispatch line.wire d')
    (ha : d'.queue.accepted = c.queue.accepted) (hg : d'.queue.isGone = true) :
    r.Handover ⟨line, cs ++ [{ c with dispatch := d', socket }], current⟩ := by
  have hr : r.queues = (cs.flatMap Client.dispatches ++ c.retired) ++ [c.dispatch] := by
    rw [queues, hc, List.flatMap_append, List.flatMap_singleton, Client.dispatches,
      List.append_assoc]
  have hmid : queues ⟨line, cs ++ [{ c with dispatch := d', socket }], current⟩ =
      (cs.flatMap Client.dispatches ++ c.retired) ++ [d'] := by
    rw [queues, List.flatMap_append, List.flatMap_singleton, Client.dispatches,
      List.append_assoc]
  unfold Sequential at h
  rw [hr, List.dropLast_concat] at h
  refine ⟨.inr (turns_of_client hc rfl (.inUse socket hturn)), fun d hd => ?_, ?_⟩
  · rw [hmid] at hd
    rcases List.mem_append.1 hd with hd | hd
    · exact h d hd
    · rw [List.mem_singleton.1 hd]
      exact hg
  · rw [hmid, hr]
    simp only [List.map_append, List.map_cons, List.map_nil, ha]
    rfl

/-- The live client, where there is one, can be stopped in time. -/
def Prompt (n : Network ω) (r : Registry ω) : Prop :=
  ∀ i c, r.current = some i → r.clients[i]? = some c → (c.stop n r.line).1.queue.isGone = true

theorem Releases.handover (h : Releases n r r') (ho : r.Ordered) (hp : r.Prompt n) :
    r.Handover r' := by
  cases h with
  | idle hn => exact ⟨.inl rfl, ho.idle hn, rfl⟩
  | @live cs c d' line mode hc hcur _ hd _ hacc hturn =>
      refine handover_of_last _ hc ho.sequential hturn hacc ?_
      have hlast : r.clients[cs.length]? = some c := by
        rw [hc]
        exact List.getElem?_concat_length
      exact hd ▸ hp _ c hcur hlast

/-- First the live client is stopped. A session is requested after that, if it needs to be, and
if there is a new queue then it begins after that too. -/
theorem Acquires.handover {config : Config} {token : Option String} {identity : ReportIdentity}
    {qs : List HttpRequest} {result : Except Failure Nat}
    (h : Acquires n config token identity qs r result r') (ho : r.Ordered) (hp : r.Prompt n) :
    ∃ (mid : Registry ω) (fresh : Option Dispatch) (ts : List Transmission), r.Handover mid ∧
      r'.queues = mid.queues ++ fresh.toList ∧ (∀ d ∈ fresh, d.sent = []) ∧
      (r'.current = none → fresh = none) ∧ r'.line.wire = mid.line.wire ++ ts ∧
      (r.NeedsSession identity ∧ requests ts = qs ∨
        ¬ r.NeedsSession identity ∧ requests ts = []) := by
  cases h with
  | @started mid _ _ hneeds hrel hst =>
      obtain ⟨fresh, hq, hs, hn, ts, hw, hts⟩ := hst.fresh
      exact ⟨mid, fresh, ts, hrel.handover ho hp, hq, hs, hn, hw, .inl ⟨hneeds, hts⟩⟩
  | @reused cs c d' line mode hc hcur hreuse _ hd _ hacc hturn =>
      have hlast : r.clients[cs.length]? = some c := by
        rw [hc]
        exact List.getElem?_concat_length
      have hmid : r.Handover ⟨line, cs ++ [{ c with dispatch := d' }], none⟩ :=
        handover_of_last c.socket hc ho.sequential hturn hacc (hd ▸ hp _ c hcur hlast)
      refine ⟨_, some (.ofQueue (.start mode c.token)), [], hmid, ?_, fun d hd => ?_,
        (fun hn => by cases hn), (List.append_nil _).symm, .inr ⟨?_, rfl⟩⟩
      · rw [queues, queues, List.flatMap_append, List.flatMap_append, List.flatMap_singleton,
          List.flatMap_singleton, List.append_assoc]
        rfl
      · cases hd
        rfl
      · rintro (hn | ⟨i, x, hi, hx, hneeds⟩)
        · rw [hcur] at hn
          cases hn
        · cases hcur.symm.trans hi
          cases hlast.symm.trans hx
          rw [mayReuse_eq_false_iff.2 hneeds] at hreuse
          cases hreuse

end Registry
end Courier
