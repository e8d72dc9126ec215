import Courier.Proofs.RegistryRun
import Mathlib.Data.List.Induction

/-!
# One live session

A registry is used by whoever holds it: clients are acquired and shut down, reports are
submitted through any client that was ever handed out, and the workers of all queues go
on in any order, those of queues that were given up on included. Over all of that there
is one live session at most. It is the one that the last call returned, its queue takes
reports and its socket is open. All other clients have been stopped and closed, so that
reports submitted through them are dropped: what is posted was accepted by the queue that
posts it, and what a client has accepted was submitted through it while it was live.
-/

namespace Courier

/-! ## What is done with a registry -/

/-- What those do who hold a registry and the clients that it has handed out, and what goes
on by itself. -/
inductive Deed where
  | acquire (config : Config) (token : Option String) (capabilities : Object)
      (identity : ReportIdentity)
  | shutdown
  | submit (i : Nat) (report : Report)
  /-- The worker of one of the queues of a client does its next thing. -/
  | work (i k : Nat)
  | wait (ms : Nat)

/-- A registry and what there is to tell of how it was used. -/
structure Tenure (ω : Type) where
  registry : Registry ω
  /-- The client that the last call to it returned. -/
  returned : Option Nat
  /-- The reports that were submitted through the live client, and which one that was. -/
  taken : List (Nat × Report)

namespace Tenure

variable {ω : Type} {n : Network ω} {t : Tenure ω}

/-- Nothing has been acquired yet. -/
def start (net : ω) : Tenure ω := ⟨.empty net, none, []⟩

/-- What becomes of everything when something is done. -/
def perform (n : Network ω) (t : Tenure ω) : Deed → Tenure ω
  | .acquire config token capabilities identity =>
      let (result, registry) := t.registry.acquire n config token capabilities identity
      { t with registry, returned := result.toOption }
  | .shutdown => { t with registry := t.registry.shutdown n, returned := none }
  | .submit i report => { t with
      registry := t.registry.submit i report
      taken := if t.registry.current = some i then t.taken ++ [(i, report)] else t.taken }
  | .work i k => { t with registry := t.registry.update i (Client.work n k) }
  | .wait ms =>
      let line : Line ω := { t.registry.line with now := t.registry.line.now + ms }
      { t with registry := { t.registry with line } }

/-- All of it from the beginning. -/
def run (n : Network ω) (net : ω) (ds : List Deed) : Tenure ω := ds.foldl (perform n) (start net)

/-- The reports that were submitted through a client while it was the live one. -/
def through (t : Tenure ω) (i : Nat) : List Report :=
  t.taken.filterMap fun e => if e.1 = i then some e.2 else none

/-- They are all that the client has accepted. -/
def Ledger (t : Tenure ω) : Prop :=
  ∀ (i : Nat) (c : Client), t.registry.clients[i]? = some c →
    c.accepted.Sublist ((t.through i).filterMap fun r => (Client.parcel c.baseUrl r).toOption)

/-- What holds at all times. -/
structure Sound (t : Tenure ω) : Prop where
  registry : t.registry.Sound
  current : t.registry.current = t.returned
  posted : t.registry.Posted
  ledger : t.Ledger

theorem Ledger.keeps {t' : Tenure ω} (h : t.Ledger) (hk : t.registry.Keeps t'.registry)
    (ht : t'.taken = t.taken) : t'.Ledger := by
  intro i c' hi
  rcases hk i c' hi with he | ⟨c, hi, he, hb⟩
  · rw [he]
    exact List.nil_sublist _
  · rw [he, hb, through, ht]
    exact h i c hi

theorem update_current {r : Registry ω} (act : Client → Line ω → Client × Line ω) (i : Nat) :
    (r.update i act).current = r.current := by
  unfold Registry.update
  split
  · rfl
  · rfl

theorem through_submit (i : Nat) (report : Report) (j : Nat) :
    (t.perform n (.submit i report)).through j = t.through j ++
      if i = j ∧ t.registry.current = some i then [report] else [] := by
  show (if t.registry.current = some i then t.taken ++ [(i, report)] else t.taken).filterMap _ = _
  by_cases hcur : t.registry.current = some i
  · rw [if_pos hcur, List.filterMap_append, through]
    by_cases hij : i = j
    · rw [if_pos ⟨hij, hcur⟩, List.filterMap_cons, if_pos hij]
      rfl
    · rw [if_neg fun h => hij h.1, List.filterMap_cons, if_neg hij]
      rfl
  · rw [if_neg hcur, if_neg fun h => hcur h.2, List.append_nil, through]

theorem Ledger.submit (h : t.Ledger) (hr : t.registry.Sound) (i : Nat) (report : Report) :
    (t.perform n (.submit i report)).Ledger := by
  intro j x hx
  rw [through_submit, List.filterMap_append]
  replace hx : (t.registry.submit i report).clients[j]? = some x := hx
  unfold Registry.submit at hx
  cases hi : t.registry.clients[i]? with
  | none =>
      rw [Registry.update_none hi] at hx
      exact (h j x hx).trans (List.sublist_append_left _ _)
  | some c =>
      rw [Registry.update_eq hi] at hx
      replace hx : (t.registry.clients.set i (c.submit report t.registry.line).1)[j]? = some x := hx
      rw [List.getElem?_set] at hx
      split at hx
      · next hij =>
          subst hij
          split at hx
          · cases hx
            obtain ⟨came, hcame, hsub, hnone⟩ := c.accepted_submit report t.registry.line
            rw [Client.submit_eq c report, Client.accepted_of_dispatch _ hcame]
            refine (h i c hi).append ?_
            by_cases hcur : t.registry.current = some i
            · rw [if_pos ⟨rfl, hcur⟩]
              exact hsub
            · -- The queue of a stale client is closed, so that nothing came that was not taken.
              rw [hnone (hr.stale hi hcur).stopped]
              exact List.nil_sublist _
          · cases hx
      · exact (h j x hx).trans (List.sublist_append_left _ _)

theorem Sound.perform (h : t.Sound) (d : Deed) : (t.perform n d).Sound := by
  have hneutral : ∀ {act : Client → Line ω → Client × Line ω} (i : Nat), Client.Neutral act →
      (t.registry.update i act).Sound ∧ (t.registry.update i act).current = t.returned ∧
        (t.registry.update i act).Posted := by
    intro act i ha
    refine ⟨h.registry.update ha i, (update_current act i).trans h.current, ?_⟩
    rcases Registry.update_turns h.registry ha i with he | ht
    · exact he.symm ▸ h.posted
    · exact h.posted.turns ht
  cases d with
  | submit i report =>
      obtain ⟨hs, hcur, hp⟩ := hneutral i (Client.neutral_submit report)
      exact ⟨hs, hcur, hp, h.ledger.submit h.registry i report⟩
  | work i k =>
      obtain ⟨hs, hcur, hp⟩ := hneutral i (Client.neutral_work n k)
      have hk := Registry.keeps_update (Client.accepted_work n k) (Client.baseUrl_work n k)
      exact ⟨hs, hcur, hp, h.ledger.keeps (hk t.registry i) rfl⟩
  | wait ms =>
      exact ⟨⟨h.registry.clients, h.registry.standing⟩, h.current, h.posted,
        h.ledger.keeps (.refl _) rfl⟩
  | shutdown =>
      have hrel := Registry.shutdown_releases (n := n) h.registry
      obtain ⟨hs, hn⟩ := hrel.sound h.registry
      exact ⟨hs, hn, hrel.posted h.posted, h.ledger.keeps hrel.keeps rfl⟩
  | acquire config token capabilities identity =>
      have hacq := Registry.acquire_acquires (n := n) h.registry config token capabilities identity
      obtain ⟨hs, hcur⟩ := hacq.sound h.registry
      exact ⟨hs, hcur, hacq.posted h.posted fun q => Registry.asksSession_of_mem,
        h.ledger.keeps hacq.keeps rfl⟩

theorem sound_start (net : ω) : (start net).Sound :=
  ⟨Registry.sound_empty net, rfl, List.forall_mem_nil _, fun _ _ hi => by cases hi⟩

theorem sound_run (n : Network ω) (net : ω) (ds : List Deed) : (run n net ds).Sound := by
  unfold run
  induction ds using List.reverseRecOn with
  | nil => exact sound_start net
  | append_singleton ds d ih =>
      rw [List.foldl_append]
      exact ih.perform d

/-! ## One live session -/

/-- The live client is the one that the last call returned, if it was an acquire that
succeeded; its reports are taken and its socket is open. All others are stopped and closed,
and so are the queues that the live one had before. -/
structure OneLive (t : Tenure ω) : Prop where
  current : t.registry.current = t.returned
  live : ∀ i, t.registry.current = some i → ∃ c, t.registry.clients[i]? = some c ∧
    c.queue.running = true ∧ c.socket.isOpen = true
  stale : ∀ i c, t.registry.clients[i]? = some c → t.registry.current ≠ some i →
    c.queue.running = false ∧ c.socket.isOpen = false
  retired : ∀ c ∈ t.registry.clients, ∀ d ∈ c.retired, d.queue.running = false
  /-- A report that is submitted through a stale client is dropped. -/
  dropped : ∀ i c report, t.registry.clients[i]? = some c → t.registry.current ≠ some i →
    (t.registry.submit i report).clients = t.registry.clients.set i (c.refusing report) ∧
      (t.registry.submit i report).line.wire = t.registry.line.wire
  /-- What is posted are attempts of the queues. -/
  posted : ∀ q ∈ requests t.registry.line.wire, Registry.AsksSession q ∨
    ∃ d ∈ t.registry.queues, ∃ a ∈ d.sent, q = a.request
  /-- What a queue has sent out are attempts at reports that it accepted, as they came. -/
  carried : ∀ c ∈ t.registry.clients, ∀ d ∈ c.dispatches, ∃ ps,
    Queue.AttemptsAt d.queue.mode c.token d.sent ps ∧ ps <+: d.queue.accepted
  /-- What a client has accepted was submitted through it while it was the live one. -/
  accepted : ∀ (i : Nat) (c : Client), t.registry.clients[i]? = some c →
    c.accepted.Sublist ((t.through i).filterMap fun r => (Client.parcel c.baseUrl r).toOption)

/-- However a registry is used, and whatever the Agent does, there is one live session. -/
theorem oneLive_run (n : Network ω) (net : ω) (ds : List Deed) : (run n net ds).OneLive := by
  have h := sound_run n net ds
  generalize run n net ds = t at h
  refine ⟨h.current, fun i hi => ?_, fun i c hi hne => ?_, fun c hc => ?_,
    fun i c report hi hne => ?_, h.posted, fun c hc d hd => ?_, h.ledger⟩
  · obtain ⟨cs, c, hc, rfl, -, hlive⟩ := h.registry.live hi
    rw [hc]
    exact ⟨c, List.getElem?_concat_length, hlive.running, hlive.isOpen⟩
  · have hc := h.registry.stale hi hne
    exact ⟨hc.stopped, hc.closed⟩
  · obtain ⟨mode, hs⟩ := h.registry.clients c hc
    exact hs.retired
  · obtain ⟨hsubmit, hwire⟩ :=
      Client.submit_of_stopped (h.registry.stale hi hne).stopped report t.registry.line
    unfold Registry.submit
    rw [Registry.update_eq hi, hsubmit]
    exact ⟨rfl, hwire⟩
  · obtain ⟨mode, hs⟩ := h.registry.clients c hc
    rw [(hs.lives d hd).queue.frame.1]
    exact (hs.lives d hd).sent_attemptsAt

end Tenure
end Courier
