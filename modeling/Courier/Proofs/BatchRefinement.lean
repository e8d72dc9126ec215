import Courier.Agent.Client
import Courier.Proofs.QueueDrain
import Mathlib

/-!
# Batches carry what single reports would

A queue of batches posts the reports in arrays to one address, a queue of single
reports posts each to the address of its kind. How the reports fall into arrays
depends on when they come and where the wake-ups lie, and none of it matters: a queue
that has drained has delivered what was submitted, in order, whatever its mode, so
the arrays of one laid end to end are the bodies of the other.

That leaves the addresses. A batch has one, but each report still says of what kind
it is, and the kind is all that the address of a single report depends on. The two
sides meet in `parcel`, which is how a client makes a report ready for either queue.
-/

namespace Courier

/-! ## What a report says of itself -/

theorem Object.get?_ofList_concat (members : Object) (key : String) (value : Json) :
    (Object.ofList (members ++ [(key, value)])).get? key = some value := by
  rw [ofList, List.foldl_append]
  exact get?_insert_self _ key value

/-- A report says of what kind it is. -/
theorem Report.get?_type (r : Report) : r.encode.get? "type" = some r.kind.encode := by
  cases r <;> exact Object.get?_ofList_concat _ _ _

namespace Endpoint

/-- The kind that the text of a report tells. -/
def kindOf? (body : Json) : Option ReportKind :=
  (body.get? "type").bind fun tag => (ReportKind.decode tag).toOption

/-- Where a report of this text goes when it goes by itself. -/
def route? (base : Url) (body : Json) : Option Url :=
  (kindOf? body).bind fun kind => (base.join (ofReport kind).path).toOption

theorem kindOf?_encode (r : Report) : kindOf? r.encode = some r.kind := by
  rw [kindOf?, r.get?_type]
  cases r <;> rfl

end Endpoint

namespace Client

theorem parcel_of_join {base url : Url} {r : Report}
    (h : base.join (Endpoint.ofReport r.kind).path = .ok url) :
    parcel base r = .ok ⟨url, r.encode⟩ := by
  rw [parcel, h]
  rfl

/-- The text of a report is enough to find its address again. -/
theorem route?_of_parcel {base : Url} {r : Report} {p : Parcel} (h : parcel base r = .ok p) :
    Endpoint.route? base p.body = some p.url := by
  unfold parcel at h
  cases hj : base.join (Endpoint.ofReport r.kind).path with
  | error e =>
      rw [hj] at h
      cases h
  | ok url =>
      rw [hj] at h
      cases h
      show Endpoint.route? base r.encode = some url
      rw [Endpoint.route?, Endpoint.kindOf?_encode]
      show (base.join _).toOption = _
      rw [hj]
      rfl

end Client

/-! ## What a drained queue has delivered -/

namespace Queue

variable {q : Queue}

/-- No delivery has failed as often as it is tried. -/
def Delivers (q : Queue) : Prop := ∀ load, .settled load false ∉ q.history

theorem mem_deliveries {load : Load} (h : load ∈ q.deliveries) :
    .settled load true ∈ q.history := by
  obtain ⟨e, he, hl⟩ := List.mem_filterMap.1 h
  cases e with
  | settled l delivered =>
      cases delivered with
      | true => cases hl; exact he
      | false => cases hl
  | accepted | dropped | attempted | noted => cases hl

theorem flatMap_concluded {es : List QueueEvent} (h : ∀ load, .settled load false ∉ es) :
    es.flatMap QueueEvent.concluded =
      (es.filterMap QueueEvent.delivered?).flatMap Load.parcels := by
  induction es with
  | nil => rfl
  | cons e es ih =>
      have ht := ih fun load hm => h load (List.mem_cons_of_mem e hm)
      rw [List.flatMap_cons, ht]
      cases e with
      | settled load delivered =>
          cases delivered with
          | true => rfl
          | false => exact absurd List.mem_cons_self (h load)
      | accepted | dropped | attempted | noted => rfl

/-- Where no delivery fails, what is over has been delivered. -/
theorem Delivers.finished (h : q.Delivers) : q.finished = q.deliveries.flatMap Load.parcels :=
  flatMap_concluded h

theorem Formed.carries (hf : q.Formed) {load : Load} (h : load ∈ q.deliveries) :
    q.mode.Carries load := hf.history _ (mem_deliveries h)

/-- Single reports are posted one by one. -/
theorem map_body_of_single {loads : List Load}
    (h : ∀ load ∈ loads, QueueMode.single.Carries load) :
    loads.map Load.body = (loads.flatMap Load.parcels).map Parcel.body ∧
    loads.map Load.url = (loads.flatMap Load.parcels).map Parcel.url := by
  induction loads with
  | nil => exact ⟨rfl, rfl⟩
  | cons load loads ih =>
      obtain ⟨p, rfl⟩ := h load List.mem_cons_self
      obtain ⟨hb, hu⟩ := ih fun l hl => h l (List.mem_cons_of_mem _ hl)
      rw [List.flatMap_cons, List.map_append, List.map_append, ← hb, ← hu]
      exact ⟨rfl, rfl⟩

/-- Batches are posted as arrays of their reports. -/
theorem map_body_of_batch {url : Url} {limit : Nat} {loads : List Load}
    (h : ∀ load ∈ loads, (QueueMode.batch url limit).Carries load) :
    loads.map Load.body = (loads.map fun load => load.parcels.map Parcel.body).map Json.arr := by
  rw [List.map_map]
  refine List.map_congr_left fun load hl => ?_
  rw [(h load hl).1]
  rfl

/-- What the worker gives up is the delivery in progress. -/
theorem Works.settled_false {q' : Queue} (h : Works q q') {load : Load}
    (hl : .settled load false ∈ q'.history) :
    .settled load false ∈ q.history ∨ ∃ failures, q.worker = .posting load failures := by
  cases h with
  | wait | rouse | begin | breakDown | gather | skip | stall => exact .inl hl
  | leave | single | dispatch | succeed | retry =>
      left
      simpa [note, record, attempt, attemptBatch, settle] using hl
  | @giveUp load' failures _ _ hp =>
      simp only [note, record, settle, List.mem_append, List.mem_singleton, reduceCtorEq,
        or_false, QueueEvent.settled.injEq, and_true] at hl
      rcases hl with hl | rfl
      · exact .inl hl
      · exact .inr ⟨failures, hp⟩

theorem Delivers.step {q' : Queue} (hd : q.Delivers) (h : q.step = some q') : q'.Delivers := by
  intro load hl
  rcases (step_works h).settled_false hl with hl | ⟨failures, hp⟩
  · exact hd load hl
  · rw [Queue.step, hp] at h
    cases h

theorem Delivers.answer (hd : q.Delivers) {load : Load} {failures : Nat}
    (hp : q.worker = .posting load failures) : (q.answer (.ok ())).Delivers := by
  intro load' hl
  simp only [Queue.answer, hp] at hl
  refine hd load' ?_
  simpa [settle, record] using hl

theorem Delivers.submit (hd : q.Delivers) (p : Parcel) : (q.submit p).Delivers := by
  intro load hl
  refine hd load ?_
  unfold Queue.submit Queue.send refuse at hl
  split at hl
  · split at hl <;> simpa [raise, record, note] using hl
  · simpa [record, note] using hl

theorem Delivers.beginStop (hd : q.Delivers) : q.beginStop.Delivers := by
  intro load hl
  rw [Queue.beginStop, wake_history] at hl
  exact hd load hl

end Queue

namespace Scene

variable {s : Scene} {ms : List Move} {mode : QueueMode} {token : Option String}

/-- All calls are over and nothing is pending. -/
structure Drained (s : Scene) : Prop where
  idle : s.call = .idle
  pending : s.queue.pending = 0

/-- A queue that has drained is over with all that was submitted while it was running. -/
theorem Runs.finished_of_drained (h : Runs (start mode token) ms s) (hd : s.Drained) :
    s.queue.finished = Courier.submitted ms := by
  have hs : s.Sound := by
    refine h.sound_or_stuck.resolve_right fun hst => ?_
    have hc := hst.1.counted
    rw [hd.pending] at hc
    exact absurd hc (Nat.not_lt_zero _)
  have hn := hs.accounts.count
  rw [hd.pending] at hn
  have hh : s.queue.held = [] := List.length_eq_zero_iff.1 (by omega)
  have hq : s.queue.queued = [] := List.length_eq_zero_iff.1 (by omega)
  rw [h.submitted hs, hs.accounts.order, hh, hq, hd.idle]
  simp [Call.underway]

theorem Runs.parcels_of_drained (h : Runs (start mode token) ms s) (hd : s.Drained)
    (hg : s.queue.Delivers) : s.queue.deliveries.flatMap Load.parcels = Courier.submitted ms := by
  rw [← hg.finished, h.finished_of_drained hd]

theorem Runs.carries (h : Runs (start mode token) ms s) {load : Load}
    (hl : load ∈ s.queue.deliveries) : mode.Carries load := by
  have hc := h.formed.carries hl
  rwa [h.frame.1] at hc

/-- A queue of single reports posts what was submitted, each to its own address. -/
theorem Runs.posts_of_single (h : Runs (start .single token) ms s) (hd : s.Drained)
    (hg : s.queue.Delivers) :
    s.queue.deliveries.map Load.body = (Courier.submitted ms).map Parcel.body ∧
    s.queue.deliveries.map Load.url = (Courier.submitted ms).map Parcel.url := by
  rw [← h.parcels_of_drained hd hg]
  exact Queue.map_body_of_single fun load hl => h.carries hl

/-- A queue of batches posts what was submitted in arrays, however it falls into them. -/
theorem Runs.posts_of_batch {url : Url} {limit : Nat}
    (h : Runs (start (.batch url limit) token) ms s) (hd : s.Drained) (hg : s.queue.Delivers) :
    ∃ arrays : List (List Json), s.queue.deliveries.map Load.body = arrays.map Json.arr ∧
      arrays.flatten = (Courier.submitted ms).map Parcel.body := by
  refine ⟨_, @Queue.map_body_of_batch url limit _ fun load hl => h.carries hl, ?_⟩
  rw [← h.parcels_of_drained hd hg, List.map_flatMap, List.flatMap_def]

/-- With no call going on the worker comes to where nothing is pending, if each attempt
is answered, and gives nothing up if each answer is good. -/
theorem Runs.exists_drained (h : Runs (start mode token) ms s) (hf : mode.fits = true)
    (hc : s.call = .idle) (hd : s.queue.Delivers) :
    ∃ ms' t, (∀ m ∈ ms', m.byWorker = true) ∧ Runs (start mode token) (ms ++ ms') t ∧
      t.Drained ∧ t.queue.Delivers := by
  -- The induction is on the work that is left.
  generalize hn : s.queue.work = n
  induction n using Nat.strongRecOn generalizing s ms with
  | ind n ih =>
      subst hn
      have further : ∀ m q, m.byWorker = true → Step s m { s with queue := q } → q.Delivers →
          ∃ ms' t, (∀ m ∈ ms', m.byWorker = true) ∧ Runs (start mode token) (ms ++ ms') t ∧
            t.Drained ∧ t.queue.Delivers := by
        intro m q hm hs hq
        have hw := (hs.works hm).1.work_lt h.formed
        obtain ⟨ms', t, hall, ht, hend⟩ := ih q.work hw (h.snoc hs) hc hq rfl
        refine ⟨m :: ms', t, ?_, ?_, hend⟩
        · exact List.forall_mem_cons.2 ⟨hm, hall⟩
        · rwa [List.append_assoc] at ht
      by_cases hp : s.queue.pending = 0
      · refine ⟨[], s, nofun, ?_, ⟨hc, hp⟩, hd⟩
        rwa [List.append_nil]
      · have hg : s.queue.isGone = false := by
          cases hg : s.queue.isGone with
          | false => rfl
          | true => exact absurd (h.stays hf hg).2 hp
        have hne : s.queue.worker = .waiting → s.queue.channel ≠ [] := by
          intro hw hch
          have hcount := (h.sound hf).accounts.count
          rw [Queue.held, hw, Queue.queued, hch, hc] at hcount
          exact hp hcount
        rcases Queue.step_or_posting hg hne with ⟨q, hq⟩ | ⟨load, failures, hw⟩
        · exact further .work q rfl (.work hq) (hd.step hq)
        · exact further _ _ rfl (.answer (.ok ()) hw) (hd.answer hw)

end Scene

/-! ## The calls of a client -/

namespace Move

/-- The step begins a call. -/
def isCall : Move → Bool
  | .submit _ | .stop => true
  | _ => false

end Move

/-- What is asked of a queue in the course of a run, in order. -/
def calls (ms : List Move) : List Move := ms.filter Move.isCall

/-- What is submitted depends on nothing but the calls. -/
theorem submitted_calls (ms : List Move) : submitted (calls ms) = submitted ms := by
  induction ms with
  | nil => rfl
  | cons m ms ih =>
      cases m with
      | submit p => exact congrArg (p :: ·) ih
      | stop => rfl
      | raise | send | wake | work | answer => exact ih

theorem mem_of_mem_submitted {ms : List Move} {p : Parcel} (h : p ∈ submitted ms) :
    .submit p ∈ ms := by
  induction ms with
  | nil => cases h
  | cons m ms ih =>
      cases m with
      | submit p' =>
          rcases List.mem_cons.1 h with rfl | h
          · exact List.mem_cons_self
          · exact List.mem_cons_of_mem _ (ih h)
      | stop => cases h
      | raise | send | wake | work | answer => exact List.mem_cons_of_mem _ (ih h)

theorem calls_append (ms ms' : List Move) : calls (ms ++ ms') = calls ms ++ calls ms' :=
  List.filter_append ms ms'

theorem calls_of_byWorker {ms : List Move} (h : ∀ m ∈ ms, m.byWorker = true) :
    calls ms = [] := by
  refine List.filter_eq_nil_iff.2 fun m hm hc => ?_
  have hb := h m hm
  cases m with
  | submit | stop => cases hb
  | raise | send | wake | work | answer => cases hc

namespace Scene

variable {s : Scene} {ms cs : List Move} {mode : QueueMode} {token : Option String}

/-- A caller that is back from its last call can make another one. -/
theorem exists_call {m : Move} (hm : m.isCall = true) (hc : s.call = .idle)
    (hd : s.queue.Delivers) :
    ∃ ms t, Runs s ms t ∧ calls ms = [m] ∧ t.call = .idle ∧ t.queue.Delivers := by
  cases m with
  | submit p =>
      cases hr : s.queue.running with
      | true => exact ⟨_, _, (Runs.nil s).submit hc hr p, rfl, rfl, hd.submit p⟩
      | false =>
          have hn : s.queue.refuse p = s.queue.submit p := by
            rw [Queue.submit, hr]
            rfl
          refine ⟨_, _, (Runs.nil s).snoc (.refuse hc hr), rfl, hc, ?_⟩
          rw [hn]
          exact hd.submit p
  | stop => exact ⟨_, _, (Runs.nil s).stop hc, rfl, rfl, hd.beginStop⟩
  | raise | send | wake | work | answer => cases hm

theorem exists_calls (hcs : ∀ m ∈ cs, m.isCall = true) (hc : s.call = .idle)
    (hd : s.queue.Delivers) :
    ∃ ms t, Runs s ms t ∧ calls ms = cs ∧ t.call = .idle ∧ t.queue.Delivers := by
  induction cs generalizing s with
  | nil => exact ⟨[], s, .nil s, rfl, hc, hd⟩
  | cons m cs ih =>
      obtain ⟨hm, hrest⟩ := List.forall_mem_cons.1 hcs
      obtain ⟨ms, t, ht, hcalls, hct, hdt⟩ := exists_call hm hc hd
      obtain ⟨ms', u, hu, hcalls', hcu, hdu⟩ := ih hrest hct hdt
      refine ⟨ms ++ ms', u, ht.append hu, ?_, hcu, hdu⟩
      rw [calls_append, hcalls, hcalls']
      rfl

/-- Whatever the calls are, a queue with room for its batches can come through them drained
and with everything delivered. -/
theorem exists_drained_of_calls (mode : QueueMode) (hf : mode.fits = true)
    (token : Option String) (cs : List Move) (hcs : ∀ m ∈ cs, m.isCall = true) :
    ∃ ms s, Runs (start mode token) ms s ∧ calls ms = cs ∧ s.Drained ∧ s.queue.Delivers := by
  have hd : (start mode token).queue.Delivers := fun load hl => by
    cases List.mem_singleton.1 hl
  obtain ⟨ms, s, hs, hcalls, hc, hds⟩ := exists_calls hcs rfl hd
  obtain ⟨ms', t, hall, ht, hdr, hdt⟩ := hs.exists_drained hf hc hds
  refine ⟨ms ++ ms', t, ht, ?_, hdr, hdt⟩
  rw [calls_append, hcalls, calls_of_byWorker hall, List.append_nil]

end Scene

namespace Client

/-- What the user of a client asks of its queue. -/
inductive Request where
  | report (r : Report)
  | stop

/-- The call that a request comes to, unless the report has no address. -/
def Request.move? (base : Url) : Request → Option Move
  | .report r => (parcel base r).toOption.map .submit
  | .stop => some .stop

theorem isCall_of_mem {base : Url} {rs : List Request} {m : Move}
    (h : m ∈ rs.filterMap (Request.move? base)) : m.isCall = true := by
  obtain ⟨r, _, hr⟩ := List.mem_filterMap.1 h
  cases r with
  | stop => cases hr; rfl
  | report r =>
      obtain ⟨p, _, rfl⟩ := Option.map_eq_some_iff.1 hr
      rfl

/-- What a client submits finds its address again. -/
theorem route?_of_mem_submitted {base : Url} {rs : List Request} {p : Parcel}
    (h : p ∈ submitted (rs.filterMap (Request.move? base))) :
    Endpoint.route? base p.body = some p.url := by
  obtain ⟨r, _, hr⟩ := List.mem_filterMap.1 (mem_of_mem_submitted h)
  cases r with
  | stop => cases hr
  | report r =>
      rw [Request.move?] at hr
      cases hp : parcel base r with
      | error e =>
          rw [hp] at hr
          cases hr
      | ok p' =>
          rw [hp] at hr
          cases hr
          exact route?_of_parcel hp

/-- The queue of a client whose Agent takes batches posts them to one address. -/
theorem deliveryMode_batch {config : Config} {base : Url} {v : Version} {mode : QueueMode}
    (hv : v.atLeast Version.batchReport = true) (h : deliveryMode config base v = .ok mode) :
    ∃ url, base.join Endpoint.batchReport.path = .ok url ∧
      mode = .ofLimit url config.maxBatchSize := by
  rw [deliveryMode, if_pos hv] at h
  cases hj : base.join Endpoint.batchReport.path with
  | error e =>
      rw [hj] at h
      cases h
  | ok url =>
      rw [hj] at h
      cases h
      exact ⟨url, rfl, rfl⟩

theorem deliveryMode_single {config : Config} {base : Url} {v : Version} {mode : QueueMode}
    (hv : v.atLeast Version.batchReport = false) (h : deliveryMode config base v = .ok mode) :
    mode = .single := by
  rw [deliveryMode, hv] at h
  cases h
  rfl

end Client

/-- The text of a batch: an array of reports, not empty and within the limit. -/
def Json.IsBatch (limit : Nat) (body : Json) : Prop :=
  ∃ items, body = .arr items ∧ items ≠ [] ∧ items.length ≤ max 1 limit

theorem QueueMode.Carries.isBatch {url : Url} {limit : Nat} {load : Load}
    (h : (QueueMode.ofLimit url limit).Carries load) :
    load.url = url ∧ load.body.IsBatch limit := by
  obtain ⟨hl, hne, hlen⟩ := h
  rw [hl]
  refine ⟨rfl, _, rfl, ?_, ?_⟩
  · rwa [ne_eq, List.map_eq_nil_iff]
  · rw [List.length_map]
    omega

namespace Scene

variable {base : Url} {config : Config} {v₁ v₂ : Version} {m₁ m₂ : QueueMode}
  {token₁ token₂ : Option String} {rs : List Client.Request} {ms₁ ms₂ : List Move}
  {s₁ s₂ : Scene}

/-- Whatever is sent out of a queue of batches is one, and goes to their address. -/
theorem Runs.isBatch {url : Url} {limit : Nat}
    (h : Runs (start (.ofLimit url limit) token₁) ms₁ s₁) :
    (∀ a ∈ s₁.queue.attempts, a.url = url ∧ a.body.IsBatch limit) ∧
    (∀ load ∈ s₁.queue.deliveries, load.url = url ∧ load.body.IsBatch limit) := by
  constructor
  · intro a ha
    obtain ⟨e, he, hea⟩ := List.mem_filterMap.1 ha
    cases e with
    | attempted a' =>
        cases hea
        obtain ⟨load, hl, rfl⟩ := h.formed.history _ he
        rw [h.frame.1] at hl
        exact hl.isBatch
    | accepted | dropped | settled | noted => cases hea
  · exact fun load hl => (h.carries hl).isBatch

/-- A queue of batches delivers what a queue of single reports does. Let one client have
an Agent that takes batches and another one that does not, and let both be asked the same.
However each of the two runs goes, once both queues have drained and no delivery was given
up, the arrays of the one end to end are the bodies of the other, and what a report says of
itself gives the address that the other has posted it to. -/
theorem batches_refine_single
    (hv₁ : v₁.atLeast Version.batchReport = true)
    (hm₁ : Client.deliveryMode config base v₁ = .ok m₁)
    (hv₂ : v₂.atLeast Version.batchReport = false)
    (hm₂ : Client.deliveryMode config base v₂ = .ok m₂)
    (h₁ : Runs (start m₁ token₁) ms₁ s₁) (h₂ : Runs (start m₂ token₂) ms₂ s₂)
    (hc₁ : calls ms₁ = rs.filterMap (Client.Request.move? base))
    (hc₂ : calls ms₂ = rs.filterMap (Client.Request.move? base))
    (hd₁ : s₁.Drained) (hd₂ : s₂.Drained)
    (hg₁ : s₁.queue.Delivers) (hg₂ : s₂.queue.Delivers) :
    (∀ a ∈ s₁.queue.attempts, base.join Endpoint.batchReport.path = .ok a.url ∧
      a.body.IsBatch config.maxBatchSize) ∧
    (∀ load ∈ s₁.queue.deliveries, base.join Endpoint.batchReport.path = .ok load.url ∧
      load.body.IsBatch config.maxBatchSize) ∧
    ∃ arrays : List (List Json),
      s₁.queue.deliveries.map Load.body = arrays.map Json.arr ∧
      arrays.flatten = s₂.queue.deliveries.map Load.body ∧
      arrays.flatten.map (Endpoint.route? base) =
        s₂.queue.deliveries.map fun load => some load.url := by
  obtain ⟨url, hj, rfl⟩ := Client.deliveryMode_batch hv₁ hm₁
  obtain rfl := Client.deliveryMode_single hv₂ hm₂
  obtain ⟨hatt, hdel⟩ := h₁.isBatch
  obtain ⟨arrays, hbody₁, hflat⟩ := h₁.posts_of_batch hd₁ hg₁
  obtain ⟨hbody₂, hurl₂⟩ := h₂.posts_of_single hd₂ hg₂
  have hsame : submitted ms₁ = submitted ms₂ := by
    rw [← submitted_calls, hc₁, ← hc₂, submitted_calls]
  have hroute : ∀ p ∈ submitted ms₂, Endpoint.route? base p.body = some p.url := by
    intro p hp
    rw [← submitted_calls, hc₂] at hp
    exact Client.route?_of_mem_submitted hp
  refine ⟨fun a ha => ?_, fun load hl => ?_, arrays, hbody₁, ?_, ?_⟩
  · rw [(hatt a ha).1]
    exact ⟨hj, (hatt a ha).2⟩
  · rw [(hdel load hl).1]
    exact ⟨hj, (hdel load hl).2⟩
  · rw [hflat, hsame, hbody₂]
  · rw [hflat, hsame, List.map_map]
    calc (submitted ms₂).map (Endpoint.route? base ∘ Parcel.body)
        = (submitted ms₂).map (some ∘ Parcel.url) := List.map_congr_left hroute
      _ = ((submitted ms₂).map Parcel.url).map some := List.map_map.symm
      _ = (s₂.queue.deliveries.map Load.url).map some := by rw [hurl₂]
      _ = s₂.queue.deliveries.map fun load => some load.url := List.map_map

/-- A test and a step, then a stop. -/
theorem batches_refine_single_test_step :
    ∃ url ms₁ s₁ ms₂ s₂, ∃ arrays : List (List Json),
      Runs (start (.ofLimit url Config.default.maxBatchSize) none) ms₁ s₁ ∧
      Runs (start .single none) ms₂ s₂ ∧
      s₁.queue.deliveries.map Load.body = arrays.map Json.arr ∧
      s₂.queue.deliveries.map Load.body = [(Report.test ⟨"Opens", true, none⟩).encode,
        (Report.step ⟨"", "Open", "", true, none, none, none, none⟩).encode] ∧
      arrays.flatten = s₂.queue.deliveries.map Load.body ∧
      arrays.flatten.map (Endpoint.route? (.loopback "")) =
        s₂.queue.deliveries.map fun load => some load.url := by
  obtain ⟨url, hb⟩ : ∃ url, (Url.loopback "").join Endpoint.batchReport.path = .ok url :=
    ⟨{ Url.loopback "" with path := .segments ["api", "development", "report", "batch"] }, by cbv⟩
  obtain ⟨url₁, ht⟩ : ∃ url, (Url.loopback "").join Endpoint.testReport.path = .ok url :=
    ⟨{ Url.loopback "" with path := .segments ["api", "development", "report", "test"] }, by cbv⟩
  obtain ⟨url₂, hs⟩ : ∃ url, (Url.loopback "").join Endpoint.stepReport.path = .ok url :=
    ⟨{ Url.loopback "" with path := .segments ["api", "development", "report", "step"] }, by cbv⟩
  have hm₁ : Client.deliveryMode .default (.loopback "") ⟨"4.0.0", [4, 0, 0]⟩ =
      .ok (.ofLimit url Config.default.maxBatchSize) := by
    rw [Client.deliveryMode, if_pos (by cbv), hb]
    rfl
  have hv₂ : Version.atLeast ⟨"3.0.0", [3, 0, 0]⟩ Version.batchReport = false := by cbv
  have hm₂ : Client.deliveryMode .default (.loopback "") ⟨"3.0.0", [3, 0, 0]⟩ = .ok .single := by
    rw [Client.deliveryMode, hv₂]
    rfl
  have hc : [.report (.test ⟨"Opens", true, none⟩),
      .report (.step ⟨"", "Open", "", true, none, none, none, none⟩), .stop].filterMap
        (Client.Request.move? (.loopback "")) =
      [.submit ⟨url₁, (Report.test ⟨"Opens", true, none⟩).encode⟩,
        .submit ⟨url₂, (Report.step ⟨"", "Open", "", true, none, none, none, none⟩).encode⟩,
        .stop] := by
    simp only [List.filterMap_cons, List.filterMap_nil, Client.Request.move?,
      @Client.parcel_of_join _ _ (.test ⟨"Opens", true, none⟩) ht,
      @Client.parcel_of_join _ _ (.step ⟨"", "Open", "", true, none, none, none, none⟩) hs]
    rfl
  obtain ⟨ms₁, s₁, h₁, hc₁, hd₁, hg₁⟩ :=
    exists_drained_of_calls (.ofLimit url Config.default.maxBatchSize) rfl none _
      fun _ => Client.isCall_of_mem
  obtain ⟨ms₂, s₂, h₂, hc₂, hd₂, hg₂⟩ :=
    exists_drained_of_calls .single rfl none _ fun _ => Client.isCall_of_mem
  obtain ⟨-, -, arrays, hbody, hflat, hroute⟩ := batches_refine_single (by cbv) hm₁ hv₂ hm₂
    h₁ h₂ hc₁ hc₂ hd₁ hd₂ hg₁ hg₂
  refine ⟨_, _, _, _, _, arrays, h₁, h₂, hbody, ?_, hflat, hroute⟩
  rw [(h₂.posts_of_single hd₂ hg₂).1, ← submitted_calls, hc₂, hc]
  rfl

end Scene
end Courier
