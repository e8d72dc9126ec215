import Courier.Action
import Courier.Agent.Status
import Courier.Command
import Courier.Config
import Courier.Proofs.RecordCells
import Courier.Step.Policy

/-!
# Reading undoes writing

What is configured, what a driver or an addon answers and what the Agent says of itself are
written as objects and read from objects or arrays. For each of these types the fields are
listed once, in the order of their declaration, and everything follows from the list: what is
written are these fields, and they are read back from the object, from any object that has
them, and from the array of them.

Numbers have no bounds here, so a value is read back if its numbers fit their types, and only
then. That two values are never written the same does not depend on it.
-/

namespace Courier

open Decoding

namespace Decoding

variable {α : Type} {encode : α → Json} {decode : Json → Decoded α} {cells : α → List Cell}
  {Fits : α → Prop}

/-- Writing and reading of a type whose values have these cells. -/
structure RoundTrips (encode : α → Json) (decode : Json → Decoded α) (cells : α → List Cell)
    (Fits : α → Prop) : Prop where
  written : ∀ a, encode a = .object ((cells a).map Cell.member)
  undone : ∀ a, decode (encode a) = .ok a ↔ Fits a
  /-- Other keys may be there, and fields that are null may be left out. -/
  object : ∀ a o, Fits a → o.keys.Nodup → Tells (cells a) o → decode (.obj o) = .ok a
  array : ∀ a, Fits a → decode (.arr ((cells a).map Cell.written)) = .ok a
  injective : Function.Injective encode

/-- What is to be shown of a type. -/
structure Owes (encode : α → Json) (decode : Json → Decoded α) (cells : α → List Cell)
    (Fits : α → Prop) (names : List String) : Prop where
  named : ∀ a, (cells a).map Cell.name = names
  distinct : names.Nodup
  written : ∀ a, encode a = .object ((cells a).map Cell.member)
  lawful : ∀ a, Fits a → ∀ c ∈ cells a, c.Lawful
  fits : ∀ a, (∀ c ∈ cells a, c.Readable) → Fits a
  assembles : ∀ a, Assembles decode (cells a) a
  /-- What is written in the cells tells the value. -/
  telling : ∀ a b, (cells a).map Cell.written = (cells b).map Cell.written → a = b

namespace Owes

variable {names : List String}

theorem keys_members (h : Owes encode decode cells Fits names) (a : α) :
    Object.keys ((cells a).map Cell.member) = names := by
  rw [Object.keys, List.map_map]
  exact h.named a

theorem nodup_members (h : Owes encode decode cells Fits names) (a : α) :
    (Object.keys ((cells a).map Cell.member)).Nodup := by
  rw [h.keys_members a]
  exact h.distinct

theorem get?_members (h : Owes encode decode cells Fits names) {a : α} {c : Cell}
    (hc : c ∈ cells a) :
    (Object.ofList ((cells a).map Cell.member)).get? c.name = some c.written := by
  have hmem : (c.name, c.written) ∈ (cells a).map Cell.member := List.mem_map_of_mem hc
  rw [Object.get?_ofList (h.nodup_members a), Object.get?_of_mem (h.nodup_members a) hmem]

/-- What is written has each field as it is written. -/
theorem tells (h : Owes encode decode cells Fits names) (a : α) :
    Tells (cells a) (Object.ofList ((cells a).map Cell.member)) := by
  intro c hc
  rw [h.get?_members hc]
  rfl

theorem decode_encode (h : Owes encode decode cells Fits names) {a : α} (ha : Fits a) :
    decode (encode a) = .ok a := by
  rw [h.written]
  exact (h.assembles a).object (h.lawful a ha) (Object.sorted_ofList _).nodup_keys (h.tells a)

/-- What is read back fits. -/
theorem fits_of_decode_encode (h : Owes encode decode cells Fits names) {a b : α}
    (hok : decode (encode a) = .ok b) : Fits a := by
  rw [h.written] at hok
  refine h.fits a fun c hc => ?_
  have hnames : ((cells a).map Cell.name).Nodup := by
    rw [h.named a]
    exact h.distinct
  exact (h.assembles a).readable hnames hok hc (Object.mem_of_get? (h.get?_members hc))

theorem injective (h : Owes encode decode cells Fits names) : Function.Injective encode := by
  intro a b hab
  rw [h.written, h.written] at hab
  have hmembers : (cells a).map Cell.member = (cells b).map Cell.member :=
    Object.ofList_inj ((h.keys_members a).trans (h.keys_members b).symm) (h.nodup_members a)
      (Json.obj.inj hab)
  have hwritten := congrArg (List.map Prod.snd) hmembers
  rw [List.map_map, List.map_map] at hwritten
  exact h.telling a b hwritten

theorem roundTrips (h : Owes encode decode cells Fits names) :
    RoundTrips encode decode cells Fits where
  written := h.written
  undone := fun _ => ⟨h.fits_of_decode_encode, h.decode_encode⟩
  object := fun a _ ha hn ht => (h.assembles a).object (h.lawful a ha) hn ht
  array := fun a ha => (h.assembles a).array (h.lawful a ha)
  injective := h.injective

end Owes

end Decoding

/-! ## Choices -/

theorem TokenPolicy.decode_encode (p : TokenPolicy) : decode p.encode = .ok p := by
  cases p <;> rfl

theorem Destination.decode_encode (d : Destination) : decode d.encode = .ok d := by
  cases d <;> rfl

theorem SleepTiming.decode_encode (t : SleepTiming) : decode t.encode = .ok t := by
  cases t <;> rfl

theorem CaptureRule.decode_encode (r : CaptureRule) : decode r.encode = .ok r := by
  cases r <;> rfl

theorem Strategy.decode_encode (s : Strategy) : decode s.encode = .ok s := by
  cases s <;> rfl

/-! ## The types -/

open Cell

namespace Config

/-- The cells of a configuration. -/
def cells (c : Config) : List Cell :=
  [.text "agent_url" c.agentUrl, .text? "token" c.token,
   .chosen "token_policy" TokenPolicy.decode TokenPolicy.encode c.tokenPolicy,
   .flag "disable_auto_reporting" c.disableAutoReporting, .flag "update_job_name" c.updateJobName,
   .count "max_batch_size" c.maxBatchSize, .text? "project_name" c.projectName,
   .text? "job_name" c.jobName, .text? "test_name" c.testName,
   .word "reports_queue_timeout_ms" c.queueTimeout,
   .word "socket_handshake_timeout_ms" c.handshakeTimeout, .text "sdk_version" c.sdkVersion,
   .text "language" c.language]

/-- The sizes in a configuration can be read back. -/
def Fits (c : Config) : Prop :=
  c.maxBatchSize < wordBound ∧ c.queueTimeout < wordBound ∧ c.handshakeTimeout < wordBound

theorem owes : Owes encode decode cells Fits
    ["agent_url", "token", "token_policy", "disable_auto_reporting", "update_job_name",
     "max_batch_size", "project_name", "job_name", "test_name", "reports_queue_timeout_ms",
     "socket_handshake_timeout_ms", "sdk_version", "language"] where
  named _ := rfl
  distinct := by decide
  written _ := rfl
  lawful := by
    intro c hc
    obtain ⟨hbatch, hqueue, hhandshake⟩ := hc
    simp only [cells, List.forall_mem_cons]
    exact ⟨lawful_text _ _, lawful_text? _ _,
      lawful_chosen _ c.tokenPolicy.decode_encode Json.noConfusion, lawful_flag _ _,
      lawful_flag _ _, lawful_count _ hbatch, lawful_text? _ _, lawful_text? _ _,
      lawful_text? _ _, lawful_word _ hqueue, lawful_word _ hhandshake, lawful_text _ _,
      lawful_text _ _, List.forall_mem_nil _⟩
  fits := by
    intro c h
    simp only [cells, List.forall_mem_cons] at h
    obtain ⟨-, -, -, -, -, hbatch, -, -, -, hqueue, hhandshake, -⟩ := h
    exact ⟨hbatch.count, hqueue.word, hhandshake.word⟩
  assembles := by
    intro c
    refine ⟨⟨"SdkConfig", 13⟩, _, rfl, by unfold decode; rfl, fun src h => ?_⟩
    simp only [cells, Source.Gives, text, text?, chosen, Cell.flag, count, word] at h
    simp only [h]
    rfl
  telling := by
    intro a b h
    cases a
    cases b
    simpa [cells, text, text?, chosen, Cell.flag, count, word,
      (injective_of_read TokenPolicy.decode_encode).eq_iff] using h

end Config

namespace ReportIdentity

/-- The cells of an identity. -/
def cells (r : ReportIdentity) : List Cell :=
  [.text? "projectName" r.project, .text? "jobName" r.job,
   .chosen "reportType" Destination.decode Destination.encode r.destination,
   .text? "reportName" r.name, .text? "reportPath" r.path]

theorem owes : Owes encode decode cells (fun _ => True)
    ["projectName", "jobName", "reportType", "reportName", "reportPath"] where
  named _ := rfl
  distinct := by decide
  written _ := rfl
  lawful := by
    intro r _
    simp only [cells, List.forall_mem_cons]
    exact ⟨lawful_text? _ _, lawful_text? _ _,
      lawful_chosen _ r.destination.decode_encode Json.noConfusion, lawful_text? _ _,
      lawful_text? _ _, List.forall_mem_nil _⟩
  fits _ _ := trivial
  assembles := by
    intro r
    refine ⟨⟨"ReportSettings", 5⟩, _, rfl, by unfold decode; rfl, fun src h => ?_⟩
    simp only [cells, Source.Gives, text?, chosen] at h
    simp only [h]
    rfl
  telling := by
    intro a b h
    cases a
    cases b
    simpa [cells, text?, chosen, (injective_of_read Destination.decode_encode).eq_iff] using h

end ReportIdentity

namespace StepPolicy

/-- The cells of a policy. -/
def cells (p : StepPolicy) : List Cell :=
  [.word "sleep_time_ms" p.sleep,
   .chosen "sleep_timing" SleepTiming.decode SleepTiming.encode p.sleepTiming,
   .signed "timeout_ms" p.implicitWait, .flag "invert_result" p.invert,
   .flag "always_pass" p.alwaysPass,
   .chosen "screenshot_condition" CaptureRule.decode CaptureRule.encode p.capture]

/-- The numbers in a policy can be read back. -/
def Fits (p : StepPolicy) : Prop :=
  p.sleep < wordBound ∧ -signedBound ≤ p.implicitWait ∧ p.implicitWait < signedBound

theorem owes : Owes encode decode cells Fits
    ["sleep_time_ms", "sleep_timing", "timeout_ms", "invert_result", "always_pass",
     "screenshot_condition"] where
  named _ := rfl
  distinct := by decide
  written _ := rfl
  lawful := by
    intro p hp
    obtain ⟨hsleep, hwait⟩ := hp
    simp only [cells, List.forall_mem_cons]
    exact ⟨lawful_word _ hsleep, lawful_chosen _ p.sleepTiming.decode_encode Json.noConfusion,
      lawful_signed _ hwait, lawful_flag _ _, lawful_flag _ _,
      lawful_chosen _ p.capture.decode_encode Json.noConfusion, List.forall_mem_nil _⟩
  fits := by
    intro p h
    simp only [cells, List.forall_mem_cons] at h
    obtain ⟨hsleep, -, hwait, -⟩ := h
    exact ⟨hsleep.word, hwait.signed⟩
  assembles := by
    intro p
    refine ⟨⟨"StepSettings", 6⟩, _, rfl, by unfold decode; rfl, fun src h => ?_⟩
    simp only [cells, Source.Gives, word, chosen, signed, flag] at h
    simp only [h]
    rfl
  telling := by
    intro a b h
    cases a
    cases b
    simpa [cells, word, chosen, signed, flag,
      (injective_of_read SleepTiming.decode_encode).eq_iff,
      (injective_of_read CaptureRule.decode_encode).eq_iff] using h

end StepPolicy

namespace SearchCriteria

/-- The cells of search criteria. -/
def cells (c : SearchCriteria) : List Cell :=
  [.chosen "byType" Strategy.decode Strategy.encode c.strategy, .text "byValue" c.value,
   .signed "index" c.index]

/-- The index in search criteria can be read back. -/
def Fits (c : SearchCriteria) : Prop := -signedBound ≤ c.index ∧ c.index < signedBound

theorem owes : Owes encode decode cells Fits ["byType", "byValue", "index"] where
  named _ := rfl
  distinct := by decide
  written _ := rfl
  lawful := by
    intro c hc
    simp only [cells, List.forall_mem_cons]
    exact ⟨lawful_chosen _ c.strategy.decode_encode Json.noConfusion, lawful_text _ _,
      lawful_signed _ hc, List.forall_mem_nil _⟩
  fits := by
    intro c h
    simp only [cells, List.forall_mem_cons] at h
    obtain ⟨-, -, hindex, -⟩ := h
    exact hindex.signed
  assembles := by
    intro c
    refine ⟨⟨"ElementSearchCriteria", 3⟩, _, rfl, by unfold decode; rfl, fun src h => ?_⟩
    simp only [cells, Source.Gives, chosen, text, signed] at h
    simp only [h]
    rfl
  telling := by
    intro a b h
    cases a
    cases b
    simpa [cells, chosen, text, signed, (injective_of_read Strategy.decode_encode).eq_iff] using h

/-- Setting the members one by one or all at once comes to the same. -/
theorem toJson_eq_encode (c : SearchCriteria) : c.toJson = c.encode := by
  simp only [toJson, encode, Json.object, Object.ofList, List.foldl_cons, List.foldl_nil]

end SearchCriteria

namespace Response

/-- The cells of a response. -/
def cells (r : Response) : List Cell := [.signed? "status" r.status, .anything "value" r.value]

/-- The status of a response can be read back. -/
def Fits (r : Response) : Prop := ∀ i ∈ r.status, -signedBound ≤ i ∧ i < signedBound

theorem owes : Owes encode decode cells Fits ["status", "value"] where
  named _ := rfl
  distinct := by decide
  written _ := rfl
  lawful := by
    intro r hr
    simp only [cells, List.forall_mem_cons]
    exact ⟨lawful_signed? _ hr, lawful_anything _ _, List.forall_mem_nil _⟩
  fits := by
    intro r h
    simp only [cells, List.forall_mem_cons] at h
    exact h.1.signed?
  assembles := by
    intro r
    refine ⟨⟨"CommandResponse", 2⟩, _, rfl, by unfold decode; rfl, fun src h => ?_⟩
    simp only [cells, Source.Gives, signed?, anything] at h
    simp only [h]
    rfl
  telling := by
    intro a b h
    cases a
    cases b
    simpa [cells, signed?, anything] using h

end Response

namespace ResultField

/-- The cells of a result field. -/
def cells (f : ResultField) : List Cell :=
  [.text "name" f.name, .anything "value" f.value, .raised "output" f.output]

theorem owes : Owes encode decode cells (fun _ => True) ["name", "value", "output"] where
  named _ := rfl
  distinct := by decide
  written _ := rfl
  lawful := by
    intro f _
    simp only [cells, List.forall_mem_cons]
    exact ⟨lawful_text _ _, lawful_anything _ _, lawful_raised _ _, List.forall_mem_nil _⟩
  fits _ _ := trivial
  assembles := by
    intro f
    refine ⟨⟨"ResultField", 3⟩, _, rfl, by unfold decode; rfl, fun src h => ?_⟩
    simp only [cells, Source.Gives, text, anything, raised] at h
    simp only [h]
    rfl
  telling := by
    intro a b h
    cases a
    cases b
    simpa [cells, text, anything, raised] using h

end ResultField

namespace AgentStatus

/-- The cells of a status. -/
def cells (s : AgentStatus) : List Cell := [.text "tag" s.tag]

theorem owes : Owes encode decode cells (fun _ => True) ["tag"] where
  named _ := rfl
  distinct := by decide
  written _ := rfl
  lawful := by
    intro s _
    simp only [cells, List.forall_mem_cons]
    exact ⟨lawful_text _ _, List.forall_mem_nil _⟩
  fits _ _ := trivial
  assembles := by
    intro s
    refine ⟨⟨"AgentStatusResponse", 1⟩, _, rfl, by unfold decode; rfl, fun src h => ?_⟩
    simp only [cells, Source.Gives, text] at h
    simp only [h]
    rfl
  telling := by
    intro a b h
    cases a
    cases b
    simpa [cells, text] using h

end AgentStatus

/-- Every type of configuration and payload is read back from what is written. -/
structure ReadsBack : Prop where
  config : RoundTrips Config.encode Config.decode Config.cells Config.Fits
  identity : RoundTrips ReportIdentity.encode ReportIdentity.decode ReportIdentity.cells
    fun _ => True
  policy : RoundTrips StepPolicy.encode StepPolicy.decode StepPolicy.cells StepPolicy.Fits
  criteria : RoundTrips SearchCriteria.encode SearchCriteria.decode SearchCriteria.cells
    SearchCriteria.Fits
  response : RoundTrips Response.encode Response.decode Response.cells Response.Fits
  field : RoundTrips ResultField.encode ResultField.decode ResultField.cells fun _ => True
  status : RoundTrips AgentStatus.encode AgentStatus.decode AgentStatus.cells fun _ => True
  toJson : ∀ c : SearchCriteria, c.toJson = c.encode

theorem readsBack : ReadsBack where
  config := Config.owes.roundTrips
  identity := ReportIdentity.owes.roundTrips
  policy := StepPolicy.owes.roundTrips
  criteria := SearchCriteria.owes.roundTrips
  response := Response.owes.roundTrips
  field := ResultField.owes.roundTrips
  status := AgentStatus.owes.roundTrips
  toJson := SearchCriteria.toJson_eq_encode

/-- Both fields are null and left out, and another key is there. -/
example : Response.decode (.obj [("sessionId", .null)]) = .ok ⟨none, .null⟩ := by rfl

end Courier
