import Courier.Agent.Registry
import Courier.Proofs.AgentAnswers
import Courier.Proofs.RunnerProgram
import Mathlib.Data.List.Forall2

/-!
# What passes

An execution passes if the Agent says so, in a success whose body is an object with the word
`Passed` under `resultType`. A status that is no success takes nothing from the body but a
message, whatever verdict, fields or outputs there are in it, and a body of any other shape has
no verdict to give. So nothing passes by default, neither an action nor a codeblock, and what a
codeblock returns to its caller is read off the same answer.
-/

namespace Courier

namespace HttpAnswer

variable {a : HttpAnswer}

/-- The Agent says that the execution passed. -/
def Passes (a : HttpAnswer) : Prop :=
  (200 ≤ a.status ∧ a.status < 300) ∧
    ∃ o : Object, Json.parse? a.text = some (.obj o) ∧
      Object.get? o "resultType" = some (.str "Passed")

/-- The elements of the array `fields` in a success; none if there is no such array. -/
def fieldItems (a : HttpAnswer) : List Json :=
  if a.isSuccess then ((a.member? "fields").bind Json.asArray?).getD [] else []

/-- The object `outputs` in a success. -/
def outputs? (a : HttpAnswer) : Option Object :=
  if a.isSuccess then (a.member? "outputs").bind Json.asObject? else none

theorem passes_iff :
    a.Passes ↔ a.isSuccess = true ∧ a.textMember? "resultType" = some "Passed" := by
  rw [Passes, isSuccess_iff, textMember?_eq_some_iff, member?_eq_some_iff]

theorem not_passes (h : a.isSuccess = false) : ¬ a.Passes := by
  rw [passes_iff, h]
  simp

end HttpAnswer

theorem Verdict.isPassed_ofAgent (word : Option String) :
    (ofAgent word).isPassed = true ↔ word = some "Passed" := by
  constructor
  · intro h
    unfold ofAgent at h
    split at h
    · rfl
    · cases h
  · rintro rfl
    rfl

/-- What is missing has no members, as what is no object. -/
theorem Json.get?_getD_null (body : Option Json) (name : String) :
    (body.getD .null).get? name = body.bind (·.get? name) := by
  cases body <;> rfl

namespace Decoding

variable {α β : Type} {f : α → Decoded β}

theorem mapM_cons_eq_ok_iff (i : α) (items : List α) (bs : List β) :
    (i :: items).mapM f = .ok bs ↔
      ∃ b rest, f i = .ok b ∧ items.mapM f = .ok rest ∧ bs = b :: rest := by
  rw [List.mapM_cons]
  cases f i with
  | error why => simp [bind, Except.bind]
  | ok b => cases items.mapM f <;> simp [bind, Except.bind, pure, Except.pure, eq_comm]

/-- All elements are accepted, each for what stands in its place. -/
theorem mapM_eq_ok_iff (items : List α) (bs : List β) :
    items.mapM f = .ok bs ↔ List.Forall₂ (fun i b => f i = .ok b) items bs := by
  induction items generalizing bs with
  | nil => simp [pure, Except.pure, eq_comm]
  | cons i items ih => simp only [mapM_cons_eq_ok_iff, ih, List.forall₂_cons_left_iff]

/-- A list is refused for one of its elements. -/
theorem mapM_eq_error_iff (items : List α) :
    (∃ why, items.mapM f = .error why) ↔ ∃ i ∈ items, ∃ why, f i = .error why := by
  induction items with
  | nil => simp [pure, Except.pure]
  | cons i items ih =>
      rw [List.mapM_cons, List.exists_mem_cons_iff, ← ih]
      cases hi : f i with
      | error why => simp [bind, Except.bind]
      | ok b => cases items.mapM f <;> simp [bind, Except.bind, pure, Except.pure]

theorem mapM_isOk_iff (items : List α) :
    (∃ bs, items.mapM f = .ok bs) ↔ ∀ i ∈ items, ∃ b, f i = .ok b := by
  have herror := mapM_eq_error_iff (f := f) items
  have hexcept : ∀ {γ : Type} (x : Decoded γ), (∃ c, x = .ok c) ↔ ¬ ∃ why, x = .error why := by
    intro γ x
    cases x <;> simp
  simp only [hexcept, herror, not_exists, not_and]

end Decoding

namespace Client

variable {ω : Type} {n : Network ω} {l : Line ω} {c : Client} {a : HttpAnswer}

/-! ## Reading answers -/

theorem readFields_eq (h : a.isSuccess = true) :
    readFields ((Json.parse? a.text).getD .null) = a.fieldItems.mapM ResultField.decode := by
  have hmember : ((Json.parse? a.text).getD .null).get? "fields" = a.member? "fields" :=
    Json.get?_getD_null _ _
  unfold readFields HttpAnswer.fieldItems
  rw [hmember, if_pos h]
  cases a.member? "fields" with
  | none => rfl
  | some v => cases v <;> rfl

theorem isPassed_readVerdict (h : a.isSuccess = true) :
    (readVerdict ((Json.parse? a.text).getD .null)).isPassed = true ↔ a.Passes := by
  have hmember : (((Json.parse? a.text).getD .null).get? "resultType").bind Json.asString? =
      a.textMember? "resultType" := by
    rw [Json.get?_getD_null]
    rfl
  rw [readVerdict, hmember, Verdict.isPassed_ofAgent, HttpAnswer.passes_iff]
  exact (and_iff_right h).symm

/-- What becomes of an addon action with this answer. -/
structure AddonOutcome (x : AddonAction) (a : HttpAnswer) (result : Except Failure AddonAnswer) :
    Prop where
  notInstalled : result = .error (.addonNotInstalled x.guid x.className) ↔ a.status = 404
  decoding : (∃ why, result = .error (.decoding why)) ↔
    ∃ item ∈ a.fieldItems, ∃ why, ResultField.decode item = .error why
  ok : (∃ answer, result = .ok answer) ↔
    a.status ≠ 404 ∧ ∀ item ∈ a.fieldItems, ∃ field, ResultField.decode item = .ok field
  verdict (answer : AddonAnswer) : result = .ok answer → (answer.verdict.isPassed = true ↔ a.Passes)
  fields (answer : AddonAnswer) : result = .ok answer →
    List.Forall₂ (fun item field => ResultField.decode item = .ok field) a.fieldItems answer.fields
  message (answer : AddonAnswer) : result = .ok answer →
    answer.message = if a.isSuccess then (a.textMember? "message").getD "" else a.complaint

/-- What becomes of a codeblock with this answer. -/
structure CodeblockOutcome (a : HttpAnswer) (answer : CodeblockAnswer) : Prop where
  verdict : answer.verdict.isPassed = true ↔ a.Passes
  outputs : answer.outputs = a.outputs?
  message : answer.message = if a.isSuccess then "" else a.complaint

theorem fieldItems_of_error (h : a.isSuccess = false) : a.fieldItems = [] :=
  if_neg fun h' => by rw [h] at h'; cases h'

theorem status_ne_of_isSuccess (h : a.isSuccess = true) : a.status ≠ 404 := by
  have := HttpAnswer.isSuccess_iff.1 h
  omega

theorem addonOutcome_of_missing (x : AddonAction) (h : a.status = 404) :
    AddonOutcome x a (.error (.addonNotInstalled x.guid x.className)) := by
  have hs : a.isSuccess = false :=
    Bool.eq_false_iff.2 fun hs => status_ne_of_isSuccess hs h
  constructor <;> simp [h, fieldItems_of_error hs]

theorem addonOutcome_of_error (x : AddonAction) (hs : a.isSuccess = false) (h : a.status ≠ 404) :
    AddonOutcome x a (.ok ⟨.failed, a.complaint, []⟩) := by
  have hitems := fieldItems_of_error hs
  constructor
  · simp [h]
  · simp [hitems]
  · simp [h, hitems]
  · rintro _ ⟨⟩
    exact iff_of_false Bool.false_ne_true (HttpAnswer.not_passes hs)
  · rintro _ ⟨⟩
    rw [hitems]
    exact .nil
  · rintro _ ⟨⟩
    rw [hs]
    rfl

theorem addonOutcome_of_undecodable (x : AddonAction) (hs : a.isSuccess = true) {why : String}
    (h : a.fieldItems.mapM ResultField.decode = .error why) :
    AddonOutcome x a (.error (.decoding why)) := by
  have hbad := (Decoding.mapM_eq_error_iff a.fieldItems).1 ⟨why, h⟩
  have hnone : ¬ ∀ item ∈ a.fieldItems, ∃ field, ResultField.decode item = .ok field := by
    rw [← Decoding.mapM_isOk_iff, h]
    simp
  constructor
  · simp [status_ne_of_isSuccess hs]
  · exact iff_of_true ⟨why, rfl⟩ hbad
  · exact iff_of_false (by simp) fun hall => hnone hall.2
  · rintro _ ⟨⟩
  · rintro _ ⟨⟩
  · rintro _ ⟨⟩

theorem addonOutcome_of_decoded (x : AddonAction) (hs : a.isSuccess = true)
    {fields : List ResultField} (h : a.fieldItems.mapM ResultField.decode = .ok fields) :
    AddonOutcome x a (.ok ⟨readVerdict ((Json.parse? a.text).getD .null),
      (a.textMember? "message").getD "", fields⟩) := by
  have hall := (Decoding.mapM_isOk_iff a.fieldItems).1 ⟨fields, h⟩
  have hnone : ¬ ∃ item ∈ a.fieldItems, ∃ why, ResultField.decode item = .error why := by
    rw [← Decoding.mapM_eq_error_iff, h]
    simp
  constructor
  · simp [status_ne_of_isSuccess hs]
  · exact iff_of_false (by simp) hnone
  · exact iff_of_true ⟨_, rfl⟩ ⟨status_ne_of_isSuccess hs, hall⟩
  · rintro _ ⟨⟩
    exact isPassed_readVerdict hs
  · rintro _ ⟨⟩
    exact (Decoding.mapM_eq_ok_iff _ _).1 h
  · rintro _ ⟨⟩
    rw [if_pos hs]

theorem addonOutcome_readAddonAnswer (x : AddonAction) (a : HttpAnswer) :
    AddonOutcome x a (readAddonAnswer x (.ofAnswer a a.text)) := by
  unfold readAddonAnswer
  rw [OperationResult.ofAnswer_status, OperationResult.ofAnswer_passed,
    OperationResult.ofAnswer_data, OperationResult.ofAnswer_message]
  by_cases hmissing : a.status = 404
  · rw [if_pos hmissing]
    exact addonOutcome_of_missing x hmissing
  · rw [if_neg hmissing]
    cases hs : a.isSuccess with
    | false => exact addonOutcome_of_error x hs hmissing
    | true =>
        have hmessage : (((Json.parse? a.text).getD .null).get? "message").bind Json.asString? =
            a.textMember? "message" := by
          rw [Json.get?_getD_null]
          rfl
        rw [if_neg (by decide)]
        dsimp only
        rw [readFields_eq hs, hmessage]
        cases hfields : a.fieldItems.mapM ResultField.decode with
        | error why => exact addonOutcome_of_undecodable x hs hfields
        | ok fields => exact addonOutcome_of_decoded x hs hfields

theorem codeblockOutcome_readCodeblockAnswer (a : HttpAnswer) :
    CodeblockOutcome a (readCodeblockAnswer (.ofAnswer a a.text)) := by
  unfold readCodeblockAnswer
  rw [OperationResult.ofAnswer_passed, OperationResult.ofAnswer_data,
    OperationResult.ofAnswer_message]
  cases hs : a.isSuccess with
  | false =>
      have hnone : a.outputs? = none := if_neg fun h => by rw [hs] at h; cases h
      rw [if_pos (by rfl)]
      refine ⟨iff_of_false Bool.false_ne_true (HttpAnswer.not_passes hs), hnone.symm, ?_⟩
      rw [hs]
  | true =>
      rw [if_neg (by decide)]
      refine ⟨isPassed_readVerdict hs, ?_, by rw [hs]⟩
      show (((Json.parse? a.text).getD .null).get? "outputs").bind Json.asObject? = a.outputs?
      rw [Json.get?_getD_null, HttpAnswer.outputs?, if_pos hs]
      rfl

/-! ## Requests -/

/-- The request that a client posts to this path, if it can be addressed. -/
def posted? (c : Client) (path : String) (body : Json) (query : List (String × String)) :
    Option HttpRequest := do
  let url ← (c.baseUrl.join path).toOption
  return ⟨.post, url.appendQuery query, c.token, some body⟩

variable {path : String} {body : Json} {query : List (String × String)} {r : HttpRequest}

theorem perform_sendRequest (path : String) (body : Json) (query : List (String × String)) :
    (∃ r, c.posted? path body query = some r ∧
      (c.sendRequest .post path (some body) query).perform n l = (Talk.operate r).perform n l) ∨
    (c.posted? path body query = none ∧
      ∃ e, (c.sendRequest .post path (some body) query).perform n l = (.error e, l)) := by
  have hsend : (c.sendRequest .post path (some body) query : Talk ω OperationResult) = (do
      let url ← Talk.resolve c.baseUrl path
      Talk.operate ⟨.post, url.appendQuery query, c.token, some body⟩) := rfl
  rw [hsend]
  unfold posted? Talk.resolve
  cases c.baseUrl.join path with
  | ok url => exact .inl ⟨_, rfl, rfl⟩
  | error e => exact .inr ⟨rfl, _, rfl⟩

theorem perform_sendRequest_of_answers (hr : c.posted? path body query = some r)
    (ha : l.Answers n r a) : (c.sendRequest .post path (some body) query).perform n l =
      (.ok (.ofAnswer a a.text), l.asked n r) := by
  rcases perform_sendRequest (n := n) (l := l) (c := c) path body query with
    ⟨_, hr', hp⟩ | ⟨hr', -⟩
  · rw [hp, Option.some.inj (hr'.symm.trans hr), Talk.perform_operate_of_answers ha]
  · rw [hr] at hr'
    cases hr'

theorem answers_of_sendRequest {result : OperationResult}
    (h : ((c.sendRequest .post path (some body) query).perform n l).1 = .ok result) :
    ∃ r a, c.posted? path body query = some r ∧ l.Answers n r a ∧
      result = .ofAnswer a a.text := by
  rcases perform_sendRequest (n := n) (l := l) (c := c) path body query with
    ⟨r, hr, hp⟩ | ⟨-, e, hp⟩
  · rw [hp] at h
    obtain ⟨a, ha, hresult⟩ := Talk.answers_of_operate h
    exact ⟨r, a, hr, ha, hresult⟩
  · rw [hp] at h
    cases h

/-- The request of an addon action, if it can be addressed. -/
def addonRequest? (c : Client) (x : AddonAction) : Option HttpRequest :=
  c.posted? Endpoint.addons.path x.payload [("skipReporting", "true")]

/-- The request of a codeblock, if it can be addressed. -/
def codeblockRequest? (c : Client) (guid : String) (body : Json) : Option HttpRequest :=
  c.posted? (Endpoint.codeblocks.path ++ guid) body []

theorem runAction_of_answers {x : AddonAction} (hr : c.addonRequest? x = some r)
    (ha : l.Answers n r a) :
    ((c.runAction x).perform n l).1 = readAddonAnswer x (.ofAnswer a a.text) := by
  unfold runAction
  rw [Talk.perform_bind_ok (perform_sendRequest_of_answers hr ha)]
  cases readAddonAnswer x (.ofAnswer a a.text) with
  | ok answer => rfl
  | error e =>
      dsimp only
      split <;> rfl

theorem runCodeblock_of_answers {guid : String} (hr : c.codeblockRequest? guid body = some r)
    (ha : l.Answers n r a) :
    ((c.runCodeblock guid body).perform n l).1 =
      .ok (readCodeblockAnswer (.ofAnswer a a.text)) := by
  unfold runCodeblock
  rw [Talk.perform_bind_ok (perform_sendRequest_of_answers hr ha)]
  rfl

/-- What comes out of a request that is the rest of the way was answered. -/
theorem answers_of_bind {α : Type} {f : OperationResult → Talk ω α} {out : α}
    (h : ((c.sendRequest .post path (some body) query >>= f).perform n l).1 = .ok out) :
    ∃ r a, c.posted? path body query = some r ∧ l.Answers n r a := by
  cases hp : (c.sendRequest .post path (some body) query).perform n l with
  | mk result l' =>
      cases result with
      | error e =>
          rw [Talk.perform_bind_error hp] at h
          cases h
      | ok result =>
          obtain ⟨r, a, hr, ha, -⟩ := answers_of_sendRequest (congrArg Prod.fst hp)
          exact ⟨r, a, hr, ha⟩

end Client

/-! ## Codeblocks -/

namespace Registry

variable {ω : Type}

theorem answer_reply {α : Type} (n : Network ω) (r : Registry ω) (act : Talk ω α) :
    (r.reply n act).1.answer = (act.perform n r.line).1 :=
  rfl

/-- The live client asks for a codeblock and is answered. -/
def Answered (n : Network ω) (i : Nat) (r : Registry ω) (guid : String) (body : Json)
    (a : HttpAnswer) : Prop :=
  ∃ c q, r.clients[i]? = some c ∧ c.codeblockRequest? guid body = some q ∧ r.line.Answers n q a

/-- A codeblock that comes to anything was answered. -/
theorem answered_of_runCodeblock {n : Network ω} {i : Nat} {session : Session}
    {respond : Command → Json → Except Failure Response} {fresh : Nat → String}
    {reg : Registry ω} {guid : String} {body : Json} {answer : CodeblockAnswer}
    (h : ((surroundings n i session respond fresh).runCodeblock guid body reg).1.answer =
      .ok answer) :
    ∃ a, reg.Answered n i guid body a ∧ Client.CodeblockOutcome a answer := by
  unfold surroundings at h
  dsimp only at h
  cases hc : reg.clients[i]? with
  | none =>
      rw [hc] at h
      cases h
  | some c =>
      simp only [hc, answer_reply] at h
      obtain ⟨q, a, hq, ha⟩ := Client.answers_of_bind h
      rw [Client.runCodeblock_of_answers hq ha] at h
      cases h
      exact ⟨a, ⟨c, q, hc, hq, ha⟩, Client.codeblockOutcome_readCodeblockAnswer a⟩

end Registry

namespace Run

variable {ω : Type} (env : Surroundings ω) (r : Runner ω)

theorem result_executeCodeblock (timeout : Nat) (guid : String) (entries : Object)
    (l : Option Locator) : result (executeCodeblock timeout guid entries l) env r =
      (env.runCodeblock guid (.obj (Codeblock.body timeout entries l)) r.world).1.answer := by
  have hcall : result (callCodeblock guid (.obj (Codeblock.body timeout entries l))) env r =
      (env.runCodeblock guid (.obj (Codeblock.body timeout entries l)) r.world).1.answer := rfl
  unfold executeCodeblock
  rw [result_bind, hcall]
  cases (env.runCodeblock guid (.obj (Codeblock.body timeout entries l)) r.world).1.answer with
  | error e => rfl
  | ok answer =>
      dsimp only
      split <;> rfl

theorem result_runCodeblock (timeout : Nat) (b : Codeblock) :
    result (runCodeblock timeout b) env r =
      (result (executeCodeblock timeout b.guid b.arguments b.locator?) env r).map b.value := by
  unfold runCodeblock
  rw [result_bind]
  cases result (executeCodeblock timeout b.guid b.arguments b.locator?) env r <;> rfl

end Run

/-! ## Executions as a whole -/

namespace Client

variable {ω : Type}

/-- What passes, of all that is run over this network. -/
structure Earned (n : Network ω) : Prop where
  action (c : Client) (l : Line ω) (x : AddonAction) (r : HttpRequest) (a : HttpAnswer) :
    c.addonRequest? x = some r → l.Answers n r a →
    AddonOutcome x a ((c.runAction x).perform n l).1
  codeblock (c : Client) (l : Line ω) (guid : String) (body : Json) (r : HttpRequest)
    (a : HttpAnswer) : c.codeblockRequest? guid body = some r → l.Answers n r a →
    ∃ answer, ((c.runCodeblock guid body).perform n l).1 = .ok answer ∧ CodeblockOutcome a answer
  /-- Without an answer there is no result. -/
  actionAnswered (c : Client) (l : Line ω) (x : AddonAction) (answer : AddonAnswer) :
    ((c.runAction x).perform n l).1 = .ok answer →
    ∃ r a, c.addonRequest? x = some r ∧ l.Answers n r a
  codeblockAnswered (c : Client) (l : Line ω) (guid : String) (body : Json)
    (answer : CodeblockAnswer) : ((c.runCodeblock guid body).perform n l).1 = .ok answer →
    ∃ r a, c.codeblockRequest? guid body = some r ∧ l.Answers n r a
  executed (i : Nat) (session : Session) (respond : Command → Json → Except Failure Response)
    (fresh : Nat → String) (timeout : Nat) (guid : String) (entries : Object)
    (element : Option Locator) (answer : CodeblockAnswer) (r : Runner (Registry ω)) :
    Run.result (Run.executeCodeblock timeout guid entries element)
      (Registry.surroundings n i session respond fresh) r = .ok answer →
    ∃ a, r.world.Answered n i guid (.obj (Codeblock.body timeout entries element)) a ∧
      CodeblockOutcome a answer
  /-- A codeblock that comes to a verdict. -/
  flag (i : Nat) (session : Session) (respond : Command → Json → Except Failure Response)
    (fresh : Nat → String) (timeout : Nat) (b : Codeblock) (v : Codeblock.Value)
    (r : Runner (Registry ω)) : b.output? = none →
    Run.result (Run.runCodeblock timeout b) (Registry.surroundings n i session respond fresh) r =
      .ok v →
    ∃ a passed, r.world.Answered n i b.guid
        (.obj (Codeblock.body timeout b.arguments b.locator?)) a ∧
      v = .flag passed ∧ (passed = true ↔ a.Passes)
  /-- A codeblock that comes to an output. -/
  output (i : Nat) (session : Session) (respond : Command → Json → Except Failure Response)
    (fresh : Nat → String) (timeout : Nat) (b : Codeblock) (v : Codeblock.Value) (name : String)
    (r : Runner (Registry ω)) : b.output? = some name →
    Run.result (Run.runCodeblock timeout b) (Registry.surroundings n i session respond fresh) r =
      .ok v →
    ∃ a found, r.world.Answered n i b.guid
        (.obj (Codeblock.body timeout b.arguments b.locator?)) a ∧
      v = .output found ∧
      ∀ text, found = some text ↔
        a.Passes ∧ ∃ o ∈ a.outputs?, Object.get? o name = some (.str text)

theorem exists_executed {n : Network ω} {i : Nat} {session : Session}
    {respond : Command → Json → Except Failure Response} {fresh : Nat → String} {timeout : Nat}
    {b : Codeblock} {v : Codeblock.Value} {r : Runner (Registry ω)}
    (h : Run.result (Run.runCodeblock timeout b)
      (Registry.surroundings n i session respond fresh) r = .ok v) :
    ∃ a answer, r.world.Answered n i b.guid
        (.obj (Codeblock.body timeout b.arguments b.locator?)) a ∧
      CodeblockOutcome a answer ∧ v = b.value answer := by
  rw [Run.result_runCodeblock, Run.result_executeCodeblock] at h
  cases hanswer : ((Registry.surroundings n i session respond fresh).runCodeblock b.guid
      (.obj (Codeblock.body timeout b.arguments b.locator?)) r.world).1.answer with
  | error e =>
      rw [hanswer] at h
      cases h
  | ok answer =>
      rw [hanswer] at h
      obtain ⟨a, ha, houtcome⟩ := Registry.answered_of_runCodeblock hanswer
      exact ⟨a, answer, ha, houtcome, (Except.ok.inj h).symm⟩

theorem earned (n : Network ω) : Earned n where
  action c l x r a hr ha := by
    rw [runAction_of_answers hr ha]
    exact addonOutcome_readAddonAnswer x a
  codeblock c l guid body r a hr ha :=
    ⟨_, runCodeblock_of_answers hr ha, codeblockOutcome_readCodeblockAnswer a⟩
  actionAnswered c l x answer h := answers_of_bind h
  codeblockAnswered c l guid body answer h := answers_of_bind h
  executed i session respond fresh timeout guid entries element answer r h := by
    rw [Run.result_executeCodeblock] at h
    exact Registry.answered_of_runCodeblock h
  flag i session respond fresh timeout b v r hflag h := by
    obtain ⟨a, answer, ha, houtcome, rfl⟩ := exists_executed h
    have hvalue : b.value answer = .flag answer.verdict.isPassed := by
      rw [Codeblock.value, hflag]
    exact ⟨a, _, ha, hvalue, houtcome.verdict⟩
  output i session respond fresh timeout b v name r hname h := by
    obtain ⟨a, answer, ha, houtcome, rfl⟩ := exists_executed h
    have hvalue : b.value answer = if answer.verdict.isPassed then
        .output ((answer.outputs.bind (Object.get? · name)).bind Json.asString?)
        else .output none := by
      rw [Codeblock.value, hname]
    by_cases hpasses : a.Passes
    · rw [if_pos (houtcome.verdict.2 hpasses)] at hvalue
      refine ⟨a, _, ha, hvalue, fun text => ?_⟩
      simp only [houtcome.outputs, hpasses, true_and, Option.bind_eq_some_iff,
        Json.asString?_eq_some_iff, exists_eq_right, Option.mem_def]
    · rw [if_neg fun h => hpasses (houtcome.verdict.1 h)] at hvalue
      exact ⟨a, none, ha, hvalue, fun text => by simp [hpasses]⟩

/-- An Agent for which everything passes, on a page that is called Home. -/
def agreeable : Network Unit where
  exchange _ net :=
    let body := Json.object
      [("resultType", .str "Passed"), ("outputs", .object [("title", .str "Home")])]
    (⟨5, .ok ⟨200, Text.utf8 body.text.toList, false⟩⟩, net)
  connect _ _ net := (.ok (), net)
  listen _ _ _ net := (⟨[], none⟩, net)
  disconnect _ _ net := (.ok (), net)
  newId _ := "00000000-0000-4000-8000-000000000000"

/-- A client of an Agent on this machine. -/
def visitor : Client where
  config := .default
  baseUrl := ⟨"http", "", "", some (.domain "localhost"), some 8585, .segments [""], none, none⟩
  token := none
  session := ⟨none, "session", .w3c, []⟩
  identity := .unnamed
  version := .unknown
  localReport := none
  socket := ⟨"localhost", 9999, true⟩
  dispatch := .ofQueue (.start .single none)
  retired := []

theorem earned_title : ∃ answer,
    ((visitor.runCodeblock Codeblock.getTitle.guid (.obj [])).perform agreeable (.fresh ())).1 =
      .ok answer ∧ answer.verdict.isPassed = true ∧
    (answer.outputs.bind (Object.get? · "title")).bind Json.asString? = some "Home" := by
  have hurl : visitor.baseUrl.join (Endpoint.codeblocks.path ++ Codeblock.getTitle.guid) =
      .ok { visitor.baseUrl with
        path := .segments ["api", "codeblocks", "executions", Codeblock.getTitle.guid] } := by
    decide +kernel
  have hrequest : visitor.codeblockRequest? Codeblock.getTitle.guid (.obj []) = some ⟨.post,
      { visitor.baseUrl with
        path := .segments ["api", "codeblocks", "executions", Codeblock.getTitle.guid] },
      none, some (.obj [])⟩ := by
    rw [codeblockRequest?, posted?, hurl]
    rfl
  obtain ⟨answer, hanswer, houtcome⟩ := (earned agreeable).codeblock visitor (.fresh ())
    Codeblock.getTitle.guid (.obj []) _ _ hrequest ⟨by decide +kernel, rfl, rfl⟩
  refine ⟨answer, hanswer, houtcome.verdict.2 (HttpAnswer.passes_iff.2 ?_), ?_⟩
  · decide +kernel
  · rw [houtcome.outputs]
    decide +kernel

end Client
end Courier
