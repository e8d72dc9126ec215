import Courier.Proofs.AgentAnswers
import Courier.Proofs.RoundTrips
import Courier.Proofs.StepEffect
import Mathlib

/-!
# The requests of codeblocks

The body of a request is what the caller gave and two entries that are the business of whoever
sends it: how long the Agent may take, and where the element is. If the caller has given entries
under these names, the first gives way always and the second if there is an element to be found.
Everything else arrives as it was given, and there is nothing else in the body.

One request is made for each codeblock. What the caller gets depends on the answer to it alone.
-/

namespace Courier

namespace By

theorem strategy_injective : Function.Injective strategy := by
  intro b b' h
  cases b <;> cases b' <;> first | rfl | cases h

end By

namespace Codeblock

/-! ## Bodies -/

/-- What there is in the body of a request that is made with these entries. -/
structure Carries (timeout : Nat) (entries : Object) (l : Option Locator) (body : Object) :
    Prop where
  timeout : body.get? "_timeout" = some (.ofNat timeout)
  /-- The element is where the locator says, and this can be read. -/
  located : ∀ e, l = some e → ∃ criteria, body.get? "elementSearchCriteria" = some criteria ∧
    criteria = e.criteria.toJson ∧
    SearchCriteria.decode criteria = .ok ⟨e.kind.strategy, e.value, -1⟩
  unlocated : l = none →
    body.get? "elementSearchCriteria" = entries.get? "elementSearchCriteria"
  others : ∀ key, key ≠ "_timeout" → key ≠ "elementSearchCriteria" →
    body.get? key = entries.get? key
  sorted : entries.Sorted → body.Sorted

variable {timeout : Nat} {entries : Object} {l : Option Locator}

theorem decode_criteria (e : Locator) :
    SearchCriteria.decode e.criteria.toJson = .ok ⟨e.kind.strategy, e.value, -1⟩ := by
  have hfits : e.criteria.Fits :=
    ⟨show -(signedBound : Int) ≤ -1 by decide, show (-1 : Int) < signedBound by decide⟩
  rw [SearchCriteria.toJson_eq_encode]
  exact SearchCriteria.owes.decode_encode hfits

theorem carries_body (timeout : Nat) (entries : Object) (l : Option Locator) :
    Carries timeout entries l (body timeout entries l) := by
  -- The element is set last, which leaves the timeout as it is.
  have hkeys : elementKey ≠ timeoutKey := by decide
  cases l with
  | none => exact {
      timeout := Object.get?_insert_self _ _ _
      located := fun e h => by cases h
      unlocated := fun _ => Object.get?_insert_of_ne hkeys.symm _ _
      others := fun key ht _ => Object.get?_insert_of_ne (Ne.symm ht) _ _
      sorted := fun h => h.insert _ _ }
  | some e => exact {
      timeout := (Object.get?_insert_of_ne hkeys _ _).trans (Object.get?_insert_self _ _ _)
      located := fun e' h => by
        cases h
        exact ⟨_, Object.get?_insert_self _ _ _, rfl, decode_criteria e⟩
      unlocated := fun h => by cases h
      others := fun key ht he => (Object.get?_insert_of_ne (Ne.symm he) _ _).trans
        (Object.get?_insert_of_ne (Ne.symm ht) _ _)
      sorted := fun h => (h.insert _ _).insert _ _ }

/-- Both entries of the caller give way, and the third stays. -/
example : body 500 (Object.ofList [("text", .str "a"), ("_timeout", .null),
      ("elementSearchCriteria", .null)]) (some ⟨.id, "go"⟩) =
    Object.ofList [("_timeout", .ofNat 500), ("text", .str "a"),
      ("elementSearchCriteria", SearchCriteria.toJson ⟨.id, "go", -1⟩)] := by rfl

/-- Nothing is left open: two bodies that carry the same are the same. -/
theorem Carries.unique {body body' : Object} (h : Carries timeout entries l body)
    (h' : Carries timeout entries l body') (hs : entries.Sorted) : body = body' := by
  refine (h.sorted hs).ext (h'.sorted hs) fun key => ?_
  by_cases ht : key = "_timeout"
  · rw [ht, h.timeout, h'.timeout]
  by_cases he : key = "elementSearchCriteria"
  · subst he
    cases l with
    | none => rw [h.unlocated rfl, h'.unlocated rfl]
    | some e =>
        obtain ⟨criteria, hfound, rfl, -⟩ := h.located e rfl
        obtain ⟨criteria', hfound', rfl, -⟩ := h'.located e rfl
        rw [hfound, hfound']
  rw [h.others key ht he, h'.others key ht he]

/-! ## The codeblocks -/

/-- No argument is under a name that is the business of the sender. -/
theorem arguments_apart (c : Codeblock) :
    ∀ m ∈ c.arguments, m.1 ≠ "_timeout" ∧ m.1 ≠ "elementSearchCriteria" := by
  cases c <;> simp [arguments]

theorem sorted_arguments (c : Codeblock) : c.arguments.Sorted := by
  cases c with
  | scrollWindow x y => exact List.pairwise_pair.2 (show "x" < "y" by decide)
  | _ => simp [arguments, Object.Sorted]

/-- All arguments arrive, each under its name. -/
theorem Carries.argument {c : Codeblock} {body : Object}
    (h : Carries timeout c.arguments c.locator? body) :
    ∀ m ∈ c.arguments, body.get? m.1 = some m.2 := by
  intro m hm
  obtain ⟨ht, he⟩ := c.arguments_apart m hm
  rw [h.others m.1 ht he]
  exact Object.get?_of_mem c.sorted_arguments.nodup_keys hm

/-- What the caller of a codeblock gets upon an answer of the Agent. -/
structure Yields (c : Codeblock) (reply : Except Failure CodeblockAnswer)
    (got : Except Failure Value) : Prop where
  failed : ∀ e, reply = .error e → got = .error e
  flag : ∀ answer, reply = .ok answer → c.output? = none →
    ∃ b, got = .ok (.flag b) ∧ (b = true ↔ answer.verdict = .passed)
  output : ∀ answer name, reply = .ok answer → c.output? = some name →
    ∃ found, got = .ok (.output found) ∧ ∀ s, found = some s ↔
      answer.verdict = .passed ∧ ∃ o, answer.outputs = some o ∧ o.get? name = some (.str s)

theorem isPassed_iff (v : Verdict) : v.isPassed = true ↔ v = .passed := by
  cases v <;> simp [Verdict.isPassed]

theorem yields_value (c : Codeblock) (reply : Except Failure CodeblockAnswer) :
    c.Yields reply (reply.map c.value) where
  failed := by
    rintro e rfl
    rfl
  flag := by
    rintro answer rfl hflag
    refine ⟨answer.verdict.isPassed, ?_, isPassed_iff _⟩
    show Except.ok (c.value answer) = _
    rw [value, hflag]
  output := by
    rintro answer name rfl hname
    have hvalue : c.value answer = if answer.verdict.isPassed then
        .output ((answer.outputs.bind (Object.get? · name)).bind Json.asString?)
        else .output none := by
      rw [value, hname]
    by_cases hpassed : answer.verdict = .passed
    · rw [if_pos ((isPassed_iff _).2 hpassed)] at hvalue
      refine ⟨_, congrArg Except.ok hvalue, fun s => ?_⟩
      simp only [hpassed, true_and, Option.bind_eq_some_iff, Json.asString?_eq_some_iff,
        exists_eq_right]
    · rw [if_neg (mt (isPassed_iff _).1 hpassed)] at hvalue
      exact ⟨none, congrArg Except.ok hvalue, fun s => by simp [hpassed]⟩

end Codeblock

/-! ## Requests -/

namespace Run

variable {ω : Type} (env : Surroundings ω) (r : Runner ω)

theorem does_callCodeblock (guid : String) (body : Json) :
    Does env r (callCodeblock guid body) [.ranCodeblock guid body] r.stash
      (env.runCodeblock guid body r.world).1.answer :=
  does_ask env r rfl fun _ => rfl

theorem does_executeCodeblock (timeout : Nat) (guid : String) (entries : Object)
    (l : Option Locator) :
    Does env r (executeCodeblock timeout guid entries l)
      [.ranCodeblock guid (.obj (Codeblock.body timeout entries l))] r.stash
      (env.runCodeblock guid (.obj (Codeblock.body timeout entries l)) r.world).1.answer := by
  unfold executeCodeblock
  generalize Json.obj (Codeblock.body timeout entries l) = body
  rw [← List.append_nil [Event.ranCodeblock guid body]]
  refine does_bind_same (does_callCodeblock env r guid body) fun r₁ _ => ?_
  cases (env.runCodeblock guid body r.world).1.answer with
  | error e => exact does_pure _
  | ok answer =>
      dsimp only
      split
      · exact does_bind_same (does_note env r₁ _) fun r₂ _ => does_pure _
      · exact does_pure _

theorem does_runCodeblock (timeout : Nat) (c : Codeblock) :
    Does env r (runCodeblock timeout c)
      [.ranCodeblock c.guid (.obj (Codeblock.body timeout c.arguments c.locator?))] r.stash
      ((env.runCodeblock c.guid (.obj (Codeblock.body timeout c.arguments c.locator?))
        r.world).1.answer.map c.value) := by
  have hexecute := does_executeCodeblock env r timeout c.guid c.arguments c.locator?
  unfold runCodeblock
  rw [← List.append_nil [Event.ranCodeblock _ _]]
  refine does_bind_same hexecute fun r₁ _ => ?_
  cases (env.runCodeblock c.guid (.obj (Codeblock.body timeout c.arguments c.locator?))
      r.world).1.answer with
  | error e => exact does_pure _
  | ok answer => exact does_pure _

end Run

namespace Codeblock

/-- In this run one codeblock is executed, with a body as it should be, and nothing else is done.
What comes back is what is told by the answer. -/
def Executes {ω α : Type} (env : Surroundings ω) (r : Runner ω) (m : Run ω α) (guid : String)
    (timeout : Nat) (entries : Object) (l : Option Locator)
    (Told : Except Failure CodeblockAnswer → α → Prop) : Prop :=
  ∃ body, Carries timeout entries l body ∧
    ∃ a, Run.Does env r m [.ranCodeblock guid (.obj body)] r.stash a ∧
      Told (env.runCodeblock guid (.obj body) r.world).1.answer a

/-- What is requested of the Agent with this timeout. -/
structure Requests (timeout : Nat) : Prop where
  execute : ∀ {ω : Type} (env : Surroundings ω) (r : Runner ω) (guid : String) (entries : Object)
    (l : Option Locator), Executes env r (Run.executeCodeblock timeout guid entries l) guid timeout
      entries l fun reply got => got = reply
  run : ∀ {ω : Type} (env : Surroundings ω) (r : Runner ω) (c : Codeblock),
    Executes env r (Run.runCodeblock timeout c) c.guid timeout c.arguments c.locator? c.Yields
  /-- No argument of a codeblock gives way to anything. -/
  argument : ∀ (c : Codeblock) (body : Object), Carries timeout c.arguments c.locator? body →
    ∀ m ∈ c.arguments, body.get? m.1 = some m.2
  /-- There is nothing left open about a body. -/
  only : ∀ (entries : Object) (l : Option Locator) (body body' : Object), entries.Sorted →
    Carries timeout entries l body → Carries timeout entries l body' → body = body'
  /-- The element that is meant can be told from what is said of it. -/
  element : ∀ l l' : Locator, l.criteria.toJson = l'.criteria.toJson → l = l'

theorem criteria_toJson_injective {l l' : Locator}
    (h : l.criteria.toJson = l'.criteria.toJson) : l = l' := by
  have hdecode := (decode_criteria l).symm.trans ((congrArg _ h).trans (decode_criteria l'))
  obtain ⟨hkind, hvalue, -⟩ := SearchCriteria.mk.inj (Except.ok.inj hdecode)
  obtain ⟨kind, value⟩ := l
  obtain ⟨kind', value'⟩ := l'
  obtain rfl : kind = kind' := By.strategy_injective hkind
  obtain rfl : value = value' := hvalue
  rfl

theorem requested (timeout : Nat) : Requests timeout where
  execute env r guid entries l := ⟨_, carries_body timeout entries l, _,
    Run.does_executeCodeblock env r timeout guid entries l, rfl⟩
  run env r c := ⟨_, carries_body timeout c.arguments c.locator?, _,
    Run.does_runCodeblock env r timeout c, c.yields_value _⟩
  argument _ _ h := h.argument
  only _ _ _ _ h hbody hbody' := hbody.unique hbody' h
  element _ _ := criteria_toJson_injective

end Codeblock
end Courier
