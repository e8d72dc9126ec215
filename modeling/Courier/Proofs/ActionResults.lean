import Courier.Json.Sorted
import Courier.Proofs.StepEffect

/-!
# What comes back from an addon action

The Agent sends fields back, in no particular order and with names that need not be new or known.
Those that are results go into the parameters of the action one by one. A parameter that has the
name takes the value, and where there is none nothing happens; so the names never change, and of
several results with one name the last is the one that is seen in the end. The same results once
more find every parameter as they have left it.

Whether this is done at all depends on the outcome of the step, which has been told by then,
with the parameters as they were.
-/

namespace Courier

open Desk (released)

namespace Object

variable {o : Object} {key : String}

theorem keys_insert (ho : o.Sorted) (value : Json) (h : (o.get? key).isSome = true) :
    (o.insert key value).keys = o.keys := by
  induction o with
  | nil => cases h
  | cons m o ih =>
      obtain ⟨k, v⟩ := m
      obtain ⟨hm, ho⟩ := List.pairwise_cons.1 ho
      unfold insert
      by_cases hk : k = key
      · rw [if_pos hk, ← hk]
        rfl
      · rw [if_neg hk]
        have hrest : (get? o key).isSome = true := by
          unfold get? at h
          rw [if_neg hk] at h
          exact h
        -- A key before the first would not be there.
        have hlt : ¬ key < k := by
          intro hlt
          rw [get?_eq_none fun m hmem => String.lt_trans hlt (hm m hmem)] at hrest
          cases hrest
        rw [if_neg hlt]
        exact congrArg (k :: ·) (ih ho hrest)

end Object

/-! ## The last value of a name -/

namespace ResultField

/-- The value of the last of these fields with this name. -/
def last? (name : String) (fields : List ResultField) : Option Json :=
  (fields.filter fun f => f.name = name).getLast?.map value

theorem last?_cons (name : String) (f : ResultField) (fields : List ResultField) :
    last? name (f :: fields) =
      (last? name fields).or (if f.name = name then some f.value else none) := by
  unfold last?
  rw [List.filter_cons]
  by_cases h : f.name = name
  · rw [if_pos (by simpa using h), if_pos h, List.getLast?_cons]
    cases (fields.filter fun f => f.name = name).getLast? <;> rfl
  · rw [if_neg (by simpa using h), if_neg h, Option.or_none]

end ResultField

open ResultField (last? last?_cons)

/-- In the results by name each name has its last value. -/
theorem Run.get?_resultsByName (name : String) (fields : List ResultField) :
    (Run.resultsByName fields).get? name = last? name (AddonAction.outputs fields) := by
  have hfold : ∀ (fs : List ResultField) (o : Object),
      ((fs.map fun f => (f.name, f.value)).foldl (fun o m => o.insert m.1 m.2) o).get? name =
        (last? name fs).or (o.get? name) := by
    intro fs
    induction fs with
    | nil =>
        intro o
        rfl
    | cons f fs ih =>
        intro o
        rw [List.map_cons, List.foldl_cons, ih, last?_cons, Option.or_assoc]
        by_cases h : f.name = name
        · subst h
          rw [if_pos rfl, Object.get?_insert_self]
          rfl
        · rw [if_neg h, Object.get?_insert_of_ne h]
          rfl
  rw [resultsByName, Object.ofList, hfold]
  exact Option.or_none

/-! ## Taking results over -/

namespace AddonAction

theorem get?_assign (o : Object) (f : ResultField) (name : String) :
    (assign o f).get? name =
      (o.get? name).map fun old => if f.name = name then f.value else old := by
  unfold assign
  split
  · next hsome =>
      by_cases h : f.name = name
      · subst h
        obtain ⟨old, hold⟩ := Option.isSome_iff_exists.1 hsome
        simp [hold]
      · simp [h, Object.get?_insert_of_ne]
  · next hnone =>
      by_cases h : f.name = name
      · subst h
        simp at hnone
        simp [hnone]
      · simp [h]

theorem get?_foldl_assign (fields : List ResultField) (o : Object) (name : String) :
    (fields.foldl assign o).get? name =
      (o.get? name).map fun old => (last? name fields).getD old := by
  induction fields generalizing o with
  | nil => simp [last?]
  | cons f fields ih =>
      rw [List.foldl_cons, ih, get?_assign, Option.map_map]
      congr 1
      funext old
      rw [last?_cons]
      cases last? name fields with
      | some v => rfl
      | none => by_cases h : f.name = name <;> simp [h]

theorem sorted_foldl_assign (fields : List ResultField) {o : Object} (ho : o.Sorted) :
    (fields.foldl assign o).Sorted ∧ (fields.foldl assign o).keys = o.keys := by
  induction fields generalizing o with
  | nil => exact ⟨ho, rfl⟩
  | cons f fields ih =>
      have hassign : (assign o f).Sorted ∧ (assign o f).keys = o.keys := by
        unfold assign
        split
        · next hsome => exact ⟨ho.insert _ _, Object.keys_insert ho _ hsome⟩
        · exact ⟨ho, rfl⟩
      obtain ⟨hs, hk⟩ := ih hassign.1
      exact ⟨hs, hk.trans hassign.2⟩

/-- The action has come back with these results in its parameters. -/
structure TakesOver (a : AddonAction) (fields : List ResultField) (a' : AddonAction) : Prop where
  guid : a'.guid = a.guid
  className : a'.className = a.className
  locator : a'.locator = a.locator
  names : ∀ name, (a'.parameters.get? name).isSome = (a.parameters.get? name).isSome
  value : ∀ name, a'.parameters.get? name =
    (a.parameters.get? name).map fun old => (last? name (outputs fields)).getD old
  again : ∀ name, (a'.withOutputs fields).parameters.get? name = a'.parameters.get? name
  /-- Parameters whose names stand in their order are left in it. -/
  sorted : a.parameters.Sorted →
    a'.parameters.keys = a.parameters.keys ∧ a'.withOutputs fields = a'

theorem takesOver_withOutputs (a : AddonAction) (fields : List ResultField) :
    a.TakesOver fields (a.withOutputs fields) := by
  have hvalue : ∀ (a : AddonAction) name, (a.withOutputs fields).parameters.get? name =
      (a.parameters.get? name).map fun old => (last? name (outputs fields)).getD old :=
    fun a name => get?_foldl_assign (outputs fields) a.parameters name
  have hagain : ∀ name, ((a.withOutputs fields).withOutputs fields).parameters.get? name =
      (a.withOutputs fields).parameters.get? name := by
    intro name
    rw [hvalue, hvalue, Option.map_map]
    congr 1
    funext old
    cases last? name (outputs fields) <;> rfl
  constructor
  case guid | className | locator => rfl
  case names =>
    intro name
    rw [hvalue, Option.isSome_map]
  case value => exact hvalue a
  case again => exact hagain
  case sorted =>
    intro hsorted
    obtain ⟨hs, hkeys⟩ := sorted_foldl_assign (outputs fields) hsorted
    obtain ⟨hs', -⟩ := sorted_foldl_assign (outputs fields) hs
    refine ⟨hkeys, ?_⟩
    show ({ a.withOutputs fields with parameters := _ } : AddonAction) = a.withOutputs fields
    exact congrArg (fun o => { a.withOutputs fields with parameters := o })
      (Object.Sorted.ext hs' hs hagain)

end AddonAction

/-! ## What comes back -/

namespace Occasion

variable {ω : Type} (x : Occasion ω)

open Run

/-- The report of the test before this one, if it is due. -/
def tests : List Report := x.runner.testOver.toList.map .test

/-- The call is over with this result, and no step has been told. -/
def Fails (e : Failure) (answer : Except Failure AddonAction) (r : Runner ω) : Prop :=
  answer = .error e ∧ r.sent = x.runner.sent ++ x.tests ∧ r.stash = x.runner.stash

/-- The step has been told of an action that got this answer, and the call is over. -/
structure Answered (a : AddonAction) (answer : AddonAnswer) (told : StepReport)
    (comes : Except Failure AddonAction) (r : Runner ω) : Prop where
  sent : r.sent = x.runner.sent ++ (x.tests ++
    if x.runner.switches.disableReports then []
    else released x.runner.stash x.runner.switches.reportsCommands ++ [.step told])
  passed : told.passed = (x.policy.judge answer.verdict.isPassed).passed
  /-- The parameters are told as they were. -/
  inputs : told.inputs = some a.parameters
  outputs : ∃ o, told.outputs = some o ∧
    ∀ name, o.get? name = last? name (AddonAction.outputs answer.fields)
  succeeds : (∃ a', comes = .ok a') ↔ told.passed = true
  returned : ∀ a', comes = .ok a' → a.TakesOver answer.fields a'
  failure : ∀ e, comes = .error e →
    e = .general ("Error occurred during addon action execution: " ++ answer.message)

variable {x}

theorem answered_of_tells {a : AddonAction} {answer : AddonAnswer} {r : Runner ω}
    (h : x.Tells (x.opening (.action a)) (x.policy.actionStep a answer) r) :
    ∃ told, x.Answered a answer told (x.policy.actionResult a answer) r := by
  obtain ⟨guid, hc⟩ := h
  have hshows := (shows_opening x (.action a)).append
    (shows_telling x (x.opening (.action a)) (x.policy.actionStep a answer) guid)
  obtain ⟨hsent, -⟩ := hshows.of_comes hc
  refine ⟨x.report (x.opening (.action a)) (x.policy.actionStep a answer) guid, hsent, rfl, rfl,
    ⟨_, rfl, fun name => get?_resultsByName name _⟩, ?_, ?_, ?_⟩
  · show _ ↔ (x.policy.judge answer.verdict.isPassed).passed = true
    unfold StepPolicy.actionResult
    split
    · next hpassed => simp [hpassed]
    · next hpassed => simp [hpassed]
  · intro a' ha'
    unfold StepPolicy.actionResult at ha'
    split at ha'
    · cases ha'
      exact a.takesOver_withOutputs answer.fields
    · cases ha'
  · intro e he
    unfold StepPolicy.actionResult at he
    split at he
    · cases he
    · cases he
      rfl

/-- What comes of an addon action. If the driver refuses to wait or the Agent does not answer,
this failure is returned and no step is told; otherwise the step is told first, and the action
comes back with its results if and only if the step has passed. -/
theorem action_results (a : AddonAction) :
    (∀ e, x.refusal? = some e →
      x.Fails e (result (runAction a) x.env x.runner) (after (runAction a) x.env x.runner)) ∧
    (∀ e, x.refusal? = none → x.reply a = .error e →
      x.Fails e (result (runAction a) x.env x.runner) (after (runAction a) x.env x.runner)) ∧
    (∀ answer, x.refusal? = none → x.reply a = .ok answer →
      ∃ told, x.Answered a answer told (result (runAction a) x.env x.runner)
        (after (runAction a) x.env x.runner)) := by
  have hran : Shows (x.policy.rest .before ++ [.ranAction a]) [] [] :=
    (shows_rest x.policy .before).append ⟨rfl, rfl⟩
  refine runAction_cases (Q := fun comes r =>
    (∀ e, x.refusal? = some e → x.Fails e comes r) ∧
    (∀ e, x.refusal? = none → x.reply a = .error e → x.Fails e comes r) ∧
    ∀ answer, x.refusal? = none → x.reply a = .ok answer → ∃ told, x.Answered a answer told comes r)
    ?_ ?_ ?_
  · intro e r hrefusal hc
    obtain ⟨hsent, -⟩ := (shows_waited x).of_comes hc
    refine ⟨?_, ?_, ?_⟩
    · intro e' he'
      rw [hrefusal] at he'
      cases he'
      exact ⟨rfl, hsent, hc.stash⟩
    · intro e' hnone
      rw [hrefusal] at hnone
      cases hnone
    · intro answer hnone
      rw [hrefusal] at hnone
      cases hnone
  · intro e r hrefusal hreply hc
    unfold beforeAction at hc
    rw [List.append_assoc] at hc
    obtain ⟨hsent, -⟩ := ((shows_waited x).append hran).of_comes hc
    rw [List.append_nil] at hsent
    refine ⟨?_, ?_, ?_⟩
    · intro e' hsome
      rw [hrefusal] at hsome
      cases hsome
    · intro e' _ he'
      rw [hreply] at he'
      cases he'
      exact ⟨rfl, hsent, hc.stash⟩
    · intro answer _ hok
      rw [hreply] at hok
      cases hok
  · intro answer r hrefusal hreply htells
    refine ⟨?_, ?_, ?_⟩
    · intro e' hsome
      rw [hrefusal] at hsome
      cases hsome
    · intro e' _ he'
      rw [hreply] at he'
      cases he'
    · intro answer' _ hok
      rw [hreply] at hok
      cases hok
      exact answered_of_tells htells

/-- A result twice, an echo of a parameter, and a result that there is no parameter for. -/
def filledIn : AddonAnswer :=
  ⟨.passed, "", [⟨"city", .str "Rome", true⟩, ⟨"name", .str "Bob", false⟩,
  ⟨"zip", .str "0150", true⟩, ⟨"city", .str "Oslo", true⟩]⟩

/-- An action with two parameters, the first of which is still to be filled in. -/
def form : AddonAction := ⟨"guid", "Fill", [("city", .null), ("name", .str "Ada")], none⟩

/-- A runner about to execute an action, and an Agent that fills the action in. -/
def filling : Occasion Unit :=
  ⟨Script.surroundings ⟨[], [], some filledIn, ⟨.passed, "", none⟩⟩ ⟨none, "session", .w3c, []⟩
    fun _ => "step", .ofConfig .default ()⟩

theorem action_results_filling :
    ∃ told a', filling.Answered form filledIn told (result (runAction form) filling.env
        filling.runner) (after (runAction form) filling.env filling.runner) ∧
      result (runAction form) filling.env filling.runner = .ok a' ∧
      a'.parameters = [("city", .str "Oslo"), ("name", .str "Ada")] := by
  obtain ⟨-, -, hanswered⟩ := action_results (x := filling) form
  obtain ⟨told, h⟩ := hanswered filledIn rfl rfl
  exact ⟨told, _, h, rfl, rfl⟩

end Occasion
end Courier
