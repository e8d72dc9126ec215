import Courier.Proofs.SteadyRuns

/-!
# Nested scopes

Test code with well-nested scopes is a tree: its leaves are pieces of code, and a scope or a
wait has the code inside it as a subtree. The enclosures of a subtree, the outermost first, are
part of its type. What they put in force can be told from them alone, by filling in one policy
after the other from the outside inward; a runner does it with copies, each scope keeping the
context to go back to.

Both come to the same at every point of a run. To say so an alarm is added to the tree, which
looks at the context before and after every piece and every block and does whatever it likes if
this is not the context that the enclosures put in force. The run with the alarm is the run
without it. The context after a block is then the one before it, in whatever way the block
ended, since the alarm is silent at both.

A name that a scope around already has is not available for another scope: what is left is
the oldest scope of a name, and with such a name the code would not be well-nested.
-/

namespace Courier

/-- The policy with what it leaves open taken from another; all else is its own. -/
def StepPolicy.filled (outer p : StepPolicy) : StepPolicy :=
  { p with
    sleepTiming := if p.sleepTiming = .inherit then outer.sleepTiming else p.sleepTiming
    capture := if p.capture = .inherit then outer.capture else p.capture }

theorem StepPolicy.filled_eq (outer p : StepPolicy) : outer.filled p = p.within outer := by
  have ht : (if p.sleepTiming = .inherit then outer.sleepTiming else p.sleepTiming) =
      p.sleepTiming.orInherit outer.sleepTiming := by
    cases p.sleepTiming <;> rfl
  have hc : (if p.capture = .inherit then outer.capture else p.capture) =
      p.capture.orInherit outer.capture := by
    cases p.capture <;> rfl
  rw [filled, within, ht, hc]

/-- What encloses a point of test code: a scope, or a wait in whose rounds it is. -/
inductive Enclosure where
  | scope (name : String) (kind : ScopeKind)
  | wait

namespace Enclosure

/-- The name of an enclosure that was given one. -/
def name? : Enclosure → Option String
  | scope name _ => some name
  | wait => none

/-- The policy that an enclosure puts in force, if it does. -/
def policy? : Enclosure → Option StepPolicy
  | scope _ (.policy p) => some p
  | scope _ .polling | wait => none

/-- Commands in this enclosure are polled. -/
def polls : Enclosure → Bool
  | scope _ .polling | wait => true
  | scope _ (.policy _) => false

/-- The context that enclosures put in force, the outermost of them first. -/
def inForce (around : List Enclosure) : StepContext where
  policy := (around.filterMap policy?).foldl StepPolicy.filled .standard
  polling := around.any polls

variable (around : List Enclosure)

theorem inForce_scope (name : String) (kind : ScopeKind) :
    inForce (around ++ [.scope name kind]) = kind.change (inForce around) := by
  rw [inForce, List.filterMap_append, List.foldl_append, List.any_append]
  cases kind with
  | policy p => exact congrArg₂ StepContext.mk (StepPolicy.filled_eq _ p) (Bool.or_false _)
  | polling => exact congrArg (StepContext.mk _) (Bool.or_true _)

theorem inForce_wait : inForce (around ++ [.wait]) = (inForce around).whilePolling := by
  rw [inForce, List.filterMap_append, List.any_append]
  exact congrArg₂ StepContext.mk (congrArg _ (List.append_nil _)) (Bool.or_true _)

end Enclosure

open Enclosure (inForce)

/-- Test code with well-nested scopes inside these enclosures. -/
inductive Nested (ω : Type) : List Enclosure → Type → Type 1 where
  | piece {around : List Enclosure} {α : Type} (a : Piece ω α) : Nested ω around α
  | bind {around : List Enclosure} {α β : Type} (m : Nested ω around β)
      (f : β → Nested ω around α) : Nested ω around α
  | scope {around : List Enclosure} {α : Type} (name : String) (kind : ScopeKind)
      (fresh : name ∉ around.filterMap Enclosure.name?)
      (body : Nested ω (around ++ [.scope name kind]) α) : Nested ω around α
  | wait {around : List Enclosure} {α : Type} (timeout interval : Nat)
      (condition : Nat → Nested ω (around ++ [.wait]) (Except Failure (Option α))) :
      Nested ω around (Waited α)

namespace Nested

variable {ω α : Type} {around : List Enclosure}

/-- Runs a nested program, leaving every scope at the end of its body. -/
def run {α : Type} {around : List Enclosure} : Nested ω around α → Run ω α
  | piece a => a.run
  | bind m f => m.run >>= fun b => (f b).run
  | scope name kind _ body => do
      kind.enter name
      let a ← body.run
      Run.leave name
      return a
  | wait timeout interval condition =>
      Run.waitUntil (fun polls => (condition polls).run) timeout interval

/-- The run with the alarm before and after every piece and every block. -/
def watched (alarm : Run ω Unit) {α : Type} : {around : List Enclosure} → Nested ω around α →
    Run ω α
  | around, piece a => Run.guarded alarm (· = inForce around) a.run
  | _, bind m f => watched alarm m >>= fun b => watched alarm (f b)
  | around, scope name kind _ body => Run.guarded alarm (· = inForce around) do
      kind.enter name
      let a ← watched alarm body
      Run.leave name
      return a
  | around, wait timeout interval condition => Run.guarded alarm (· = inForce around) <|
      Run.waitUntil (fun polls => watched alarm (condition polls)) timeout interval

end Nested

/-! ## Where a runner is placed -/

/-- The context is this one, and these are the open scopes. -/
def Runner.Placed {ω : Type} (c : StepContext) (scopes : List Scope) (r : Runner ω) : Prop :=
  r.context = c ∧ r.scopes = scopes

namespace Run

variable {ω α : Type} {c : StepContext} {scopes : List Scope}

open Runner (Placed)

theorem lasts_placed : Lasts (@Placed ω c scopes) :=
  fun _ _ hs h => ⟨hs.context.trans h.1, hs.scopes.trans h.2⟩

theorem agree_setContext (c' : StepContext) :
    Agree (@Placed ω c scopes) (Placed c' scopes) (setContext c') (setContext c') :=
  .of_after fun _ _ h => ⟨rfl, h.2⟩

theorem agree_enter (name : String) (kind : ScopeKind) :
    Agree (@Placed ω c scopes) (Placed (kind.change c) (scopes ++ [⟨name, c⟩]))
      (kind.enter name) (kind.enter name) := by
  rw [kind.enter_eq]
  refine .of_after fun env r h => ?_
  obtain ⟨rfl, rfl⟩ := h
  exact ⟨rfl, rfl⟩

/-- The scope that is left is the one of this name, since no other has it. -/
theorem agree_leave {name : String} {c' : StepContext} (h : name ∉ scopes.map Scope.name) :
    Agree (@Placed ω c' (scopes ++ [⟨name, c⟩])) (Placed c scopes) (leave name) (leave name) := by
  have hother : ∀ s ∈ scopes, ¬ (s.name == name) = true := by
    intro s hs hname
    exact h (List.mem_map.2 ⟨s, hs, beq_iff_eq.1 hname⟩)
  refine .of_after fun env r hr => ?_
  obtain ⟨-, hs⟩ := hr
  have hfind : r.scopes.find? (fun s => s.name == name) = some (Scope.mk name c) := by
    rw [hs, List.find?_append, List.find?_eq_none.2 hother]
    simp
  have herase : r.scopes.eraseP (fun s => s.name == name) = scopes := by
    rw [hs, List.eraseP_append_right _ hother]
    simp
  rw [after_leave_some env hfind]
  exact ⟨rfl, herase⟩

end Run

namespace Nested

variable {ω α : Type} {around : List Enclosure} (alarm : Run ω Unit)

open Run
open Runner (Placed)

/-- The induction. In between the scopes that are open have the names of the enclosures, so that
a fresh name is not among them. -/
theorem agree_watched (t : Nested ω around α) {scopes : List Scope}
    (hs : scopes.map Scope.name = around.filterMap Enclosure.name?) :
    Agree (Placed (inForce around) scopes) (Placed (inForce around) scopes) t.run
      (t.watched alarm) := by
  have hguarded : ∀ {β : Type} {c : StepContext} {scopes : List Scope} {m m' : Run ω β},
      Agree (Placed c scopes) (Placed c scopes) m m' →
      Agree (Placed c scopes) (Placed c scopes) m (guarded alarm (· = c) m') :=
    agree_guarded alarm (fun _ hr => hr.1) (fun _ hr => hr.1)
  induction t generalizing scopes with
  | piece a => exact hguarded (.of_stays lasts_placed a.stays)
  | bind m f ihm ihf => exact .bind (ihm hs) fun b => ihf b hs
  | @scope around α name kind fresh body ih =>
      refine hguarded (.bind (agree_enter name kind) fun _ => ?_)
      rw [← Enclosure.inForce_scope around name kind]
      refine .bind (ih ?_) fun a => .bind (agree_leave ?_) fun _ => .pure a
      · rw [List.map_append, List.filterMap_append, hs]
        rfl
      · rw [hs]
        exact fresh
  | @wait around α timeout interval condition ih =>
      have hnames : scopes.map Scope.name =
          (around ++ [Enclosure.wait]).filterMap Enclosure.name? := by
        rw [List.filterMap_append, hs]
        exact (List.append_nil _).symm
      refine hguarded (.waitUntil lasts_placed (fun r hr => ?_) (fun n => ih n hnames)
        (fun r hr => ?_) _ _)
      · rw [hr.1, ← Enclosure.inForce_wait]
        exact agree_setContext _
      · rw [hr.1]
        exact agree_setContext _

/-- Whatever is written with nested scopes and waits for a new runner, and whatever the driver and
the Agent answer: before and after each piece and each block the context is the one that the
enclosures put in force, since an alarm there is never heard, and a piece goes on in that context
from its first event to its last. -/
theorem in_force (t : Nested ω [] α) (env : Surroundings ω) (config : Config) (world : ω) :
    (∀ alarm, t.watched alarm env (.ofConfig config world) = t.run env (.ofConfig config world)) ∧
    (after t.run env (.ofConfig config world)).context = inForce [] ∧
    ∀ {β : Type} (a : Piece ω β), Obeys Runner.Stays a.run := by
  have hstart : Placed (inForce []) [] (Runner.ofConfig config world) := ⟨rfl, rfl⟩
  have hagree := fun alarm => t.agree_watched alarm rfl env _ hstart
  exact ⟨fun alarm => (hagree alarm).1, (hagree (pure ())).2.1, Piece.stays⟩

/-- Inside all three the steps sleep before, as the outermost has it, for as long as the innermost
says; pictures are left to the standard policy. -/
example : inForce [
    .scope "slow" (.policy ⟨500, .before, 0, false, true, .inherit⟩),
    .wait,
    .scope "quick" (.policy ⟨20, .inherit, -1, true, false, .inherit⟩)] =
    ⟨⟨20, .before, -1, true, false, .onFailure⟩, true⟩ := by decide

end Nested
end Courier
