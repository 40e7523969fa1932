import UsbCan.Library.Checked
import Mathlib.Data.List.Induction
import Mathlib.Logic.Relation

/-
  Runs of state machines with checked steps.

  A step of an action returns the next state, returns
  nothing where the action is not enabled, or stops at a
  fault.

  Key definitions include:
    * `Checked.Steps`
    * `Checked.Reaches`
    * `Checked.runActions`

  Key theorems include:
    * `Checked.Reaches.invariant`
    * `Checked.reaches_of_runActions`
    * `Checked.exists_run`
    * `Checked.countP_le_of_runActions`
    * `Checked.Reaches.refines`
-/

------------------------------------------------------------
-- Reachable States
------------------------------------------------------------

namespace Checked

universe u v

variable {σ : Type} {α : Type u}
variable (step : σ → α → Exec (Option σ))

/- One enabled action leads from a state to the next. -/
def Steps (state state' : σ) : Prop :=
  ∃ action, step state action = .ok (some state')

/- Finitely many enabled actions lead to a state. -/
def Reaches : σ → σ → Prop :=
  Relation.ReflTransGen (Steps step)

variable {step}

/- What every step preserves holds in all later states. -/
theorem Reaches.invariant
    (invariant : σ → Prop)
    {start state : σ}
    (hStep :
      ∀ before action after,
        invariant before →
          step before action = .ok (some after) →
            invariant after)
    (hReaches : Reaches step start state)
    (hStart : invariant start) :
    invariant state := by
  induction hReaches with
  | refl => exact hStart
  | tail _ hLast ih =>
      rcases hLast with ⟨action, hLast⟩
      exact hStep _ action _ ih hLast

/- An action that is always enabled in its state. -/
theorem some_map_eq_ok_iff
    {result : Exec σ}
    {state : σ} :
    some <$> result = .ok (some state) ↔
      result = .ok state := by
  cases result with
  | error fault =>
      constructor
      · intro hMap
        cases hMap
      · intro hResult
        cases hResult
  | ok value => simp

variable (step)

/- Perform actions in order. -/
def runActions : List α → σ → Exec (Option σ)
| [], state => .ok (some state)
| action :: actions, state => do
    match ← step state action with
    | none => pure none
    | some state' => runActions actions state'

variable {step}

/- A run that performs all its actions reaches its end. -/
theorem reaches_of_runActions
    {actions : List α}
    {start state : σ}
    (hRun :
      runActions step actions start = .ok (some state)) :
    Reaches step start state := by
  induction actions generalizing start with
  | nil =>
      cases hRun
      exact Relation.ReflTransGen.refl
  | cons action actions ih =>
      rcases bind_eq_ok_iff.mp hRun with
        ⟨result, hStep, hRest⟩
      cases result with
      | none => cases hRest
      | some next =>
          exact Relation.ReflTransGen.head
            ⟨action, hStep⟩ (ih hRest)

/- A run of two parts passes a state between them. -/
theorem runActions_append
    {first second : List α}
    {start state : σ}
    (hRun :
      runActions step (first ++ second) start =
        .ok (some state)) :
    ∃ middle,
      runActions step first start = .ok (some middle) ∧
        runActions step second middle =
          .ok (some state) := by
  induction first generalizing start with
  | nil => exact ⟨start, rfl, hRun⟩
  | cons action first ih =>
      rcases bind_eq_ok_iff.mp hRun with
        ⟨result, hStep, hRest⟩
      cases result with
      | none => cases hRest
      | some next =>
          rcases ih hRest with ⟨middle, hFirst, hSecond⟩
          refine ⟨middle, ?_, hSecond⟩
          rw [runActions, hStep]
          exact hFirst

/- A run that goes on from the end of another one. -/
theorem runActions_trans
    {first second : List α}
    {start middle state : σ}
    (hFirst :
      runActions step first start = .ok (some middle))
    (hSecond :
      runActions step second middle = .ok (some state)) :
    runActions step (first ++ second) start =
      .ok (some state) := by
  induction first generalizing start with
  | nil =>
      cases hFirst
      exact hSecond
  | cons action first ih =>
      rcases bind_eq_ok_iff.mp hFirst with
        ⟨result, hStep, hRest⟩
      cases result with
      | none => cases hRest
      | some next =>
          rw [List.cons_append, runActions, hStep]
          exact ih hRest

variable (step)

/- A run whose last state is seen to meet a condition. -/
theorem exists_end
    {start : σ}
    (actions : List α)
    (condition : σ → Prop) [DecidablePred condition]
    (hRun :
      (runActions step actions start).map
          (Option.map (fun state => decide (condition state))) =
        .ok (some true)) :
    ∃ state,
      runActions step actions start = .ok (some state) ∧
        condition state := by
  cases hEnd : runActions step actions start with
  | error fault =>
      rw [hEnd] at hRun
      cases hRun
  | ok result =>
      rw [hEnd] at hRun
      rcases Option.map_eq_some_iff.mp
          (Except.ok.inj hRun) with
        ⟨state, rfl, hCondition⟩
      exact ⟨state, rfl, of_decide_eq_true hCondition⟩

theorem exists_run
    {start : σ}
    (actions : List α)
    (condition : σ → Prop) [DecidablePred condition]
    (hRun :
      (runActions step actions start).map
          (Option.map (fun state => decide (condition state))) =
        .ok (some true)) :
    ∃ state, Reaches step start state ∧ condition state := by
  rcases exists_end step actions condition hRun with
    ⟨state, hEnd, hCondition⟩
  exact ⟨state, reaches_of_runActions hEnd, hCondition⟩

------------------------------------------------------------
-- Bounded Numbers of Steps
------------------------------------------------------------

variable {step}

/-
  Every marked step uses up work, and other steps add no
  more work than they add to the budget.  Then the marked
  actions of a run are at most the work there was and what
  the budget has gained.
-/
theorem countP_le_of_runActions
    (invariant : σ → Prop)
    (marked : α → Bool)
    (work budget : σ → Nat)
    (hStep :
      ∀ before action after,
        invariant before →
          step before action = .ok (some after) →
            invariant after ∧
              (marked action).toNat + work after +
                  budget before ≤
                work before + budget after)
    {actions : List α}
    {start state : σ}
    (hStart : invariant start)
    (hRun :
      runActions step actions start = .ok (some state)) :
    actions.countP marked + work state + budget start ≤
      work start + budget state := by
  induction actions generalizing start with
  | nil =>
      cases hRun
      simp only [List.countP_nil, Nat.zero_add, Nat.le_refl]
  | cons action actions ih =>
      rcases bind_eq_ok_iff.mp hRun with
        ⟨result, hFirst, hRest⟩
      cases result with
      | none => cases hRest
      | some next =>
          rcases hStep start action next hStart hFirst with
            ⟨hNext, hUsed⟩
          have hLater := ih hNext hRest
          have hCount :
              (action :: actions).countP marked =
                actions.countP marked +
                  (marked action).toNat := by
            rw [List.countP_cons]
            cases marked action <;> rfl
          omega

/- Runs of actions one after the other. -/
theorem Reaches.trans
    {start middle state : σ}
    (hFirst : Reaches step start middle)
    (hSecond : Reaches step middle state) :
    Reaches step start state :=
  Relation.ReflTransGen.trans hFirst hSecond

/- A step that is enabled leads on. -/
theorem Reaches.single
    {start state : σ}
    {action : α}
    (hStep : step start action = .ok (some state)) :
    Reaches step start state :=
  Relation.ReflTransGen.single ⟨action, hStep⟩

/- Steps that another machine makes too. -/
theorem Reaches.of_steps
    {β : Type v}
    {step' : σ → β → Exec (Option σ)}
    (hSteps :
      ∀ before action after,
        step before action = .ok (some after) →
          ∃ action',
            step' before action' = .ok (some after))
    {start state : σ}
    (hReaches : Reaches step start state) :
    Reaches step' start state := by
  induction hReaches with
  | refl => exact Relation.ReflTransGen.refl
  | tail _ hLast ih =>
      rcases hLast with ⟨action, hLast⟩
      rcases hSteps _ _ _ hLast with ⟨action', hLast'⟩
      exact ih.trans (Reaches.single hLast')

------------------------------------------------------------
-- Refinement
------------------------------------------------------------

section Refinement

variable {τ : Type} {abstract : τ → τ → Prop}

/-
  A view of the states under which every step of a run
  amounts to steps of an abstract machine.
-/
theorem Reaches.refines
    (view : σ → τ)
    {start state : σ}
    (hStep :
      ∀ before action after,
        Reaches step start before →
          step before action = .ok (some after) →
            Relation.ReflTransGen abstract
              (view before) (view after))
    (hReaches : Reaches step start state) :
    Relation.ReflTransGen abstract
      (view start) (view state) := by
  induction hReaches with
  | refl => exact Relation.ReflTransGen.refl
  | tail hFirst hLast ih =>
      rcases hLast with ⟨action, hLast⟩
      exact ih.trans (hStep _ action _ hFirst hLast)

/- The same for a view that knows the actions so far. -/
theorem refines_run
    (view : List α → σ → τ)
    {start state : σ}
    {actions : List α}
    (hStep :
      ∀ past before action after,
        Reaches step start before →
          step before action = .ok (some after) →
            Relation.ReflTransGen abstract
              (view past before)
              (view (past ++ [action]) after))
    (hRun :
      runActions step actions start = .ok (some state)) :
    Relation.ReflTransGen abstract
      (view [] start) (view actions state) := by
  induction actions using List.reverseRecOn
    generalizing state with
  | nil =>
      cases hRun
      exact Relation.ReflTransGen.refl
  | append_singleton past action ih =>
      rcases runActions_append hRun with
        ⟨before, hPast, hLast⟩
      rcases bind_eq_ok_iff.mp hLast with
        ⟨result, hAction, hRest⟩
      cases result with
      | none => cases hRest
      | some after =>
          cases hRest
          exact (ih hPast).trans
            (hStep past before action _
              (reaches_of_runActions hPast) hAction)

end Refinement

end Checked
