import Tailpost.Transition.Core

/-!
# Refinement of transitions

A view maps the states of a detailed system to those of a coarse one.  The
detailed system refines the coarse one when each of its steps shows as a step of
the coarse system or does not show at all.  What a step shows may depend on an
invariant of the detailed system and on a condition on its steps.  An execution
then shows as an execution of the coarse system.
-/

namespace Tailpost.Transition

universe u v w z

variable {σ : Type u} {α : Type v} {τ : Type w} {β : Type z}

/-- Steps that meet the condition keep the invariant and show as one permitted step of
the coarse system or as none. -/
structure Refines (next : Step σ α) (condition : σ → α → Prop) (invariant : σ → Prop)
    (coarse : Step τ β) (permitted : β → Prop) (view : σ → τ) : Prop where
  preserved : ∀ ⦃state action after⦄, invariant state → condition state action →
    next state action = some after → invariant after
  shows : ∀ ⦃state action after⦄, invariant state → condition state action →
    next state action = some after →
    view after = view state ∨
      ∃ reaction, permitted reaction ∧ coarse (view state) reaction = some (view after)

namespace Refines

variable {next : Step σ α} {condition : σ → α → Prop} {invariant : σ → Prop}
  {coarse : Step τ β} {permitted : β → Prop} {view : σ → τ} {state final : σ}
  {schedule : List α}

/-- An execution shows as an execution of the coarse system. -/
theorem reaches (refines : Refines next condition invariant coarse permitted view)
    (initial : invariant state) (meets : Meets next condition state schedule)
    (ran : run next state schedule = some final) :
    invariant final ∧ Reaches coarse permitted (view state) (view final) := by
  induction schedule generalizing state with
  | nil =>
      cases ran
      exact ⟨initial, Reaches.refl _ _ _⟩
  | cons action schedule ih =>
      obtain ⟨after, step, rest⟩ :=
        (run_cons_eq_some_iff next state final action schedule).mp ran
      have kept := refines.preserved initial meets.1 step
      obtain ⟨keptFinal, path⟩ := ih kept (meets.2 after step) rest
      refine ⟨keptFinal, ?_⟩
      rcases refines.shows initial meets.1 step with same | ⟨reaction, isPermitted, shown⟩
      · rw [same] at path
        exact path
      · exact Reaches.head isPermitted shown path

end Refines

/-- Where a step leads from related states to related states by way of permitted steps of the
other system, so does an execution. -/
theorem reaches_of_related {next : Step σ α} {other : Step τ β} {permitted : β → Prop}
    {related : σ → τ → Prop}
    (simulates : ∀ ⦃state action after partner⦄, related state partner →
      next state action = some after →
      ∃ moved, Reaches other permitted partner moved ∧ related after moved)
    {state final : σ} {partner : τ} {schedule : List α} (initial : related state partner)
    (ran : run next state schedule = some final) :
    ∃ reached, Reaches other permitted partner reached ∧ related final reached := by
  induction schedule generalizing state partner with
  | nil =>
      cases ran
      exact ⟨partner, Reaches.refl _ _ _, initial⟩
  | cons action schedule ih =>
      obtain ⟨after, step, rest⟩ :=
        (run_cons_eq_some_iff next state final action schedule).mp ran
      obtain ⟨moved, first, kept⟩ := simulates initial step
      obtain ⟨reached, second, together⟩ := ih kept rest
      exact ⟨reached, first.trans second, together⟩

/-- Where a view of the states commutes with the steps that stand for those of the coarse
system, it commutes with executions. -/
theorem map_run {next : Step σ α} {coarse : Step τ β} {invariant : σ → Prop} {view : σ → τ}
    {act : β → α}
    (preserved : ∀ ⦃state action after⦄, invariant state →
      next state (act action) = some after → invariant after)
    (shows : ∀ ⦃state⦄, invariant state → ∀ action,
      (next state (act action)).map view = coarse (view state) action)
    {state : σ} (initial : invariant state) (schedule : List β) :
    (run next state (schedule.map act)).map view = run coarse (view state) schedule := by
  induction schedule generalizing state with
  | nil => rfl
  | cons action schedule ih =>
      rw [List.map_cons, run, run, ← shows initial action]
      cases taken : next state (act action) with
      | none => rfl
      | some after => exact ih (preserved initial taken)

end Tailpost.Transition
