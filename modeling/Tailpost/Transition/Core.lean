import Mathlib.Logic.Basic

/-!
# Schedules of partial transitions

A concurrent system is a partial transition labelled by the action that is
taken next; an action that is not enabled has no successor.  A schedule is a
finite list of actions, and an execution fails as soon as one of them is not
enabled.  The file supplies execution, composition of schedules, and the
induction rule for invariants, in the conditional form in which every step of
the schedule meets a condition on the state it is taken from.
-/

namespace Tailpost.Transition

universe u v

/-- A partial transition labelled by actions. -/
abbrev Step (σ : Type u) (α : Type v) :=
  σ → α → Option σ

variable {σ : Type u} {α : Type v}

/-- Execute a schedule from left to right. -/
def run (next : Step σ α) : σ → List α → Option σ
  | state, [] => some state
  | state, action :: schedule =>
      (next state action).bind fun after => run next after schedule

theorem run_cons_eq_some_iff (next : Step σ α) (state final : σ) (action : α)
    (schedule : List α) :
    run next state (action :: schedule) = some final ↔
      ∃ after, next state action = some after ∧
        run next after schedule = some final :=
  Option.bind_eq_some_iff

/-- Executing a concatenation executes its parts in turn. -/
theorem run_append (next : Step σ α) (state : σ) (first second : List α) :
    run next state (first ++ second) =
      (run next state first).bind fun middle => run next middle second := by
  induction first generalizing state with
  | nil => rfl
  | cons action first ih =>
      simp only [List.cons_append, run, Option.bind_assoc]
      congr 1
      funext after
      exact ih after

theorem run_append_eq_some_iff (next : Step σ α) (state final : σ)
    (first second : List α) :
    run next state (first ++ second) = some final ↔
      ∃ middle, run next state first = some middle ∧
        run next middle second = some final := by
  rw [run_append]
  exact Option.bind_eq_some_iff

/-- Two executions compose when the second starts where the first ends. -/
theorem run_trans {next : Step σ α} {start middle final : σ}
    {first second : List α} (ranFirst : run next start first = some middle)
    (ranSecond : run next middle second = some final) :
    run next start (first ++ second) = some final :=
  (run_append_eq_some_iff next start final first second).mpr
    ⟨middle, ranFirst, ranSecond⟩

/-! ## Conditions met along a schedule -/

/-- Every step of the schedule meets `condition` in the state it is taken
from. -/
def Meets (next : Step σ α) (condition : σ → α → Prop) : σ → List α → Prop
  | _, [] => True
  | state, action :: schedule =>
      condition state action ∧
        ∀ after, next state action = some after →
          Meets next condition after schedule

/-- Whether a schedule meets a decidable condition can be computed by executing
it. -/
instance Meets.decidable (next : Step σ α) (condition : σ → α → Prop)
    [∀ state action, Decidable (condition state action)] :
    ∀ state schedule, Decidable (Meets next condition state schedule)
  | _, [] => isTrue trivial
  | state, action :: schedule =>
      have := fun after => Meets.decidable next condition after schedule
      inferInstanceAs (Decidable (condition state action ∧
        ∀ after ∈ next state action, Meets next condition after schedule))

theorem Meets.and {next : Step σ α} {first second : σ → α → Prop} {state : σ}
    {schedule : List α} (meetsFirst : Meets next first state schedule)
    (meetsSecond : Meets next second state schedule) :
    Meets next (fun state action => first state action ∧ second state action)
      state schedule := by
  induction schedule generalizing state with
  | nil => trivial
  | cons action schedule ih =>
      constructor
      · exact ⟨meetsFirst.1, meetsSecond.1⟩
      · intro after step
        exact ih (meetsFirst.2 after step) (meetsSecond.2 after step)

/-- A condition on the actions alone is met along every schedule of allowed
actions. -/
theorem meets_of_forall_mem {next : Step σ α} {allowed : α → Prop}
    (state : σ) {schedule : List α} (all : ∀ action ∈ schedule, allowed action) :
    Meets next (fun _ action => allowed action) state schedule := by
  induction schedule generalizing state with
  | nil => trivial
  | cons action schedule ih =>
      refine ⟨all action List.mem_cons_self, fun after _ => ih after ?_⟩
      intro later member
      exact all later (List.mem_cons_of_mem action member)

/-- What every step meeting the condition preserves holds at the end of every
execution whose steps meet it. -/
theorem invariant_of_run {next : Step σ α} {condition : σ → α → Prop}
    {invariant : σ → Prop}
    (preserved : ∀ ⦃state action after⦄, invariant state →
      condition state action → next state action = some after → invariant after)
    {state final : σ} {schedule : List α} (initial : invariant state)
    (meets : Meets next condition state schedule)
    (ran : run next state schedule = some final) : invariant final := by
  induction schedule generalizing state with
  | nil =>
      cases ran
      exact initial
  | cons action schedule ih =>
      obtain ⟨after, step, rest⟩ :=
        (run_cons_eq_some_iff next state final action schedule).mp ran
      exact ih (preserved initial meets.1 step) (meets.2 after step) rest

/-- The unconditional induction rule for invariants. -/
theorem invariant_of_run_of_forall {next : Step σ α} {invariant : σ → Prop}
    (preserved : ∀ ⦃state action after⦄, invariant state →
      next state action = some after → invariant after)
    {state final : σ} {schedule : List α} (initial : invariant state)
    (ran : run next state schedule = some final) : invariant final := by
  have meets : Meets next (fun _ _ => True) state schedule :=
    meets_of_forall_mem state fun _ _ => trivial
  exact invariant_of_run (fun _ _ _ holds _ step => preserved holds step)
    initial meets ran

/-- An invariant that counts the steps of a kind. -/
theorem counted_of_run {next : Step σ α} {invariant : Nat → σ → Prop} {counts : α → Bool}
    (preserved : ∀ ⦃count state action after⦄, invariant count state →
      next state action = some after → invariant (count + (counts action).toNat) after)
    {count : Nat} {state final : σ} {schedule : List α} (initial : invariant count state)
    (ran : run next state schedule = some final) :
    invariant (count + schedule.countP counts) final := by
  induction schedule generalizing count state with
  | nil =>
      cases ran
      exact initial
  | cons action schedule ih =>
      obtain ⟨after, step, rest⟩ :=
        (run_cons_eq_some_iff next state final action schedule).mp ran
      have later := ih (preserved initial step) rest
      rw [List.countP_cons, Nat.add_comm (schedule.countP counts), ← Nat.add_assoc]
      cases counted : counts action <;> simpa [counted] using later

/-- A measure that every step decreases bounds the length of an execution. -/
theorem length_add_le_of_run {next : Step σ α} {measure : σ → Nat}
    (decreases : ∀ ⦃state action after⦄, next state action = some after →
      measure after < measure state)
    {state final : σ} {schedule : List α} (ran : run next state schedule = some final) :
    schedule.length + measure final ≤ measure state := by
  induction schedule generalizing state with
  | nil =>
      cases ran
      exact Nat.le_of_eq (Nat.zero_add _)
  | cons action schedule ih =>
      obtain ⟨after, step, rest⟩ :=
        (run_cons_eq_some_iff next state final action schedule).mp ran
      have later := ih rest
      have smaller := decreases step
      rw [List.length_cons]
      omega

/-- Where a property can only be lost along an execution, and is lost by every
step that misses the condition, having it at the end means that every step met
the condition. -/
theorem meets_of_run {next : Step σ α} {condition : σ → α → Prop} {alive : σ → Prop}
    (backwards : ∀ ⦃state action after⦄, next state action = some after →
      alive after → condition state action ∧ alive state)
    {state final : σ} {schedule : List α} (ran : run next state schedule = some final)
    (holds : alive final) : Meets next condition state schedule ∧ alive state := by
  induction schedule generalizing state with
  | nil =>
      cases ran
      exact ⟨trivial, holds⟩
  | cons action schedule ih =>
      rcases (run_cons_eq_some_iff next state final action schedule).mp ran with
        ⟨after, step, rest⟩
      rcases backwards step (ih rest).2 with ⟨met, before⟩
      constructor
      · constructor
        · exact met
        · intro other stepOther
          cases step.symm.trans stepOther
          exact (ih rest).1
      · exact before

/-- What every step hands on exactly if it meets the condition holds at the end exactly if it
held at the start and every step met the condition. -/
theorem holds_iff_meets_of_run {next : Step σ α} {condition : σ → α → Prop}
    {invariant holds : σ → Prop}
    (preserved : ∀ ⦃state action after⦄, invariant state →
      next state action = some after → invariant after)
    (handed : ∀ ⦃state action after⦄, invariant state → next state action = some after →
      (holds after ↔ condition state action ∧ holds state))
    {state final : σ} {schedule : List α} (initial : invariant state)
    (ran : run next state schedule = some final) :
    holds final ↔ Meets next condition state schedule ∧ holds state := by
  induction schedule generalizing state with
  | nil =>
      cases ran
      exact (and_iff_right trivial).symm
  | cons action schedule ih =>
      obtain ⟨after, step, rest⟩ :=
        (run_cons_eq_some_iff next state final action schedule).mp ran
      rw [ih (preserved initial step) rest, handed initial step]
      constructor
      · rintro ⟨later, met, before⟩
        refine ⟨⟨met, fun other stepOther => ?_⟩, before⟩
        cases step.symm.trans stepOther
        exact later
      · rintro ⟨⟨met, later⟩, before⟩
        exact ⟨later after step, met, before⟩

/-! ## Reachability by allowed actions -/

/-- Some schedule of allowed actions leads from one state to the other. -/
def Reaches (next : Step σ α) (allowed : α → Prop) (source target : σ) : Prop :=
  ∃ schedule, (∀ action ∈ schedule, allowed action) ∧
    run next source schedule = some target

namespace Reaches

variable {next : Step σ α} {allowed : α → Prop} {source middle target : σ}

theorem refl (next : Step σ α) (allowed : α → Prop) (state : σ) :
    Reaches next allowed state state :=
  ⟨[], by simp, rfl⟩

theorem trans (first : Reaches next allowed source middle)
    (second : Reaches next allowed middle target) :
    Reaches next allowed source target := by
  rcases first with ⟨front, frontAllowed, ranFront⟩
  rcases second with ⟨back, backAllowed, ranBack⟩
  exact ⟨front ++ back, List.forall_mem_append.mpr ⟨frontAllowed, backAllowed⟩,
    run_trans ranFront ranBack⟩

theorem mono {wider : α → Prop} (reaches : Reaches next allowed source target)
    (weaken : ∀ action, allowed action → wider action) : Reaches next wider source target := by
  rcases reaches with ⟨schedule, all, ran⟩
  exact ⟨schedule, fun action member => weaken action (all action member), ran⟩

/-- One allowed step. -/
theorem single {action : α} (isAllowed : allowed action)
    (step : next source action = some target) : Reaches next allowed source target :=
  ⟨[action], by simpa using isAllowed, by simp [run, step]⟩

/-- An allowed step followed by an allowed path. -/
theorem head {action : α} (isAllowed : allowed action)
    (step : next source action = some middle) (rest : Reaches next allowed middle target) :
    Reaches next allowed source target :=
  (single isAllowed step).trans rest

/-- A path lifts to a system that can imitate each of its steps. -/
theorem lift {τ : Type u} {β : Type v} {imitate : Step τ β} {imitated : β → Prop}
    (embed : σ → τ) (reaches : Reaches next allowed source target)
    (simulates : ∀ ⦃state action after⦄, allowed action →
      next state action = some after →
      ∃ reaction, imitated reaction ∧ imitate (embed state) reaction = some (embed after)) :
    Reaches imitate imitated (embed source) (embed target) := by
  rcases reaches with ⟨schedule, all, ran⟩
  induction schedule generalizing source with
  | nil =>
      cases ran
      exact refl _ _ _
  | cons action schedule ih =>
      rcases (run_cons_eq_some_iff next source target action schedule).mp ran with
        ⟨after, step, rest⟩
      rcases simulates (all action List.mem_cons_self) step with ⟨reaction, allowed, taken⟩
      exact head allowed taken
        (ih (fun later member => all later (List.mem_cons_of_mem action member)) rest)

/-- What allowed steps preserve holds of everything they reach. -/
theorem invariant {invariant : σ → Prop} (reaches : Reaches next allowed source target)
    (preserved : ∀ ⦃state action after⦄, invariant state → allowed action →
      next state action = some after → invariant after)
    (initial : invariant source) : invariant target := by
  rcases reaches with ⟨schedule, all, ran⟩
  exact invariant_of_run preserved initial (meets_of_forall_mem source all) ran

/-- Where each state that is not done has an allowed step that keeps the invariant and
decreases a measure, a state that is done can be reached. -/
theorem of_decreasing {invariant done : σ → Prop} {measure : σ → Nat}
    (progress : ∀ ⦃state⦄, invariant state → ¬ done state →
      ∃ action after, allowed action ∧ next state action = some after ∧ invariant after ∧
        measure after < measure state)
    (initial : invariant source) : ∃ final, Reaches next allowed source final ∧ done final := by
  generalize bound : measure source = count
  induction count using Nat.strongRecOn generalizing source with
  | ind count ih =>
      by_cases finished : done source
      · exact ⟨source, refl _ _ _, finished⟩
      · rcases progress initial finished with ⟨action, after, isAllowed, step, kept, smaller⟩
        rcases ih _ (bound ▸ smaller) kept rfl with ⟨final, rest, isDone⟩
        exact ⟨final, head isAllowed step rest, isDone⟩

end Reaches

/-! ## Deadlock -/

/-- The system is done, or some action is enabled. -/
def Live (next : Step σ α) (done : σ → Prop) (state : σ) : Prop :=
  done state ∨ ∃ action after, next state action = some after

/-- Wherever the system goes, it is done or can move on. -/
def NeverStuck (next : Step σ α) (done : σ → Prop) (state : σ) : Prop :=
  ∀ schedule final, run next state schedule = some final → Live next done final

namespace NeverStuck

variable {next : Step σ α} {done : σ → Prop} {state after : σ}

theorem live (never : NeverStuck next done state) : Live next done state :=
  never [] state rfl

theorem step {action : α} (never : NeverStuck next done state)
    (step : next state action = some after) : NeverStuck next done after := by
  intro schedule final ran
  apply never (action :: schedule) final
  exact (run_cons_eq_some_iff next state final action schedule).mpr ⟨after, step, ran⟩

/-- An invariant under which the system is done or can move on. -/
theorem of_invariant {invariant : σ → Prop}
    (preserved : ∀ ⦃state action after⦄, invariant state →
      next state action = some after → invariant after)
    (moves : ∀ state, invariant state → Live next done state)
    (initial : invariant state) : NeverStuck next done state :=
  fun _ final ran => moves final (invariant_of_run_of_forall preserved initial ran)

end NeverStuck

end Tailpost.Transition
