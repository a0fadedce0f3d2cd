import Mathlib.Logic.Basic

/-!
# Pre- and postconditions of failing programs

A program reads and writes a state and may stop with an error; what it wrote
before it stopped stays written.  A triple states what holds of the state after
a program that started where its precondition holds, both for a program that
returns a value and for one that stops with an error.
-/

namespace Tailpost.Hoare

universe u

/-- Why a function does not return normally. -/
inductive Failure
  /-- It returns an error with this text. -/
  | error (message : String)
  /-- It panics. -/
  | panic
  deriving DecidableEq

/-- A program over a state that may stop with an error. -/
abbrev Program (σ ε : Type u) :=
  ExceptT ε (StateM σ)

variable {σ ε α β : Type u}

/-- Run a program. -/
def exec (program : Program σ ε α) (state : σ) : Except ε α × σ :=
  program.run.run state

/-- The program that has a given result. -/
def lift (result : Except ε α) : Program σ ε α :=
  ExceptT.mk (pure result)

/-- Go on with the outcome of a program whatever it is. -/
def attempt (program : Program σ ε α) : Program σ ε (Except ε α) :=
  ExceptT.mk (Except.ok <$> program.run)

theorem map_eq_ok_iff {change : α → β} {result : Except ε α} {value : β} :
    result.map change = .ok value ↔ ∃ source, result = .ok source ∧ change source = value := by
  cases result <;> simp [Except.map]

theorem map_eq_error_iff {change : α → β} {result : Except ε α} {error : ε} :
    result.map change = .error error ↔ result = .error error := by
  cases result <;> simp [Except.map]

/-- A sequence of steps succeeds when each of them does. -/
theorem bind_eq_ok_iff {first : Except ε α} {next : α → Except ε β} {result : β} :
    (first >>= next) = .ok result ↔ ∃ value, first = .ok value ∧ next value = .ok result := by
  cases first with
  | error error => simp [bind, Except.bind]
  | ok value => simp [bind, Except.bind]

theorem exec_bind (program : Program σ ε α) (next : α → Program σ ε β) (state : σ) :
    exec (program >>= next) state =
      match exec program state with
      | (.ok value, after) => exec (next value) after
      | (.error error, after) => (.error error, after) := by
  simp only [exec, ExceptT.run_bind, StateT.run_bind]
  rcases program.run.run state with ⟨error | value, after⟩ <;> rfl

theorem exec_attempt (program : Program σ ε α) (state : σ) :
    exec (attempt program) state = (.ok (exec program state).1, (exec program state).2) :=
  rfl

/-! ## Triples -/

/-- Started where `pre` holds, the program returns a value with `post` or stops
with an error with `failed`. -/
def Triple (pre : σ → Prop) (program : Program σ ε α) (post : α → σ → Prop)
    (failed : ε → σ → Prop) : Prop :=
  ∀ state, pre state →
    match exec program state with
    | (.ok value, after) => post value after
    | (.error error, after) => failed error after

namespace Triple

variable {pre : σ → Prop} {program : Program σ ε α} {post : α → σ → Prop}
  {failed : ε → σ → Prop}

/-- What a program that returned has established. -/
theorem returned (triple : Triple pre program post failed) {state after : σ} {value : α}
    (initial : pre state) (ran : exec program state = (.ok value, after)) :
    post value after := by
  have holds := triple state initial
  rw [ran] at holds
  exact holds

/-- What holds of the state behind a program, however it ended. -/
theorem ended {invariant : σ → Prop}
    (triple : Triple pre program (fun _ => invariant) (fun _ => invariant)) (state : σ)
    (initial : pre state) : invariant (exec program state).2 := by
  have holds := triple state initial
  rcases ran : exec program state with ⟨error | value, after⟩
  · rw [ran] at holds
    exact holds
  · rw [ran] at holds
    exact holds

theorem trivially : Triple pre program (fun _ _ => True) fun _ _ => True := by
  intro state _
  split <;> trivial

theorem pure {value : α} (holds : ∀ state, pre state → post value state) :
    Triple pre (Pure.pure value) post failed :=
  holds

theorem throw {error : ε} (holds : ∀ state, pre state → failed error state) :
    Triple pre (MonadExcept.throw error) post failed :=
  holds

theorem modifies {change : σ → σ} {post : PUnit → σ → Prop}
    (holds : ∀ state, pre state → post ⟨⟩ (change state)) :
    Triple pre (modify change) post failed :=
  holds

theorem reads : Triple pre get (fun value state => value = state ∧ pre state) failed :=
  fun _ initial => ⟨rfl, initial⟩

theorem lifts {result : Except ε α} (holds : ∀ value, result = .ok value → ∀ state, pre state →
      post value state)
    (fails : ∀ error, result = .error error → ∀ state, pre state → failed error state) :
    Triple pre (lift result) post failed := by
  cases result with
  | ok value => exact holds value rfl
  | error error => exact fails error rfl

/-- What the precondition says apart from the state may be assumed. -/
theorem suppose (fact : Prop) (known : ∀ state, pre state → fact)
    (triple : fact → Triple pre program post failed) : Triple pre program post failed :=
  fun state initial => triple (known state initial) state initial

theorem bind {next : α → Program σ ε β} {middle : α → σ → Prop} {post : β → σ → Prop}
    (first : Triple pre program middle failed)
    (second : ∀ value, Triple (middle value) (next value) post failed) :
    Triple pre (program >>= next) post failed := by
  intro state initial
  have holds := first state initial
  rw [exec_bind]
  rcases ran : exec program state with ⟨error | value, after⟩
  · rw [ran] at holds
    exact holds
  · rw [ran] at holds
    exact second value after holds

/-- A first step that keeps the precondition. -/
theorem andThen {next : α → Program σ ε β} {post : β → σ → Prop}
    (first : Triple pre program (fun _ => pre) failed)
    (second : ∀ value, Triple pre (next value) post failed) :
    Triple pre (program >>= next) post failed :=
  first.bind second

theorem attempt (triple : Triple pre program post failed) :
    Triple pre (Hoare.attempt program)
      (fun outcome state => match outcome with
        | .ok value => post value state
        | .error error => failed error state)
      (fun _ _ => False) := by
  intro state initial
  have holds := triple state initial
  rw [exec_attempt]
  rcases ran : exec program state with ⟨error | value, after⟩
  · rw [ran] at holds
    exact holds
  · rw [ran] at holds
    exact holds

/-- Two triples about the same start say both. -/
theorem and {alsoPost : α → σ → Prop} {alsoFailed : ε → σ → Prop}
    (triple : Triple pre program post failed)
    (also : Triple pre program alsoPost alsoFailed) :
    Triple pre program (fun value state => post value state ∧ alsoPost value state)
      (fun error state => failed error state ∧ alsoFailed error state) := by
  intro state initial
  have holds := triple state initial
  have alsoHolds := also state initial
  rcases ran : exec program state with ⟨error | value, after⟩
  · rw [ran] at holds alsoHolds
    exact ⟨holds, alsoHolds⟩
  · rw [ran] at holds alsoHolds
    exact ⟨holds, alsoHolds⟩

theorem weaken {stronger : σ → Prop} {weaker : α → σ → Prop} {worse : ε → σ → Prop}
    (triple : Triple pre program post failed) (before : ∀ state, stronger state → pre state)
    (after : ∀ value state, post value state → weaker value state)
    (stopped : ∀ error state, failed error state → worse error state) :
    Triple stronger program weaker worse := by
  intro state initial
  have holds := triple state (before state initial)
  rcases ran : exec program state with ⟨error | value, final⟩
  · rw [ran] at holds
    exact stopped error final holds
  · rw [ran] at holds
    exact after value final holds

/-- More may be assumed. -/
theorem strengthen {stronger : σ → Prop} (triple : Triple pre program post failed)
    (before : ∀ state, stronger state → pre state) : Triple stronger program post failed :=
  triple.weaken before (fun _ _ => id) (fun _ _ => id)

end Triple

end Tailpost.Hoare
