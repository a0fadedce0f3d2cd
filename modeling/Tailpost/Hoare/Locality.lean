import Tailpost.Hoare.Triple

/-!
# Programs that keep to a region

A region of a state is given by what it means to take it over from another state.  A
function is confined to a region when it commutes with every change of the rest: it
neither reads nor writes the rest.  Functions that are confined to disjoint regions
commute.

A program respects a change of the state when it runs in the changed state as it does
in the given one.  The rules follow the program, so that a program respects every
change outside a region once its reads and writes do.
-/

namespace Tailpost.Hoare

universe u

/-! ## Regions -/

/-- A part of a state. -/
structure Region (σ : Type u) where
  /-- The part as it is in the second state, and the rest as it is in the first. -/
  graft : σ → σ → σ
  graft_self : ∀ state, graft state state = state

namespace Region

variable {σ : Type u} {region other : Region σ} {change next : σ → σ}

/-- It does not matter in which order the two parts are taken over. -/
def Disjoint (region other : Region σ) : Prop :=
  ∀ base own others,
    other.graft (region.graft base own) others = region.graft (other.graft base others) own

theorem Disjoint.symm (disjoint : Disjoint region other) : Disjoint other region :=
  fun base own others => (disjoint base others own).symm

/-- The function neither reads nor writes outside the region. -/
def Confines (region : Region σ) (change : σ → σ) : Prop :=
  ∀ base state, change (region.graft base state) = region.graft base (change state)

namespace Confines

/-- Outside the region everything stays as it is. -/
theorem graft_eq (confined : region.Confines change) (state : σ) :
    region.graft state (change state) = change state := by
  rw [← confined, region.graft_self]

/-- In particular a disjoint region does. -/
theorem graft_other (confined : region.Confines change) (disjoint : Disjoint region other)
    (state : σ) : other.graft (change state) state = change state :=
  calc
    other.graft (change state) state
        = other.graft (region.graft state (change state)) state := by rw [confined.graft_eq]
    _ = region.graft (other.graft state state) (change state) := disjoint _ _ _
    _ = change state := by rw [other.graft_self, confined.graft_eq]

/-- Functions that are confined to disjoint regions commute. -/
theorem comm (first : region.Confines change) (second : other.Confines next)
    (disjoint : Disjoint region other) (state : σ) :
    next (change state) = change (next state) :=
  calc
    next (change state) = next (other.graft (change state) state) := by
      rw [first.graft_other disjoint]
    _ = other.graft (change state) (next state) := second _ _
    _ = other.graft (region.graft state (change state)) (next state) := by rw [first.graft_eq]
    _ = region.graft (other.graft state (next state)) (change state) := disjoint _ _ _
    _ = region.graft (next state) (change state) := by rw [second.graft_eq]
    _ = change (region.graft (next state) state) := (first _ _).symm
    _ = change (next state) := by rw [second.graft_other disjoint.symm]

end Confines

end Region

/-! ## Programs -/

variable {σ ε α β γ : Type u}

/-- The program runs in a changed state as it does in the given one. -/
def Respects (shift : σ → σ) (program : Program σ ε α) : Prop :=
  ∀ state, exec program (shift state) = ((exec program state).1, shift (exec program state).2)

namespace Respects

variable {shift : σ → σ} {program : Program σ ε α}

theorem pure (value : α) : Respects shift (Pure.pure value : Program σ ε α) :=
  fun _ => rfl

theorem throw (error : ε) : Respects shift (MonadExcept.throw error : Program σ ε α) :=
  fun _ => rfl

theorem lift (result : Except ε α) : Respects shift (Hoare.lift result) :=
  fun _ => rfl

theorem modifies {change : σ → σ} (comm : ∀ state, change (shift state) = shift (change state)) :
    Respects shift (modify change : Program σ ε PUnit) :=
  fun state => congrArg (Prod.mk (Except.ok PUnit.unit)) (comm state)

theorem attempt (respects : Respects shift program) : Respects shift (Hoare.attempt program) := by
  intro state
  rw [exec_attempt, exec_attempt, respects]

/-- Only the values that the first part can return matter for the second. -/
theorem bind_of {next : α → Program σ ε β} {returns : α → Prop}
    (first : Respects shift program)
    (returned : Triple (fun _ => True) program (fun value _ => returns value) fun _ _ => True)
    (second : ∀ value, returns value → Respects shift (next value)) :
    Respects shift (program >>= next) := by
  intro state
  have possible := returned state trivial
  rw [exec_bind, exec_bind, first]
  rcases ran : exec program state with ⟨error | value, after⟩
  · rfl
  · rw [ran] at possible
    exact second value possible after

theorem bind {next : α → Program σ ε β} (first : Respects shift program)
    (second : ∀ value, Respects shift (next value)) : Respects shift (program >>= next) :=
  first.bind_of Triple.trivially fun value _ => second value

/-- What the second part takes from the state is not changed. -/
theorem reads {next : σ → Program σ ε β} (same : ∀ state, next (shift state) = next state)
    (second : ∀ state, Respects shift (next state)) : Respects shift (get >>= next) := by
  intro state
  have read : exec (next (shift state)) (shift state) =
      ((exec (next state) state).1, shift (exec (next state) state).2) := by
    rw [same]
    exact second state state
  exact read

end Respects

end Tailpost.Hoare
