import Tailpost.Transition.Core

/-!
# Stopping a worker and waiting for it

A worker runs a loop.  Whoever stops it closes a channel that the worker may look at, and
waits until the worker has left its loop and closed another channel in return.  Where the
worker looks at the first channel is up to its loop; the file shows that this is all that
decides whether the wait can end without help from outside.
-/

namespace Tailpost.Transition

universe u v

/-- A loop.  The first argument of `work` and of `leaves` says whether the worker was told to
stop. -/
structure Worker (σ : Type u) (α ε : Type v) where
  work : Bool → σ → α → Option σ
  /-- The loop can be left. -/
  leaves : Bool → σ → Bool
  /-- What is done on the way out. -/
  cleanUp : σ → σ
  /-- What others do. -/
  environment : σ → ε → Option σ

/-- Where the worker is. -/
inductive WorkerPc
  | looping
  /-- Before it cleans up. -/
  | leaving
  /-- Before it closes `stoppedCh`. -/
  | closing
  | ended
  deriving DecidableEq

/-- Where the caller is that stops the worker. -/
inductive StopperPc
  | idle
  /-- Before it closes `stopCh`. -/
  | closing
  /-- Waiting for `stoppedCh`. -/
  | waiting
  /-- Behind it. -/
  | finishing
  | returned
  deriving DecidableEq

/-- A worker and one caller that stops it. -/
structure Stopping (σ : Type u) where
  state : σ
  worker : WorkerPc
  running : Bool
  stopCh : Bool
  stoppedCh : Bool
  /-- The channel that the worker sends on is closed. -/
  closed : Bool
  stopper : StopperPc

/-- The steps of a worker, of the one that stops it and of the environment. -/
inductive StoppingAction (α ε : Type v)
  | work (action : α)
  | leave
  /-- The worker takes its next step behind the loop. -/
  | exit
  | stop
  | environment (event : ε)

namespace Stopping

variable {σ : Type u} {α ε : Type v}

/-- A worker that was just started. -/
def start (state : σ) : Stopping σ where
  state := state
  worker := .looping
  running := true
  stopCh := false
  stoppedCh := false
  closed := false
  stopper := .idle

/-- One step. The worker works only inside its loop. -/
def step (worker : Worker σ α ε) : Step (Stopping σ) (StoppingAction α ε)
  | system, .work action =>
      if system.worker = .looping then
        (worker.work system.stopCh system.state action).map fun state => { system with state }
      else
        none
  | system, .leave =>
      if system.worker = .looping ∧ worker.leaves system.stopCh system.state = true then
        some { system with worker := .leaving }
      else
        none
  | system, .exit =>
      match system.worker with
      | .leaving => some { system with
          state := worker.cleanUp system.state
          running := false
          worker := .closing }
      | .closing => some { system with stoppedCh := true, worker := .ended }
      | _ => none
  | system, .stop =>
      match system.stopper with
      | .idle => some { system with stopper := if system.running then .closing else .returned }
      | .closing => some { system with stopCh := true, stopper := .waiting }
      | .waiting => if system.stoppedCh then some { system with stopper := .finishing } else none
      | .finishing => some { system with closed := true, stopper := .returned }
      | .returned => none
  | system, .environment event =>
      (worker.environment system.state event).map fun state => { system with state }

/-- A step of the worker or of the caller. -/
def IsOwn : StoppingAction α ε → Prop
  | .environment _ => False
  | _ => True

theorem isOwn_stop : IsOwn (.stop : StoppingAction α ε) :=
  trivial

theorem isOwn_exit : IsOwn (.exit : StoppingAction α ε) :=
  trivial

theorem isOwn_leave : IsOwn (.leave : StoppingAction α ε) :=
  trivial

/-- Nothing from outside is needed for the caller to return. -/
def CanReturn (worker : Worker σ α ε) (system : Stopping σ) : Prop :=
  ∃ final, Reaches (step worker) IsOwn system final ∧ final.stopper = .returned

end Stopping

namespace Worker

variable {σ : Type u} {α ε : Type v}

/-- A worker that was told to stop can come to a point where it leaves its loop. -/
def CanLeave (worker : Worker σ α ε) (state : σ) : Prop :=
  ∃ later, Reaches (worker.work true) (fun _ => True) state later ∧
    worker.leaves true later = true

theorem canLeave_of_leaves {worker : Worker σ α ε} {state : σ}
    (leaves : worker.leaves true state = true) : worker.CanLeave state :=
  ⟨state, Reaches.refl _ _ _, leaves⟩

theorem CanLeave.head {worker : Worker σ α ε} {state next : σ} {action : α}
    (worked : worker.work true state action = some next) (rest : worker.CanLeave next) :
    worker.CanLeave state := by
  obtain ⟨later, reaches, leaves⟩ := rest
  exact ⟨later, Reaches.head trivial worked reaches, leaves⟩

/-- A worker that cannot leave here either can after one more step or not at all. -/
theorem canLeave_iff {worker : Worker σ α ε} {state : σ}
    (stays : worker.leaves true state = false) :
    worker.CanLeave state ↔
      ∃ action next, worker.work true state action = some next ∧ worker.CanLeave next := by
  constructor
  · rintro ⟨later, ⟨schedule, all, ran⟩, leaves⟩
    cases schedule with
    | nil =>
        cases ran
        rw [stays] at leaves
        contradiction
    | cons action schedule =>
        obtain ⟨next, worked, rest⟩ := (run_cons_eq_some_iff ..).mp ran
        exact ⟨action, next, worked, later, ⟨schedule, fun _ _ => trivial, rest⟩, leaves⟩
  · rintro ⟨action, next, worked, rest⟩
    exact rest.head worked

end Worker

namespace Stopping

variable {σ : Type u} {α ε : Type v} {worker : Worker σ α ε} {system after : Stopping σ}

/-! ## Steps -/

/-- What a step does. -/
inductive Moves (worker : Worker σ α ε) (system : Stopping σ) :
    StoppingAction α ε → Stopping σ → Prop
  | work {action : α} {state : σ} : system.worker = .looping →
      worker.work system.stopCh system.state action = some state →
      Moves worker system (.work action) { system with state }
  | leave : system.worker = .looping → worker.leaves system.stopCh system.state = true →
      Moves worker system .leave { system with worker := .leaving }
  | cleanUp : system.worker = .leaving → Moves worker system .exit { system with
      state := worker.cleanUp system.state
      running := false
      worker := .closing }
  | close : system.worker = .closing →
      Moves worker system .exit { system with stoppedCh := true, worker := .ended }
  | check : system.stopper = .idle → Moves worker system .stop
      { system with stopper := if system.running then .closing else .returned }
  | tell : system.stopper = .closing →
      Moves worker system .stop { system with stopCh := true, stopper := .waiting }
  | join : system.stopper = .waiting → system.stoppedCh = true →
      Moves worker system .stop { system with stopper := .finishing }
  | finish : system.stopper = .finishing →
      Moves worker system .stop { system with closed := true, stopper := .returned }
  | environment {event : ε} {state : σ} : worker.environment system.state event = some state →
      Moves worker system (.environment event) { system with state }

theorem moves_of_step {action : StoppingAction α ε}
    (taken : step worker system action = some after) : Moves worker system action after := by
  cases action with
  | work action =>
      simp only [step] at taken
      split at taken
      next position =>
        obtain ⟨state, worked, rfl⟩ := Option.map_eq_some_iff.mp taken
        exact .work position worked
      next => contradiction
  | leave =>
      simp only [step] at taken
      split at taken
      next both =>
        cases taken
        exact .leave both.1 both.2
      next => contradiction
  | exit =>
      simp only [step] at taken
      split at taken
      next position =>
        cases taken
        exact .cleanUp position
      next position =>
        cases taken
        exact .close position
      next => contradiction
  | stop =>
      simp only [step] at taken
      split at taken
      next position =>
        cases taken
        exact .check position
      next position =>
        cases taken
        exact .tell position
      next position =>
        split at taken
        next stopped =>
          cases taken
          exact .join position stopped
        next => contradiction
      next position =>
        cases taken
        exact .finish position
      next => contradiction
  | environment event =>
      obtain ⟨state, moved, rfl⟩ := Option.map_eq_some_iff.mp taken
      exact .environment moved

/-! ## The order of things -/

/-- The flags say where the worker and the caller are. -/
structure Ordered (system : Stopping σ) : Prop where
  stopped : system.stoppedCh = true ↔ system.worker = .ended
  running : system.running = true ↔ system.worker = .looping ∨ system.worker = .leaving
  told : system.stopper = .waiting ∨ system.stopper = .finishing → system.stopCh = true
  joined : system.stopper = .finishing ∨ system.closed = true → system.worker = .ended

theorem ordered_start (state : σ) : Ordered (start state) where
  stopped := by simp [start]
  running := by simp [start]
  told := by simp [start]
  joined := by simp [start]

theorem Ordered.moves {action : StoppingAction α ε} (ordered : Ordered system)
    (moves : Moves worker system action after) : Ordered after := by
  obtain ⟨stopped, running, told, joined⟩ := ordered
  cases moves with
  | work | environment => exact ⟨stopped, running, told, joined⟩
  | leave position =>
      rw [position] at stopped running joined
      exact ⟨by simpa using stopped, by simpa using running, told,
        fun late => by simpa using joined late⟩
  | cleanUp position =>
      rw [position] at stopped running joined
      exact ⟨by simpa using stopped, by simp, told, fun late => by simpa using joined late⟩
  | close position =>
      rw [position] at running
      exact ⟨by simp, by simpa using running, told, fun _ => rfl⟩
  | check position =>
      rw [position] at joined
      refine ⟨stopped, running, ?_, ?_⟩
      · dsimp only
        split <;> simp
      · dsimp only
        split <;> simpa using joined
  | tell position =>
      rw [position] at joined
      exact ⟨stopped, running, fun _ => rfl, by simpa using joined⟩
  | join position late =>
      exact ⟨stopped, running, fun _ => told (.inl position), fun _ => stopped.mp late⟩
  | finish position =>
      exact ⟨stopped, running, by simp, fun _ => joined (.inl position)⟩

theorem ordered_of_run {state : σ} {schedule : List (StoppingAction α ε)}
    (ran : run (step worker) (start state) schedule = some system) : Ordered system :=
  invariant_of_run_of_forall (fun _ _ _ ordered taken => ordered.moves (moves_of_step taken))
    (ordered_start state) ran

/-- What the loop, the way out and the others preserve. -/
theorem invariant_of_worker {invariant : σ → Prop}
    (work : ∀ ⦃told state action next⦄, invariant state →
      worker.work told state action = some next → invariant next)
    (cleanUp : ∀ ⦃state⦄, invariant state → invariant (worker.cleanUp state))
    (environment : ∀ ⦃state event next⦄, invariant state →
      worker.environment state event = some next → invariant next)
    {state : σ} {schedule : List (StoppingAction α ε)} (initial : invariant state)
    (ran : run (step worker) (start state) schedule = some system) : invariant system.state := by
  have preserved : ∀ ⦃before action next⦄, invariant before.state →
      step worker before action = some next → invariant next.state := by
    intro before action next holds taken
    cases moves_of_step taken with
    | work _ worked => exact work holds worked
    | cleanUp => exact cleanUp holds
    | environment moved => exact environment holds moved
    | leave | close | check | tell | join | finish => exact holds
  have initially : invariant (start state).state := initial
  exact invariant_of_run_of_forall preserved initially ran

/-! ## Returning -/

/-- A worker that has ended lets the caller return. -/
theorem canReturn_of_ended (ordered : Ordered system) (position : system.stopper = .waiting)
    (ended : system.worker = .ended) : CanReturn worker system := by
  have stopped : system.stoppedCh = true := ordered.stopped.mpr ended
  have joins : step worker system .stop = some { system with stopper := .finishing } := by
    simp [step, position, stopped]
  exact ⟨_, Reaches.head isOwn_stop joins (Reaches.single isOwn_stop rfl), rfl⟩

theorem CanReturn.head {action : StoppingAction α ε} (own : IsOwn action)
    (taken : step worker system action = some after) (rest : CanReturn worker after) :
    CanReturn worker system := by
  obtain ⟨final, reaches, returned⟩ := rest
  exact ⟨final, Reaches.head own taken reaches, returned⟩

/-- So does one that has left its loop. -/
theorem canReturn_of_left (ordered : Ordered system) (position : system.stopper = .waiting)
    (left : system.worker ≠ .looping) : CanReturn worker system := by
  have closes {system : Stopping σ} (ordered : Ordered system)
      (position : system.stopper = .waiting) (closing : system.worker = .closing) :
      CanReturn worker system := by
    have taken : step worker system .exit =
        some { system with stoppedCh := true, worker := .ended } := by
      simp [step, closing]
    exact (canReturn_of_ended (ordered.moves (.close closing : Moves worker _ _ _))
      position rfl).head isOwn_exit taken
  cases place : system.worker with
  | looping => contradiction
  | leaving =>
      have taken : step worker system .exit = some { system with
          state := worker.cleanUp system.state
          running := false
          worker := .closing } := by
        simp [step, place]
      exact (closes (ordered.moves (.cleanUp place : Moves worker _ _ _))
        position rfl).head isOwn_exit taken
  | closing => exact closes ordered position place
  | ended => exact canReturn_of_ended ordered position place

/-- The work of the loop as a part of the system. -/
theorem reaches_of_work {later : σ} (told : system.stopCh = true)
    (looping : system.worker = .looping)
    (reaches : Reaches (worker.work true) (fun _ => True) system.state later) :
    Reaches (step worker) IsOwn system { system with state := later } := by
  have imitates : ∀ ⦃state action next⦄, True → worker.work true state action = some next →
      ∃ reaction, IsOwn reaction ∧
        step worker { system with state } reaction = some { system with state := next } := by
    intro state action next _ worked
    refine ⟨.work action, trivial, ?_⟩
    simp [step, looping, told, worked]
  exact reaches.lift (fun state => { system with state }) imitates

/-- The worker has not left its loop since, and the caller goes on waiting. -/
structure Waits (worker : Worker σ α ε) (system later : Stopping σ) : Prop where
  told : later.stopCh = true
  pending : later.stoppedCh = false
  looping : later.worker = .looping
  waiting : later.stopper = .waiting
  worked : Reaches (worker.work true) (fun _ => True) system.state later.state

theorem Waits.moves {later : Stopping σ} {action : StoppingAction α ε}
    (stuck : ¬ worker.CanLeave system.state) (waits : Waits worker system later)
    (own : IsOwn action) (moves : Moves worker later action after) :
    Waits worker system after := by
  obtain ⟨told, pending, looping, waiting, worked⟩ := waits
  cases moves with
  | work _ moved =>
      rw [told] at moved
      exact ⟨told, pending, looping, waiting, worked.trans (Reaches.single trivial moved)⟩
  | leave _ leaves =>
      rw [told] at leaves
      exact absurd ⟨_, worked, leaves⟩ stuck
  | cleanUp other | close other =>
      rw [looping] at other
      contradiction
  | check other | tell other | finish other =>
      rw [waiting] at other
      contradiction
  | join _ ended =>
      rw [pending] at ended
      contradiction
  | environment => exact own.elim

/-- A worker that cannot leave its loop keeps the caller waiting. -/
theorem not_canReturn (ordered : Ordered system) (position : system.stopper = .waiting)
    (looping : system.worker = .looping) (stuck : ¬ worker.CanLeave system.state) :
    ¬ CanReturn worker system := by
  rintro ⟨final, reaches, returned⟩
  have pending : system.stoppedCh = false := by
    rw [Bool.eq_false_iff, Ne, ordered.stopped, looping]
    exact nofun
  have waits : Waits worker system final :=
    reaches.invariant (fun _ _ _ waits own taken => waits.moves stuck own (moves_of_step taken))
      ⟨ordered.told (.inl position), pending, looping, position, Reaches.refl _ _ _⟩
  rw [waits.waiting] at returned
  contradiction

/-- One that can leave it lets the caller return. -/
theorem canReturn_of_canLeave (ordered : Ordered system) (position : system.stopper = .waiting)
    (looping : system.worker = .looping) (can : worker.CanLeave system.state) :
    CanReturn worker system := by
  have told : system.stopCh = true := ordered.told (.inl position)
  obtain ⟨later, reaches, leaves⟩ := can
  have ordered : Ordered { system with state := later } :=
    ⟨ordered.stopped, ordered.running, ordered.told, ordered.joined⟩
  have left : step worker { system with state := later } .leave =
      some { system with state := later, worker := .leaving } := by
    simp [step, looping, told, leaves]
  obtain ⟨final, rest, returned⟩ : CanReturn worker
      { system with state := later, worker := .leaving } :=
    canReturn_of_left (ordered.moves (moves_of_step left)) position nofun
  exact ⟨final, (reaches_of_work told looping reaches).trans (Reaches.head isOwn_leave left rest),
    returned⟩

/-- The caller can return exactly if the worker has left its loop, or can leave it. -/
theorem canReturn_iff (ordered : Ordered system) (position : system.stopper = .waiting) :
    CanReturn worker system ↔ (system.worker = .looping → worker.CanLeave system.state) := by
  by_cases looping : system.worker = .looping
  · constructor
    · intro returns _
      exact Classical.byContradiction fun stuck =>
        not_canReturn ordered position looping stuck returns
    · intro can
      exact canReturn_of_canLeave ordered position looping (can looping)
  · constructor
    · intro _ inside
      contradiction
    · intro _
      exact canReturn_of_left ordered position looping

end Stopping

end Tailpost.Transition
