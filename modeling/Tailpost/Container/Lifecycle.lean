import Tailpost.Container.ContainerReader
import Tailpost.Reader.Lifecycle

/-!
# The lifecycle of the container reader

A container reader that is started once and stopped once shows its channel operations to
the lifecycle of the readers: each step of it is matched there by the steps of one `Start`,
its goroutine and one `Stop`.  A `Read`, a lookup or a connection is not seen there, a send
is one step, and a `return` is two, since `stoppedCh` is closed in a deferred call.
-/

namespace Tailpost.Container

open Tailpost.Transition
open Tailpost.Reader

/-- The state of the lifecycle is that of the reader, with one goroutine. -/
structure ContainerReader.Shows (reader : ContainerReader) (state : Lifecycle.State) : Prop where
  running : state.running = true ∧ reader.isRunning = true
  orderly : state.Orderly
  stopCh : state.Closed .stopCh ↔ reader.stopCh = true
  stoppedCh : state.Closed .stoppedCh ↔ reader.pc = .returned
  lines : ¬ state.Closed .lines
  tail : state.tails 0 = if reader.pc = .returned then .ended else .reading
  stops : reader.stopCh = false → state.stops 0 = .idle

/-- Some steps of the lifecycle lead to a state that the reader shows. -/
def ContainerReader.Matched (reader : ContainerReader) (state : Lifecycle.State) : Prop :=
  ∃ later, Reaches (Lifecycle.step .container) (fun _ => True) state later ∧ reader.Shows later

section Steps

variable {reader after : ContainerReader} {state : Lifecycle.State}

/-- A step that leaves the channels alone is not seen. -/
theorem ContainerReader.Shows.silent (shows : reader.Shows state)
    (running : after.isRunning = reader.isRunning) (stopCh : after.stopCh = reader.stopCh)
    (position : after.pc = .returned ↔ reader.pc = .returned) : after.Shows state := by
  constructor
  · rw [running]
    exact shows.running
  · exact shows.orderly
  · rw [shows.stopCh, stopCh]
  · rw [shows.stoppedCh, position]
  · exact shows.lines
  · rw [shows.tail]
    simp only [position]
  · rw [stopCh]
    exact shows.stops

/-- The `return` of the goroutine. -/
theorem ContainerReader.Shows.returns (shows : reader.Shows state)
    (position : reader.pc ≠ .returned) : { reader with pc := .returned }.Matched state := by
  have reading : state.tails 0 = .reading := by rw [shows.tail, if_neg position]
  have leave : Lifecycle.step .container state (.tail 0) = some (state.tailAt 0 .closing) := by
    simp [Lifecycle.step, shows.orderly, Lifecycle.Kind.tail,
      Lifecycle.ContainerReader.tailContainer, Lifecycle.State.tail, reading]
  have close : Lifecycle.step .container (state.tailAt 0 .closing) (.tail 0) = some _ :=
    Lifecycle.step_tail_closing shows.orderly (Lifecycle.State.tails_tailAt ..)
  have opened : ¬ state.Closed .stoppedCh := by rwa [shows.stoppedCh]
  refine ⟨_, (Reaches.single trivial leave).trans (.single trivial close), ?_⟩
  constructor
  · exact shows.running
  · exact ⟨List.nodup_cons.mpr ⟨opened, shows.orderly.1⟩, shows.orderly.2⟩
  · exact (Lifecycle.State.closed_close_of_ne Lifecycle.Channel.noConfusion).trans shows.stopCh
  · exact iff_of_true List.mem_cons_self rfl
  · intro closed
    exact shows.lines
      ((Lifecycle.State.closed_close_of_ne Lifecycle.Channel.noConfusion).mp closed)
  · exact Lifecycle.State.tails_tailAt ..
  · exact shows.stops

/-- The send of a line. -/
theorem ContainerReader.Shows.sends (shows : reader.Shows state)
    (position : reader.pc ≠ .returned) (running : after.isRunning = reader.isRunning)
    (stopCh : after.stopCh = reader.stopCh) (stays : after.pc ≠ .returned) :
    after.Matched state := by
  have reading : state.tails 0 = .reading := by rw [shows.tail, if_neg position]
  have taken : Lifecycle.step .container state (.send 0) = some state := by
    simp [Lifecycle.step, shows.orderly, Lifecycle.State.send, reading, shows.lines,
      ← shows.orderly.2]
  refine ⟨state, .single trivial taken, ?_⟩
  exact shows.silent running stopCh (iff_of_false stays position)

/-- The part of `Stop` before it waits, where `stopCh` is still open. -/
theorem ContainerReader.Shows.stop (shows : reader.Shows state)
    (opened : reader.stopCh = false) : reader.stop.Matched state := by
  have check : Lifecycle.step .container state (.check 0) = some (state.stopAt 0 .closing) := by
    simp [Lifecycle.step, shows.orderly, Lifecycle.State.check, shows.running.1,
      shows.stops opened]
  have close : Lifecycle.step .container (state.stopAt 0 .closing) (.stop 0) = some _ :=
    Lifecycle.step_stop_closing shows.orderly (Lifecycle.State.stops_stopAt ..)
  have first : ¬ state.Closed .stopCh := by simp [shows.stopCh, opened]
  rw [ContainerReader.stop, if_pos shows.running.2]
  refine ⟨_, (Reaches.single trivial check).trans (.single trivial close), ?_⟩
  constructor
  · exact shows.running
  · exact ⟨List.nodup_cons.mpr ⟨first, shows.orderly.1⟩, shows.orderly.2⟩
  · exact iff_of_true List.mem_cons_self rfl
  · exact (Lifecycle.State.closed_close_of_ne Lifecycle.Channel.noConfusion).trans shows.stoppedCh
  · intro closed
    exact shows.lines
      ((Lifecycle.State.closed_close_of_ne Lifecycle.Channel.noConfusion).mp closed)
  · exact shows.tail
  · exact Bool.noConfusion

theorem ContainerReader.Shows.tailContainer {log : Log} {podExists : Bool} {action : TailStep}
    (shows : reader.Shows state) (moves : Moves log podExists reader action after) :
    after.Matched state := by
  have unseen (running : after.isRunning = reader.isRunning)
      (stopCh : after.stopCh = reader.stopCh) (stays : after.pc ≠ .returned)
      (position : reader.pc ≠ .returned) : after.Matched state :=
    ⟨state, .refl _ _ _, shows.silent running stopCh (iff_of_false stays position)⟩
  have elsewhere {pc : Pc} (position : reader.pc = pc) (different : pc ≠ .returned) :
      reader.pc ≠ .returned := position ▸ different
  cases moves with
  | exit position | gone position => exact shows.returns (elsewhere position Pc.noConfusion)
  | abort position => exact shows.returns (elsewhere position Pc.noConfusion)
  | put position =>
      exact shows.sends (elsewhere position Pc.noConfusion) rfl rfl Pc.noConfusion
  | round position | streamFail position | streamOk position | line position | more position
  | fragment position | failed position | found position =>
      exact unseen rfl rfl Pc.noConfusion (elsewhere position Pc.noConfusion)

end Steps

/-- `Stop` is called at most once. -/
def StopsOnce (system : System) (action : Action) : Prop :=
  action = .stop → system.reader.stopCh = false

theorem matched_of_step {system after : System} {action : Action} {state : Lifecycle.State}
    (shows : system.reader.Shows state) (once : StopsOnce system action)
    (step : system.step action = some after) : after.reader.Matched state := by
  have unseen {reader : ContainerReader} (same : reader.Shows state) : reader.Matched state :=
    ⟨state, .refl _ _ _, same⟩
  rcases System.step_cases step with ⟨_, _, _, rfl⟩ | ⟨move, reader, _, moves, rfl⟩ |
    ⟨line, rest, _, _, rfl⟩ | ⟨_, rfl⟩ | ⟨_, rfl⟩ | ⟨called, rfl⟩
  · exact unseen shows
  · exact shows.tailContainer moves
  · exact unseen (shows.silent rfl rfl Iff.rfl)
  · exact unseen (shows.silent rfl rfl Iff.rfl)
  · exact unseen shows
  · exact shows.stop (once called)

/-- A run of a container reader that is stopped once at most is a run of the lifecycle, with
the channels closed that the reader shows. -/
theorem shows_of_run {log : Log} {reader : ContainerReader} {schedule : List Action}
    {system : System} (started : ContainerReader.newContainerReader.start = .ok reader)
    (once : Meets System.step StopsOnce (.create log reader) schedule)
    (ran : run System.step (.create log reader) schedule = some system) :
    system.reader.Matched .new := by
  cases started
  have spawn : Lifecycle.step .container .new (.start 0 false) = some
      ({ Lifecycle.State.new with running := true }.tailAt 0 .reading) := rfl
  apply invariant_of_run _ _ once ran
  · rintro before action after ⟨state, reaches, shows⟩ condition step
    obtain ⟨later, rest, showsLater⟩ := matched_of_step shows condition step
    exact ⟨later, reaches.trans rest, showsLater⟩
  · refine ⟨_, .single trivial spawn, ?_⟩
    constructor
    · exact ⟨rfl, rfl⟩
    · exact ⟨List.nodup_nil, rfl⟩
    · exact iff_of_false List.not_mem_nil Bool.noConfusion
    · exact iff_of_false List.not_mem_nil Pc.noConfusion
    · exact List.not_mem_nil
    · rfl
    · exact fun _ => rfl

end Tailpost.Container
