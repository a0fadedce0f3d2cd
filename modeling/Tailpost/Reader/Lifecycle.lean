import Tailpost.Transition.Core
import Tailpost.Transition.Places

/-!
# Starting and stopping a reader

The container reader, the Windows event reader and the macOS log reader keep a flag that
says whether they run.  `Start` reads and sets it under the lock.  `Stop` gives the lock
back after it has read the flag, and the channels that it closes and waits for are made
once, in the constructor.  So the flag lets a second goroutine or a second `Stop` in
while the channels belong to the first one.

The file follows any number of calls and goroutines through their channel operations.
Closing a closed channel or sending on one panics, and a run in which this happens goes
no further.
-/

namespace Tailpost.Reader.Lifecycle

open Tailpost.Transition

/-! ## The readers -/

/-- The channels of a reader. -/
inductive Channel
  | stopCh
  | stoppedCh
  | lines
  deriving DecidableEq

/-- Where a call of `Stop` is, once it has found the reader running. -/
inductive StopPc
  | idle
  /-- At `close(r.stopCh)`. -/
  | closing
  /-- At `<-r.stoppedCh`. -/
  | waiting
  /-- Behind it. -/
  | finishing
  | returned
  deriving DecidableEq

/-- Where the goroutine that a call of `Start` has spawned is. -/
inductive TailPc
  | idle
  /-- In its loop. -/
  | reading
  /-- At the deferred function that clears the flag. -/
  | resetting
  /-- At `close(r.stoppedCh)`. -/
  | closing
  | ended
  deriving DecidableEq

/-- A reader; the calls of `Start` and of `Stop` are numbered. -/
structure State where
  /-- The flag, `isRunning` in the container reader. -/
  running : Bool
  /-- The closes that were executed, the last one first. -/
  closes : List Channel
  /-- Something was sent on `lines` after it was closed. -/
  sentOnClosed : Bool
  stops : Nat → StopPc
  tails : Nat → TailPc

namespace State

/-- A reader that was just made. -/
def new : State where
  running := false
  closes := []
  sentOnClosed := false
  stops _ := .idle
  tails _ := .idle

/-- The channel was closed at least once. -/
def Closed (state : State) (channel : Channel) : Prop :=
  channel ∈ state.closes

instance (state : State) (channel : Channel) : Decidable (state.Closed channel) :=
  inferInstanceAs (Decidable (channel ∈ state.closes))

/-- No channel was closed twice and nothing was sent on a closed one. -/
def Orderly (state : State) : Prop :=
  state.closes.Nodup ∧ state.sentOnClosed = false

instance (state : State) : Decidable state.Orderly :=
  inferInstanceAs (Decidable (_ ∧ _))

/-- A `close` of the channel; a second one is recorded too, where Go panics. -/
def close (state : State) (channel : Channel) : State :=
  { state with closes := channel :: state.closes }

/-- A call of `Stop` moves on. -/
def stopAt (state : State) (call : Nat) (pc : StopPc) : State :=
  { state with stops := Function.update state.stops call pc }

/-- A tailing goroutine moves on. -/
def tailAt (state : State) (call : Nat) (pc : TailPc) : State :=
  { state with tails := Function.update state.tails call pc }

theorem stops_stopAt (state : State) (call : Nat) (pc : StopPc) :
    (state.stopAt call pc).stops call = pc :=
  Function.update_self ..

theorem tails_tailAt (state : State) (call : Nat) (pc : TailPc) :
    (state.tailAt call pc).tails call = pc :=
  Function.update_self ..

/-- `Start`, all of it under the lock.  It may fail to run a command. -/
def start (mayFail : Bool) (state : State) (call : Nat) (fails : Bool) : Option State :=
  if state.tails call ≠ .idle then
    none
  else if state.running || mayFail && fails then
    some state
  else
    some ({ state with running := true }.tailAt call .reading)

/-- The first lines of `Stop`, under the lock. -/
def check (state : State) (call : Nat) : Option State :=
  if state.stops call ≠ .idle then
    none
  else if state.running then
    some (state.stopAt call .closing)
  else
    some state

/-- The next step of a `Stop` behind the lock; it ends with a close of `lines`, or by
clearing the flag. -/
def stop (closesLines : Bool) (state : State) (call : Nat) : Option State :=
  match state.stops call with
  | .closing => some ((state.close .stopCh).stopAt call .waiting)
  | .waiting =>
      if state.Closed .stoppedCh then some (state.stopAt call .finishing) else none
  | .finishing =>
      if closesLines then
        some ((state.close .lines).stopAt call .returned)
      else
        some ({ state with running := false }.stopAt call .returned)
  | _ => none

/-- A goroutine sends on `lines`; whether there is room plays no part. -/
def send (state : State) (call : Nat) : Option State :=
  if state.tails call = .reading then
    some { state with sentOnClosed := decide (state.Closed .lines) }
  else
    none

/-- A goroutine leaves its loop, or takes the next step of its deferred function.  It may
have reasons of its own to leave, and may clear the flag. -/
def tail (endsByItself resets : Bool) (state : State) (call : Nat) : Option State :=
  match state.tails call with
  | .reading =>
      if endsByItself || decide (state.Closed .stopCh) then
        some (state.tailAt call (if resets then .resetting else .closing))
      else
        none
  | .resetting => some ({ state with running := false }.tailAt call .closing)
  | .closing => some ((state.close .stoppedCh).tailAt call .ended)
  | _ => none

end State

namespace ContainerReader

/-- `Start` of the container reader, which has nothing to open. -/
def start : State → Nat → Bool → Option State :=
  State.start false

/-- `Stop` of the container reader, which clears the flag and leaves `lines` open. -/
def stop : State → Nat → Option State :=
  State.stop false

/-- It ends by itself when the pod is gone, and leaves the flag alone. -/
def tailContainer : State → Nat → Option State :=
  State.tail true false

end ContainerReader

namespace WindowsEventLogReader

/-- `Start` of the Windows reader, which has nothing to open. -/
def start : State → Nat → Bool → Option State :=
  State.start false

/-- `Stop` of the Windows reader, which closes `lines`. -/
def stop : State → Nat → Option State :=
  State.stop true

/-- It ends only when `stopCh` is closed. -/
def readEvents : State → Nat → Option State :=
  State.tail false true

end WindowsEventLogReader

namespace MacOSLogReader

/-- The `log` command may fail to start. -/
def start : State → Nat → Bool → Option State :=
  State.start true

/-- `Stop` of the macOS reader, which closes `lines`. -/
def stop : State → Nat → Option State :=
  State.stop true

/-- It ends by itself with the output of the command. -/
def readLogs : State → Nat → Option State :=
  State.tail true true

end MacOSLogReader

/-- The three readers. -/
inductive Kind
  | container
  | windowsEvent
  | macOS
  deriving DecidableEq

namespace Kind

/-- `Start` of each reader. -/
def start : Kind → State → Nat → Bool → Option State
  | .container => ContainerReader.start
  | .windowsEvent => WindowsEventLogReader.start
  | .macOS => MacOSLogReader.start

/-- `Stop` of each reader. -/
def stop : Kind → State → Nat → Option State
  | .container => ContainerReader.stop
  | .windowsEvent => WindowsEventLogReader.stop
  | .macOS => MacOSLogReader.stop

/-- The goroutine of each reader. -/
def tail : Kind → State → Nat → Option State
  | .container => ContainerReader.tailContainer
  | .windowsEvent => WindowsEventLogReader.readEvents
  | .macOS => MacOSLogReader.readLogs

/-- Whether the goroutine can leave its loop before `stopCh` is closed. -/
def endsByItself : Kind → Bool
  | .windowsEvent => false
  | _ => true

/-- A goroutine can leave its loop. -/
def CanEnd (kind : Kind) (state : State) : Prop :=
  kind.endsByItself = true ∨ state.Closed .stopCh

theorem start_eq (kind : Kind) : ∃ mayFail, kind.start = State.start mayFail := by
  cases kind <;> exact ⟨_, rfl⟩

theorem stop_eq (kind : Kind) : ∃ closesLines, kind.stop = State.stop closesLines := by
  cases kind <;> exact ⟨_, rfl⟩

theorem tail_eq (kind : Kind) : ∃ resets, kind.tail = State.tail kind.endsByItself resets := by
  cases kind <;> exact ⟨_, rfl⟩

end Kind

/-- The steps of callers and goroutines. -/
inductive Action
  /-- A call of `Start`, and whether its command fails. -/
  | start (call : Nat) (fails : Bool)
  /-- A call of `Stop` reads the flag. -/
  | check (call : Nat)
  /-- Such a call goes on. -/
  | stop (call : Nat)
  /-- The goroutine of a `Start` sends a line. -/
  | send (call : Nat)
  /-- It leaves its loop, or goes on with its deferred function. -/
  | tail (call : Nat)
  deriving DecidableEq

/-- A step that is not a new call. -/
def Action.Pending : Action → Prop
  | .start _ _ => False
  | .check _ => False
  | _ => True

theorem Action.pending_stop (call : Nat) : (Action.stop call).Pending :=
  trivial

theorem Action.pending_tail (call : Nat) : (Action.tail call).Pending :=
  trivial

/-- One step; none is left after a panic. -/
def step (kind : Kind) (state : State) (action : Action) : Option State :=
  if state.Orderly then
    match action with
    | .start call fails => kind.start state call fails
    | .check call => state.check call
    | .stop call => kind.stop state call
    | .send call => state.send call
    | .tail call => kind.tail state call
  else
    none

/-! ## What a step does -/

/-- The steps of a reader, with what holds before each of them. -/
inductive Moves (kind : Kind) (state : State) : Action → State → Prop
  | startIgnored {call : Nat} {fails : Bool} : Moves kind state (.start call fails) state
  | start {call : Nat} {fails : Bool} (fresh : state.tails call = .idle)
      (free : state.running = false) :
      Moves kind state (.start call fails) ({ state with running := true }.tailAt call .reading)
  | checkIgnored {call : Nat} : Moves kind state (.check call) state
  | check {call : Nat} (fresh : state.stops call = .idle) :
      Moves kind state (.check call) (state.stopAt call .closing)
  | closeStopCh {call : Nat} (position : state.stops call = .closing) :
      Moves kind state (.stop call) ((state.close .stopCh).stopAt call .waiting)
  | wait {call : Nat} (position : state.stops call = .waiting)
      (stopped : state.Closed .stoppedCh) :
      Moves kind state (.stop call) (state.stopAt call .finishing)
  | closeLines {call : Nat} (position : state.stops call = .finishing) :
      Moves kind state (.stop call) ((state.close .lines).stopAt call .returned)
  | release {call : Nat} (position : state.stops call = .finishing) :
      Moves kind state (.stop call) ({ state with running := false }.stopAt call .returned)
  | send {call : Nat} (position : state.tails call = .reading) :
      Moves kind state (.send call) { state with sentOnClosed := decide (state.Closed .lines) }
  | leave {call : Nat} {pc : TailPc} (position : state.tails call = .reading)
      (canEnd : kind.CanEnd state) (deferred : pc = .resetting ∨ pc = .closing) :
      Moves kind state (.tail call) (state.tailAt call pc)
  | reset {call : Nat} (position : state.tails call = .resetting) :
      Moves kind state (.tail call) ({ state with running := false }.tailAt call .closing)
  | closeStoppedCh {call : Nat} (position : state.tails call = .closing) :
      Moves kind state (.tail call) ((state.close .stoppedCh).tailAt call .ended)

variable {kind : Kind} {state after : State} {action : Action}

theorem moves_of_start {mayFail fails : Bool} {call : Nat}
    (step : state.start mayFail call fails = some after) :
    Moves kind state (.start call fails) after := by
  unfold State.start at step
  split at step
  · contradiction
  · rename_i fresh
    split at step
    · cases step
      exact .startIgnored
    · rename_i refused
      cases step
      exact .start (by simpa using fresh) (by simp_all)

theorem moves_of_check {call : Nat} (step : state.check call = some after) :
    Moves kind state (.check call) after := by
  unfold State.check at step
  split at step
  · contradiction
  · rename_i fresh
    split at step
    · cases step
      exact .check (by simpa using fresh)
    · cases step
      exact .checkIgnored

theorem moves_of_stop {closesLines : Bool} {call : Nat}
    (step : state.stop closesLines call = some after) : Moves kind state (.stop call) after := by
  unfold State.stop at step
  split at step
  · rename_i position
    cases step
    exact .closeStopCh position
  · rename_i position
    split at step
    · rename_i stopped
      cases step
      exact .wait position stopped
    · contradiction
  · rename_i position
    split at step
    · cases step
      exact .closeLines position
    · cases step
      exact .release position
  · contradiction

theorem moves_of_send {call : Nat} (step : state.send call = some after) :
    Moves kind state (.send call) after := by
  unfold State.send at step
  split at step
  · rename_i position
    cases step
    exact .send position
  · contradiction

theorem moves_of_tail {resets : Bool} {call : Nat}
    (step : state.tail kind.endsByItself resets call = some after) :
    Moves kind state (.tail call) after := by
  unfold State.tail at step
  split at step
  · rename_i position
    split at step
    · rename_i canEnd
      cases step
      exact .leave position (by simpa [Kind.CanEnd] using canEnd) (by cases resets <;> simp)
    · contradiction
  · rename_i position
    cases step
    exact .reset position
  · rename_i position
    cases step
    exact .closeStoppedCh position
  · contradiction

/-- A step is taken before any panic, and is one of the moves. -/
theorem moves_of_step (taken : step kind state action = some after) :
    state.Orderly ∧ Moves kind state action after := by
  unfold step at taken
  split at taken
  · rename_i orderly
    constructor
    · exact orderly
    · cases action with
      | start call fails =>
          obtain ⟨mayFail, same⟩ := kind.start_eq
          simp only [same] at taken
          exact moves_of_start taken
      | check call => exact moves_of_check taken
      | stop call =>
          obtain ⟨closesLines, same⟩ := kind.stop_eq
          simp only [same] at taken
          exact moves_of_stop taken
      | send call => exact moves_of_send taken
      | tail call =>
          obtain ⟨resets, same⟩ := kind.tail_eq
          simp only [same] at taken
          exact moves_of_tail taken
  · contradiction

/-- `close(r.stopCh)` is executed. -/
theorem step_stop_closing {call : Nat} (orderly : state.Orderly)
    (position : state.stops call = .closing) :
    step kind state (.stop call) = some ((state.close .stopCh).stopAt call .waiting) := by
  obtain ⟨closesLines, same⟩ := kind.stop_eq
  simp only [step, orderly, same, State.stop, position, if_true]

/-- `close(r.stoppedCh)` is executed. -/
theorem step_tail_closing {call : Nat} (orderly : state.Orderly)
    (position : state.tails call = .closing) :
    step kind state (.tail call) = some ((state.close .stoppedCh).tailAt call .ended) := by
  obtain ⟨resets, same⟩ := kind.tail_eq
  simp only [step, orderly, same, State.tail, position, if_true]

/-! ## The closes and the places of the calls -/

/-- The call has found the reader running. -/
def StopPc.called : StopPc → Bool
  | .idle => false
  | _ => true

/-- Behind `close(r.stopCh)`. -/
def StopPc.passed : StopPc → Bool
  | .idle | .closing => false
  | _ => true

/-- Behind `<-r.stoppedCh`. -/
def StopPc.through : StopPc → Bool
  | .finishing | .returned => true
  | _ => false

/-- The call has returned. -/
def StopPc.complete : StopPc → Bool
  | .returned => true
  | _ => false

/-- The goroutine was started. -/
def TailPc.spawned : TailPc → Bool
  | .idle => false
  | _ => true

/-- Out of the loop. -/
def TailPc.left : TailPc → Bool
  | .idle | .reading => false
  | _ => true

/-- Behind `close(r.stoppedCh)`. -/
def TailPc.gone : TailPc → Bool
  | .ended => true
  | _ => false

namespace State

/-- At most one `Start` has found the reader not running, and at most one `Stop` has found
it running. -/
def CalledOnce (state : State) : Prop :=
  AtMostOne TailPc.spawned state.tails ∧ AtMostOne StopPc.called state.stops

/-- A channel is closed when a call or a goroutine is behind its close. -/
structure Tracks (state : State) : Prop where
  stopCh : state.Closed .stopCh ↔ Occupied StopPc.passed state.stops
  stoppedCh : state.Closed .stoppedCh ↔ Occupied TailPc.gone state.tails
  waited : Occupied StopPc.through state.stops → state.Closed .stoppedCh
  lines : state.Closed .lines → Occupied StopPc.complete state.stops

theorem closed_close_of_ne {state : State} {closed channel : Channel}
    (different : channel ≠ closed) :
    (state.close closed).Closed channel ↔ state.Closed channel :=
  List.mem_cons.trans (or_iff_right different)

variable {state : State} {call : Nat}

/-- The flag plays no part. -/
theorem Tracks.withRunning (tracks : state.Tracks) (running : Bool) :
    { state with running }.Tracks :=
  ⟨tracks.stopCh, tracks.stoppedCh, tracks.waited, tracks.lines⟩

theorem Tracks.stopAt (tracks : state.Tracks) {start pc : StopPc}
    (position : state.stops call = start) (passed : pc.passed = start.passed)
    (through : pc.through = true → state.Closed .stoppedCh) (incomplete : start.complete = false) :
    (state.stopAt call pc).Tracks := by
  constructor
  · exact tracks.stopCh.trans (occupied_update_iff position passed).symm
  · exact tracks.stoppedCh
  · intro occupied
    exact (occupied_of_update occupied).elim through tracks.waited
  · intro closed
    exact (tracks.lines closed).update (by rw [position, incomplete])

theorem Tracks.tailAt (tracks : state.Tracks) {start pc : TailPc}
    (position : state.tails call = start) (gone : pc.gone = start.gone) :
    (state.tailAt call pc).Tracks := by
  constructor
  · exact tracks.stopCh
  · exact tracks.stoppedCh.trans (occupied_update_iff position gone).symm
  · exact tracks.waited
  · exact tracks.lines

theorem Tracks.closeStopCh (tracks : state.Tracks) (position : state.stops call = .closing) :
    ((state.close .stopCh).stopAt call .waiting).Tracks := by
  constructor
  · exact iff_of_true List.mem_cons_self (occupied_update rfl)
  · exact (closed_close_of_ne Channel.noConfusion).trans tracks.stoppedCh
  · intro occupied
    exact List.mem_cons_of_mem _
      ((occupied_of_update occupied).elim (fun impossible => by cases impossible) tracks.waited)
  · intro closed
    have before : state.Closed .lines := (closed_close_of_ne Channel.noConfusion).mp closed
    exact (tracks.lines before).update (congrArg StopPc.complete position)

theorem Tracks.closeLines (tracks : state.Tracks) (position : state.stops call = .finishing) :
    ((state.close .lines).stopAt call .returned).Tracks := by
  have stopped : state.Closed .stoppedCh := tracks.waited ⟨call, congrArg StopPc.through position⟩
  constructor
  · have same : StopPc.passed .returned = StopPc.passed .finishing := rfl
    exact (closed_close_of_ne Channel.noConfusion).trans
      (tracks.stopCh.trans (occupied_update_iff position same).symm)
  · exact (closed_close_of_ne Channel.noConfusion).trans tracks.stoppedCh
  · intro _
    exact List.mem_cons_of_mem _ stopped
  · intro _
    exact occupied_update rfl

theorem Tracks.closeStoppedCh (tracks : state.Tracks) :
    ((state.close .stoppedCh).tailAt call .ended).Tracks := by
  constructor
  · exact (closed_close_of_ne Channel.noConfusion).trans tracks.stopCh
  · exact iff_of_true List.mem_cons_self (occupied_update rfl)
  · intro _
    exact List.mem_cons_self
  · intro closed
    exact tracks.lines ((closed_close_of_ne Channel.noConfusion).mp closed)

end State

theorem tracks_of_moves (tracks : state.Tracks) (moves : Moves kind state action after) :
    after.Tracks := by
  cases moves with
  | startIgnored | checkIgnored => exact tracks
  | send => exact ⟨tracks.stopCh, tracks.stoppedCh, tracks.waited, tracks.lines⟩
  | start fresh => exact (tracks.withRunning true).tailAt fresh rfl
  | check fresh => exact tracks.stopAt fresh rfl Bool.noConfusion rfl
  | closeStopCh position => exact tracks.closeStopCh position
  | wait position stopped => exact tracks.stopAt position rfl (fun _ => stopped) rfl
  | closeLines position => exact tracks.closeLines position
  | @release call position =>
      have stopped : state.Closed .stoppedCh :=
        tracks.waited ⟨call, congrArg StopPc.through position⟩
      exact (tracks.withRunning false).stopAt position rfl (fun _ => stopped) rfl
  | leave position _ deferred =>
      apply tracks.tailAt position
      rcases deferred with rfl | rfl <;> rfl
  | reset position => exact (tracks.withRunning false).tailAt position rfl
  | closeStoppedCh => exact tracks.closeStoppedCh

/-! ## One start and one stop -/

/-- Calls are never undone. -/
theorem calledOnce_of_moves (moves : Moves kind state action after) (once : after.CalledOnce) :
    state.CalledOnce := by
  obtain ⟨started, stopped⟩ := once
  cases moves with
  | startIgnored | checkIgnored | send => exact ⟨started, stopped⟩
  | start | reset | closeStoppedCh => exact ⟨started.of_update rfl, stopped⟩
  | leave _ _ deferred =>
      constructor
      · apply started.of_update
        rcases deferred with rfl | rfl <;> rfl
      · exact stopped
  | check | closeStopCh | wait | closeLines | release => exact ⟨started, stopped.of_update rfl⟩

/-- Only a new call can be a second one. -/
theorem calledOnce_of_pending (pending : action.Pending) (moves : Moves kind state action after)
    (once : state.CalledOnce) : after.CalledOnce := by
  obtain ⟨started, stopped⟩ := once
  cases moves with
  | startIgnored | start | checkIgnored | check => exact pending.elim
  | send => exact ⟨started, stopped⟩
  | closeStopCh position | wait position | closeLines position | release position =>
      exact ⟨started, stopped.move position rfl⟩
  | leave position _ deferred =>
      refine ⟨started.move position ?_, stopped⟩
      rcases deferred with rfl | rfl <;> rfl
  | reset position | closeStoppedCh position =>
      exact ⟨started.move position rfl, stopped⟩

theorem StopPc.called_of_passed (pc : StopPc) (passed : pc.passed = true) : pc.called = true := by
  cases pc <;> first | rfl | contradiction

theorem StopPc.called_of_complete (pc : StopPc) (complete : pc.complete = true) :
    pc.called = true := by
  cases pc <;> first | rfl | contradiction

theorem StopPc.through_of_complete (pc : StopPc) (complete : pc.complete = true) :
    pc.through = true := by
  cases pc <;> first | rfl | contradiction

theorem TailPc.spawned_of_gone (pc : TailPc) (gone : pc.gone = true) : pc.spawned = true := by
  cases pc <;> first | rfl | contradiction

/-- The goroutine that is still reading, or that closes `stoppedCh` now, is the only one. -/
theorem not_closed_stoppedCh {call : Nat} (tracks : state.Tracks) (once : state.CalledOnce)
    (spawned : (state.tails call).spawned = true) (gone : (state.tails call).gone = false) :
    ¬ state.Closed .stoppedCh := by
  rw [tracks.stoppedCh]
  exact once.1.not_occupied TailPc.spawned_of_gone spawned gone

/-- Where `Start` and `Stop` have taken effect once at most, no step panics. -/
theorem orderly_of_moves (orderly : state.Orderly) (tracks : state.Tracks)
    (once : state.CalledOnce) (moves : Moves kind state action after) : after.Orderly := by
  obtain ⟨nodup, calm⟩ := orderly
  cases moves with
  | startIgnored | start | checkIgnored | check | wait | release | leave | reset =>
      exact ⟨nodup, calm⟩
  | closeStopCh position =>
      have opened : ¬ state.Closed .stopCh := by
        rw [tracks.stopCh]
        exact once.2.not_occupied StopPc.called_of_passed (congrArg StopPc.called position)
          (congrArg StopPc.passed position)
      exact ⟨List.nodup_cons.mpr ⟨opened, nodup⟩, calm⟩
  | closeLines position =>
      have opened : ¬ state.Closed .lines := fun closed =>
        once.2.not_occupied StopPc.called_of_complete (congrArg StopPc.called position)
          (congrArg StopPc.complete position) (tracks.lines closed)
      exact ⟨List.nodup_cons.mpr ⟨opened, nodup⟩, calm⟩
  | send position =>
      have opened : ¬ state.Closed .lines := by
        intro closed
        obtain ⟨other, complete⟩ := tracks.lines closed
        have stopped := tracks.waited ⟨other, StopPc.through_of_complete _ complete⟩
        exact not_closed_stoppedCh tracks once (congrArg TailPc.spawned position)
          (congrArg TailPc.gone position) stopped
      exact ⟨nodup, decide_eq_false opened⟩
  | closeStoppedCh position =>
      have opened := not_closed_stoppedCh tracks once (congrArg TailPc.spawned position)
        (congrArg TailPc.gone position)
      exact ⟨List.nodup_cons.mpr ⟨opened, nodup⟩, calm⟩

end Tailpost.Reader.Lifecycle
