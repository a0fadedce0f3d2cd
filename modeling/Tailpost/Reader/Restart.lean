import Tailpost.Reader.Lifecycle

/-!
# Restarting a reader, and stopping it twice

Where two calls of `Stop` have found the reader running, both close `stopCh`.  Where two
goroutines were spawned, both can come to the end of their loop and close `stoppedCh`: the
flag was cleared in between, so `stopCh` is closed or the goroutines end by themselves.
Together with the safety of one `Start` and one `Stop` this gives the runs of a reader that
cannot panic.
-/

namespace Tailpost.Reader.Lifecycle

open Tailpost.Transition

variable {kind : Kind} {state after : State} {action : Action}

/-! ## Who has closed a channel -/

/-- No two calls are behind one close. -/
structure State.Distinct (state : State) : Prop where
  stopCh : AtMostOne StopPc.passed state.stops
  stoppedCh : AtMostOne TailPc.gone state.tails

/-- A close that does not panic is the first one. -/
theorem not_closed_of_orderly_close {channel : Channel} (orderly : (state.close channel).Orderly) :
    ¬ state.Closed channel :=
  (List.nodup_cons.mp orderly.1).1

theorem distinct_of_moves (tracks : state.Tracks) (distinct : state.Distinct)
    (moves : Moves kind state action after) (orderly : after.Orderly) : after.Distinct := by
  obtain ⟨passedOnce, goneOnce⟩ := distinct
  cases moves with
  | startIgnored | checkIgnored | send => exact ⟨passedOnce, goneOnce⟩
  | start position | reset position =>
      exact ⟨passedOnce, goneOnce.move position rfl⟩
  | leave position _ deferred =>
      refine ⟨passedOnce, goneOnce.move position ?_⟩
      rcases deferred with rfl | rfl <;> rfl
  | check position | wait position | closeLines position | release position =>
      exact ⟨passedOnce.move position rfl, goneOnce⟩
  | closeStopCh =>
      have opened : ¬ state.Closed .stopCh := not_closed_of_orderly_close orderly
      exact ⟨.update (tracks.stopCh.not.mp opened), goneOnce⟩
  | closeStoppedCh =>
      have opened : ¬ state.Closed .stoppedCh := not_closed_of_orderly_close orderly
      exact ⟨passedOnce, .update (tracks.stoppedCh.not.mp opened)⟩

/-- As long as no goroutine can end, none has left its loop, and the flag is set as soon as
there is one. -/
def State.Settled (kind : Kind) (state : State) : Prop :=
  kind.CanEnd state ∨
    ¬ Occupied TailPc.left state.tails ∧
      (state.running = false → ¬ Occupied TailPc.spawned state.tails) ∧
      AtMostOne TailPc.spawned state.tails

theorem canEnd_close {channel : Channel} (canEnd : kind.CanEnd state) :
    kind.CanEnd (state.close channel) :=
  canEnd.imp_right (List.mem_cons_of_mem channel)

theorem settled_of_moves (tracks : state.Tracks) (settled : state.Settled kind)
    (moves : Moves kind state action after) : after.Settled kind := by
  rcases settled with canEnd | ⟨stays, flagged, once⟩
  · left
    cases moves with
    | closeStopCh | closeLines | closeStoppedCh => exact canEnd_close canEnd
    | _ => exact canEnd
  · cases moves with
    | startIgnored | checkIgnored | check | wait | closeLines | send =>
        exact .inr ⟨stays, flagged, once⟩
    | start fresh free =>
        -- `Start` goes on only where the flag is not set, so this goroutine is the first
        have same : TailPc.left .reading = TailPc.left .idle := rfl
        exact .inr ⟨(occupied_update_iff fresh same).not.mpr stays, Bool.noConfusion,
          .update (flagged free)⟩
    | closeStopCh => exact .inl (.inr List.mem_cons_self)
    | @release call position =>
        -- a `Stop` that clears the flag has closed `stopCh` before
        exact .inl (.inr (tracks.stopCh.mpr ⟨call, congrArg StopPc.passed position⟩))
    | leave _ canEnd => exact .inl canEnd
    | @reset call position | @closeStoppedCh call position =>
        exact absurd ⟨call, congrArg TailPc.left position⟩ stays

/-- What holds in every state of a run. -/
structure State.Sound (kind : Kind) (state : State) : Prop where
  tracks : state.Tracks
  orderly : state.CalledOnce → state.Orderly
  distinct : state.Orderly → state.Distinct
  settled : state.Settled kind

theorem sound_new (kind : Kind) : State.new.Sound kind := by
  have noStop {places : StopPc → Bool} (outside : places .idle = false) :
      ¬ Occupied places State.new.stops := not_occupied_const outside
  have noTail {places : TailPc → Bool} (outside : places .idle = false) :
      ¬ Occupied places State.new.tails := not_occupied_const outside
  have closedNone (channel : Channel) : ¬ State.new.Closed channel := List.not_mem_nil
  constructor
  · constructor
    · exact iff_of_false (closedNone _) (noStop rfl)
    · exact iff_of_false (closedNone _) (noTail rfl)
    · exact fun occupied => absurd occupied (noStop rfl)
    · exact fun closed => absurd closed (closedNone _)
  · exact fun _ => ⟨List.nodup_nil, rfl⟩
  · exact fun _ => ⟨.of_not_occupied (noStop rfl), .of_not_occupied (noTail rfl)⟩
  · exact .inr ⟨noTail rfl, fun _ => noTail rfl, .of_not_occupied (noTail rfl)⟩

theorem sound_of_step (sound : state.Sound kind) (taken : step kind state action = some after) :
    after.Sound kind := by
  obtain ⟨orderly, moves⟩ := moves_of_step taken
  constructor
  · exact tracks_of_moves sound.tracks moves
  · intro once
    exact orderly_of_moves orderly sound.tracks (calledOnce_of_moves moves once) moves
  · exact distinct_of_moves sound.tracks (sound.distinct orderly) moves
  · exact settled_of_moves sound.tracks sound.settled moves

/-! ## A second start or a second stop -/

/-- The calls and goroutines can run into a panic by themselves. -/
def Doomed (kind : Kind) (state : State) : Prop :=
  ∃ final, Reaches (step kind) Action.Pending state final ∧ ¬ final.Orderly

theorem Doomed.of_reaches (reaches : Reaches (step kind) Action.Pending state after)
    (doomed : Doomed kind after) : Doomed kind state := by
  obtain ⟨final, rest, panics⟩ := doomed
  exact ⟨final, reaches.trans rest, panics⟩

theorem Doomed.of_not_orderly (panics : ¬ state.Orderly) : Doomed kind state :=
  ⟨state, .refl _ _ _, panics⟩

section Stops

variable {call : Nat} (orderly : state.Orderly)
include orderly

theorem reaches_waiting (position : state.stops call = .closing) :
    Reaches (step kind) Action.Pending state ((state.close .stopCh).stopAt call .waiting) :=
  .single (Action.pending_stop call) (step_stop_closing orderly position)

theorem doomed_of_closed_stopCh (closed : state.Closed .stopCh)
    (position : state.stops call = .closing) : Doomed kind state := by
  apply Doomed.of_reaches (reaches_waiting orderly position)
  exact .of_not_orderly fun after => not_closed_of_orderly_close after closed

/-- Two calls of `Stop` that have found the reader running both close `stopCh`. -/
theorem doomed_of_two_stops (tracks : state.Tracks) (distinct : state.Distinct)
    (twice : ¬ AtMostOne StopPc.called state.stops) : Doomed kind state := by
  have closing {call : Nat} (called : (state.stops call).called = true)
      (behind : (state.stops call).passed ≠ true) : state.stops call = .closing := by
    cases position : state.stops call <;> simp_all [StopPc.called, StopPc.passed]
  simp only [AtMostOne, not_forall] at twice
  obtain ⟨first, second, calledFirst, calledSecond, different⟩ := twice
  by_cases closed : state.Closed .stopCh
  · by_cases passed : (state.stops first).passed = true
    · have behind : (state.stops second).passed ≠ true := fun passedSecond =>
        different (distinct.stopCh first second passed passedSecond)
      exact doomed_of_closed_stopCh orderly closed (closing calledSecond behind)
    · exact doomed_of_closed_stopCh orderly closed (closing calledFirst passed)
  · have none (call : Nat) : (state.stops call).passed ≠ true := fun passed =>
      closed (tracks.stopCh.mpr ⟨call, passed⟩)
    apply Doomed.of_reaches (reaches_waiting orderly (closing calledFirst (none first)))
    by_cases still : ((state.close .stopCh).stopAt first .waiting).Orderly
    · apply doomed_of_closed_stopCh still List.mem_cons_self
      have position := closing calledSecond (none second)
      exact (Function.update_of_ne (Ne.symm different) _ _).trans position
    · exact .of_not_orderly still

end Stops

section Tails

variable {call : Nat}

/-- The goroutine can go on to its end by itself. -/
def CanFinish (kind : Kind) (state : State) (call : Nat) : Prop :=
  ∃ final, Reaches (step kind) Action.Pending state final ∧
    final.closes = .stoppedCh :: state.closes ∧
    final.tails = Function.update state.tails call .ended

theorem canFinish_of_closing (orderly : state.Orderly) (position : state.tails call = .closing) :
    CanFinish kind state call :=
  ⟨_, .single (Action.pending_tail call) (step_tail_closing orderly position), rfl, rfl⟩

theorem CanFinish.of_step {pc : TailPc} {running : Bool}
    (taken : step kind state (.tail call) = some ({ state with running }.tailAt call pc))
    (later : CanFinish kind ({ state with running }.tailAt call pc) call) :
    CanFinish kind state call := by
  obtain ⟨final, rest, closes, tails⟩ := later
  exact ⟨final, rest.head (Action.pending_tail call) taken, closes,
    tails.trans (Function.update_idem _ _ _)⟩

theorem canFinish_of_resetting (orderly : state.Orderly)
    (position : state.tails call = .resetting) : CanFinish kind state call := by
  obtain ⟨resets, same⟩ := kind.tail_eq
  have taken : step kind state (.tail call) =
      some ({ state with running := false }.tailAt call .closing) := by
    simp only [step, orderly, same, State.tail, position, if_true]
  exact .of_step taken (canFinish_of_closing orderly (State.tails_tailAt ..))

theorem canFinish_of_reading (orderly : state.Orderly) (canEnd : kind.CanEnd state)
    (position : state.tails call = .reading) : CanFinish kind state call := by
  obtain ⟨resets, same⟩ := kind.tail_eq
  have taken : step kind state (.tail call) =
      some (state.tailAt call (if resets then .resetting else .closing)) := by
    have leaves : (kind.endsByItself || decide (state.Closed .stopCh)) = true := by
      simpa [Kind.CanEnd] using canEnd
    simp only [step, orderly, same, State.tail, position, leaves, if_true]
  cases resets with
  | true => exact .of_step taken (canFinish_of_resetting orderly (State.tails_tailAt ..))
  | false => exact .of_step taken (canFinish_of_closing orderly (State.tails_tailAt ..))

theorem canFinish (orderly : state.Orderly) (canEnd : kind.CanEnd state)
    (spawned : (state.tails call).spawned = true) (stays : (state.tails call).gone ≠ true) :
    CanFinish kind state call := by
  cases position : state.tails call with
  | idle =>
      rw [position] at spawned
      contradiction
  | reading => exact canFinish_of_reading orderly canEnd position
  | resetting => exact canFinish_of_resetting orderly position
  | closing => exact canFinish_of_closing orderly position
  | ended =>
      rw [position] at stays
      contradiction

theorem doomed_of_closed_stoppedCh (orderly : state.Orderly) (canEnd : kind.CanEnd state)
    (closed : state.Closed .stoppedCh) (spawned : (state.tails call).spawned = true)
    (stays : (state.tails call).gone ≠ true) : Doomed kind state := by
  obtain ⟨final, reaches, closes, _⟩ := canFinish orderly canEnd spawned stays
  refine ⟨final, reaches, fun after => ?_⟩
  have nodup := after.1
  rw [closes] at nodup
  exact (List.nodup_cons.mp nodup).1 closed

/-- Two goroutines both close `stoppedCh`. -/
theorem doomed_of_two_tails (orderly : state.Orderly) (tracks : state.Tracks)
    (distinct : state.Distinct) (settled : state.Settled kind)
    (twice : ¬ AtMostOne TailPc.spawned state.tails) : Doomed kind state := by
  have canEnd : kind.CanEnd state := settled.resolve_right fun once => twice once.2.2
  simp only [AtMostOne, not_forall] at twice
  obtain ⟨first, second, spawnedFirst, spawnedSecond, different⟩ := twice
  -- one goroutine has closed the channel already, or the first one is to do it
  by_cases closed : state.Closed .stoppedCh
  · by_cases gone : (state.tails first).gone = true
    · have stays : (state.tails second).gone ≠ true := fun goneSecond =>
        different (distinct.stoppedCh first second gone goneSecond)
      exact doomed_of_closed_stoppedCh orderly canEnd closed spawnedSecond stays
    · exact doomed_of_closed_stoppedCh orderly canEnd closed spawnedFirst gone
  · have none (call : Nat) : (state.tails call).gone ≠ true := fun gone =>
      closed (tracks.stoppedCh.mpr ⟨call, gone⟩)
    obtain ⟨middle, reaches, closes, tails⟩ := canFinish orderly canEnd spawnedFirst (none first)
    apply Doomed.of_reaches reaches
    by_cases still : middle.Orderly
    · have same : middle.tails second = state.tails second := by
        rw [tails, Function.update_of_ne (Ne.symm different)]
      have canEndLater : kind.CanEnd middle := canEnd.imp_right fun stopped => by
        rw [State.Closed, closes]
        exact List.mem_cons_of_mem _ stopped
      have closedNow : middle.Closed .stoppedCh := by
        rw [State.Closed, closes]
        exact List.mem_cons_self
      exact doomed_of_closed_stoppedCh still canEndLater closedNow (same ▸ spawnedSecond)
        (same ▸ none second)
    · exact .of_not_orderly still

end Tails

/-! ## When no channel is closed twice -/

/-- However the calls that were made and the goroutines go on, no channel is closed twice and
nothing is sent on a closed one, exactly when one `Start` at most has found the reader not
running and one `Stop` at most has found it running. -/
theorem orderly_iff_calledOnce (kind : Kind) {schedule : List Action} {state : State}
    (ran : run (step kind) .new schedule = some state) :
    (∀ final, Reaches (step kind) Action.Pending state final → final.Orderly) ↔
      state.CalledOnce := by
  have sound : state.Sound kind :=
    invariant_of_run_of_forall (fun _ _ _ => sound_of_step) (sound_new kind) ran
  constructor
  · intro never
    have orderly : state.Orderly := never state (.refl _ _ _)
    have distinct := sound.distinct orderly
    have safe : ¬ Doomed kind state := by
      rintro ⟨final, reaches, panics⟩
      exact panics (never final reaches)
    constructor
    · by_contra twice
      exact safe (doomed_of_two_tails orderly sound.tracks distinct sound.settled twice)
    · by_contra twice
      exact safe (doomed_of_two_stops orderly sound.tracks distinct twice)
  · intro once final reaches
    have kept : final.Sound kind ∧ final.CalledOnce := by
      apply reaches.invariant _ ⟨sound, once⟩
      rintro before action after ⟨soundBefore, onceBefore⟩ pending taken
      exact ⟨sound_of_step soundBefore taken,
        calledOnce_of_pending pending (moves_of_step taken).2 onceBefore⟩
    exact kept.1.orderly kept.2

/-- A container reader that is started and stopped once closes its channels once; one whose
flag two calls of `Stop` have read can go on to close a channel twice. -/
theorem orderly_iff_calledOnce_container :
    ∃ state raced, run (step .container) .new
        [.start 0 false, .send 0, .check 0, .stop 0, .tail 0, .tail 0, .stop 0, .stop 0] =
          some state ∧
      run (step .container) .new [.start 0 false, .check 0, .check 1] = some raced ∧
      (∀ final, Reaches (step .container) Action.Pending state final → final.Orderly) ∧
      ¬ ∀ final, Reaches (step .container) Action.Pending raced final → final.Orderly := by
  have computed : ∃ state raced, run (step .container) .new
      [.start 0 false, .send 0, .check 0, .stop 0, .tail 0, .tail 0, .stop 0, .stop 0] =
        some state ∧
      run (step .container) .new [.start 0 false, .check 0, .check 1] = some raced ∧
      (∀ call, state.tails (call + 1) = .idle ∧ state.stops (call + 1) = .idle) ∧
      (raced.stops 0).called = true ∧ (raced.stops 1).called = true :=
    ⟨_, _, rfl, rfl, fun _ => ⟨rfl, rfl⟩, rfl, rfl⟩
  obtain ⟨state, raced, ran, ranBoth, others, first, second⟩ := computed
  have once : state.CalledOnce := by
    constructor
    · rintro (_ | first) (_ | second) atFirst atSecond
      · rfl
      · simp [(others second).1, TailPc.spawned] at atSecond
      · simp [(others first).1, TailPc.spawned] at atFirst
      · simp [(others first).1, TailPc.spawned] at atFirst
    · rintro (_ | first) (_ | second) atFirst atSecond
      · rfl
      · simp [(others second).2, StopPc.called] at atSecond
      · simp [(others first).2, StopPc.called] at atFirst
      · simp [(others first).2, StopPc.called] at atFirst
  refine ⟨state, raced, ran, ranBoth, (orderly_iff_calledOnce .container ran).mpr once, ?_⟩
  intro orderly
  exact absurd (((orderly_iff_calledOnce .container ranBoth).mp orderly).2 0 1 first second)
    (by decide)

/-- Two calls of `Stop` read the flag before either has closed `stopCh`, for each of the
readers; and a container reader that was stopped and is started again closes `stoppedCh`
twice. -/
theorem channels_closed_twice :
    (∃ state, run (step .container) .new
        [.start 0 false, .check 0, .check 1, .stop 0, .stop 1] = some state ∧
      ¬ state.Orderly) ∧
    (∃ state, run (step .windowsEvent) .new
        [.start 0 false, .check 0, .check 1, .stop 0, .stop 1] = some state ∧
      ¬ state.Orderly) ∧
    (∃ state, run (step .macOS) .new
        [.start 0 false, .check 0, .check 1, .stop 0, .stop 1] = some state ∧
      ¬ state.Orderly) ∧
    ∃ state, run (step .container) .new
        [.start 0 false, .check 0, .stop 0, .tail 0, .tail 0, .stop 0, .stop 0,
          .start 1 false, .tail 1, .tail 1] = some state ∧
      ¬ state.Orderly :=
  ⟨⟨_, rfl, by decide⟩, ⟨_, rfl, by decide⟩, ⟨_, rfl, by decide⟩, ⟨_, rfl, by decide⟩⟩

end Tailpost.Reader.Lifecycle
