import Tailpost.Sender.Stop

/-!
# Closing the channels of the sender

`Stop` tests `stopCh` and closes it in the default branch of the same `select`.
These are two steps, and only the mutex keeps another `Stop` call from coming in
between; closing a closed channel panics.  This file separates the two steps,
records every close that is executed, and shows that no channel is closed twice.
The sender in which the test and the close are one step is thereby an abstraction
of the finer one, and the lines that `Stop` flushes can be followed there.
-/

namespace Tailpost.Sender

open Tailpost.Transition

universe u

variable {α : Type u}

/-- The channels that are closed to stop the sender. -/
inductive Channel
  | stopCh
  | stoppedCh
  deriving DecidableEq

/-- The sender and the closes of its channels. -/
structure ClosingSender (α : Type u) where
  sender : HTTPSender α
  /-- The callers at `close(s.stopCh)`. -/
  closing : Nat → Bool
  /-- The closes that were executed, the last one first. -/
  closes : List Channel

namespace ClosingSender

/-- A caller executes `close(s.stopCh)`. -/
def closeStopCh (state : ClosingSender α) (id : Nat) : ClosingSender α where
  sender := { state.sender with stopCh := true }.goto id (.stopUnlock true)
  closing := Function.update state.closing id false
  closes := .stopCh :: state.closes

/-- `flushLoop` executes `close(s.stoppedCh)`. -/
def closeStoppedCh (state : ClosingSender α) : ClosingSender α where
  sender := { state.sender with stoppedCh := true, loop := .done }
  closing := state.closing
  closes := .stoppedCh :: state.closes

/-- The `select` of `Stop`; its default branch closes `stopCh` in a step of its
own. -/
def select (state : ClosingSender α) (id : Nat) : ClosingSender α :=
  if state.closing id then
    state.closeStopCh id
  else if state.sender.stopCh then
    { state with sender := state.sender.goto id (.stopUnlock false) }
  else
    { state with closing := Function.update state.closing id true }

variable [Inhabited α]

/-- A sender with the given batch size that nobody uses yet. -/
def create (batchSize : Int) : ClosingSender α where
  sender := .create batchSize
  closing _ := false
  closes := []

/-- A step of the sender alone. -/
def senderStep (state : ClosingSender α) (action : Action α) : Option (ClosingSender α) :=
  (state.sender.step action).map fun sender => { state with sender }

/-- One step; none is left once a second close of a channel has panicked. -/
def step (state : ClosingSender α) (action : Action α) : Option (ClosingSender α) :=
  if state.closes.Nodup then
    match action with
    | .call id =>
        match state.sender.callers id with
        | .select => some (state.select id)
        | _ => state.senderStep (.call id)
    | .loop =>
        match state.sender.loop with
        | .close => some state.closeStoppedCh
        | _ => state.senderStep .loop
    | action => state.senderStep action
  else
    none

/-! ## What one step can do -/

/-- The enabled steps. -/
inductive Moves (state : ClosingSender α) : Action α → ClosingSender α → Prop
  | test {id : Nat} : state.sender.callers id = .select → state.sender.stopCh = false →
      Moves state (.call id) { state with closing := Function.update state.closing id true }
  | close {id : Nat} : state.sender.callers id = .select → state.closing id = true →
      Moves state (.call id) (state.closeStopCh id)
  | closeStopped : state.sender.loop = .close → Moves state .loop state.closeStoppedCh
  | other {action : Action α} {sender : HTTPSender α} :
      state.sender.step action = some sender →
      (∀ id, action = .call id → state.sender.callers id = .select →
        state.sender.stopCh = true) →
      Moves state action { state with sender }

theorem moves_of_senderStep {state after : ClosingSender α} {action : Action α}
    (elsewhere : ∀ id, action = .call id → state.sender.callers id ≠ .select)
    (taken : state.senderStep action = some after) : Moves state action after := by
  rcases Option.map_eq_some_iff.mp taken with ⟨sender, step, rfl⟩
  exact .other step fun id same position => absurd position (elsewhere id same)

/-- Every step is one of the enabled steps. -/
theorem moves_of_step {state after : ClosingSender α} {action : Action α}
    (taken : state.step action = some after) : Moves state action after := by
  unfold step at taken
  split at taken
  next =>
    split at taken
    next id =>
      split at taken
      next position =>
        cases taken
        unfold select
        split
        next closing => exact .close position closing
        next =>
          split
          next closed =>
            apply Moves.other
            · simp [HTTPSender.step, HTTPSender.sendWithContext, HTTPSender.stop, position, closed]
            · exact fun _ _ _ => closed
          next isOpen => exact .test position (by simpa using isOpen)
      next elsewhere =>
        apply moves_of_senderStep _ taken
        rintro _ ⟨⟩
        exact elsewhere
    next =>
      split at taken
      next position =>
        cases taken
        exact .closeStopped position
      next => exact moves_of_senderStep (fun _ same => by cases same) taken
    next notCall _ => exact moves_of_senderStep (fun id same => absurd same (notCall id)) taken
  next => contradiction

end ClosingSender

/-! ## No channel is closed twice -/

namespace HTTPSender

variable [Inhabited α] {sender after : HTTPSender α} {action : Action α}

theorem stopCh_of_moves (moves : Moves sender action after) (closed : sender.stopCh = true) :
    after.stopCh = true := by
  cases moves with
  | stopClose => rfl
  | _ => exact closed

/-- While a caller is between the test and the close, the lock keeps the others
from moving it or closing the channel. -/
theorem select_of_moves {id : Nat} (moves : Moves sender action after)
    (position : sender.callers id = .select) (isOpen : sender.stopCh = false)
    (elsewhere : ∀ caller, action = .call caller → sender.callers caller = .select →
      sender.stopCh = true) : after.callers id = .select ∧ after.stopCh = false := by
  cases action with
  | call caller =>
      have apart : id ≠ caller := by
        rintro rfl
        rw [elsewhere id rfl position] at isOpen
        contradiction
      refine ⟨((frame_of_call moves).1 id apart).trans position, ?_⟩
      cases moves with
      | stopClose inSelect =>
          rw [elsewhere caller rfl inSelect] at isOpen
          contradiction
      | _ => exact isOpen
  | send caller line =>
      cases moves with
      | callSend idle =>
          have apart : id ≠ caller := by
            rintro rfl
            rw [position] at idle
            contradiction
          exact ⟨(Function.update_of_ne apart _ _).trans position, isOpen⟩
  | stop caller =>
      cases moves with
      | callStop idle =>
          have apart : id ≠ caller := by
            rintro rfl
            rw [position] at idle
            contradiction
          exact ⟨(Function.update_of_ne apart _ _).trans position, isOpen⟩
  | start | tick | quit | loop | deliver =>
      cases moves with
      | _ => exact ⟨position, isOpen⟩

end HTTPSender

namespace ClosingSender

variable [Inhabited α]

/-- A caller about to close `stopCh` holds the lock and the channel is open; a
channel that was closed is not about to be closed again. -/
structure Guarded (state : ClosingSender α) : Prop where
  exclusive : Exclusive state.sender.lock state.sender.callers state.sender.loop
  closing : ∀ id, state.closing id = true →
    state.sender.callers id = .select ∧ state.sender.stopCh = false
  stopCh : Channel.stopCh ∈ state.closes → state.sender.stopCh = true
  stoppedCh : Channel.stoppedCh ∈ state.closes → state.sender.loop = .done
  once : state.closes.Nodup

theorem guarded_create (batchSize : Int) : Guarded (create batchSize : ClosingSender α) where
  exclusive := HTTPSender.exclusive_create batchSize
  closing := by simp [create]
  stopCh := by simp [create]
  stoppedCh := by simp [create]
  once := List.nodup_nil

theorem guarded_of_moves {state after : ClosingSender α} {action : Action α}
    (guarded : Guarded state) (moves : Moves state action after) : Guarded after := by
  cases moves with
  | @test id position isOpen =>
      refine { guarded with closing := ?_ }
      exact (Function.forall_update_iff state.closing fun other closing => closing = true →
        state.sender.callers other = .select ∧ state.sender.stopCh = false).mpr
        ⟨fun _ => ⟨position, isOpen⟩, fun other _ => guarded.closing other⟩
  | @close id position closing =>
      have isOpen := (guarded.closing id closing).2
      have holds : ∀ {other}, state.sender.callers other = .select →
          state.sender.lock = some (.caller other) := by
        intro other inSelect
        exact (guarded.exclusive.callers other).mp (by rw [inSelect]; trivial)
      constructor
      case exclusive =>
        exact HTTPSender.exclusive_of_moves guarded.exclusive (.stopClose position isOpen)
      case closing =>
        intro other still
        change Function.update state.closing id false other = true at still
        by_cases same : other = id
        · rw [same, Function.update_self] at still
          contradiction
        · rw [Function.update_of_ne same] at still
          cases (holds position).symm.trans (holds (guarded.closing other still).1)
          contradiction
      case stopCh => exact fun _ => rfl
      case stoppedCh =>
        intro closed
        exact guarded.stoppedCh ((List.mem_cons.mp closed).resolve_left Channel.noConfusion)
      case once =>
        refine List.nodup_cons.mpr ⟨fun earlier => ?_, guarded.once⟩
        rw [guarded.stopCh earlier] at isOpen
        contradiction
  | closeStopped position =>
      constructor
      case exclusive =>
        exact HTTPSender.exclusive_of_moves guarded.exclusive (.loopClose position)
      case closing => exact guarded.closing
      case stopCh =>
        intro closed
        exact guarded.stopCh ((List.mem_cons.mp closed).resolve_left Channel.noConfusion)
      case stoppedCh => exact fun _ => rfl
      case once =>
        refine List.nodup_cons.mpr ⟨fun earlier => ?_, guarded.once⟩
        rw [guarded.stoppedCh earlier] at position
        contradiction
  | other taken elsewhere =>
      have moves := HTTPSender.moves_of_step taken
      constructor
      case exclusive => exact HTTPSender.exclusive_of_moves guarded.exclusive moves
      case closing =>
        intro id closing
        rcases guarded.closing id closing with ⟨position, isOpen⟩
        exact HTTPSender.select_of_moves moves position isOpen elsewhere
      case stopCh => exact fun closed => HTTPSender.stopCh_of_moves moves (guarded.stopCh closed)
      case stoppedCh =>
        exact fun closed => HTTPSender.loop_done_of_moves moves (guarded.stoppedCh closed)
      case once => exact guarded.once

/-! ## The coarser sender -/

/-- A step of the finer sender is a step of the coarser one, or none. -/
theorem reaches_of_moves {state after : ClosingSender α} {action : Action α}
    (guarded : Guarded state) (moves : Moves state action after) :
    Reaches HTTPSender.step (fun _ => True) state.sender after.sender := by
  cases moves with
  | test => exact Reaches.refl _ _ _
  | @close id position closing =>
      have isOpen := (guarded.closing id closing).2
      have taken : state.sender.step (.call id) = some (state.closeStopCh id).sender := by
        simp [HTTPSender.step, HTTPSender.sendWithContext, HTTPSender.stop, closeStopCh, position,
          isOpen]
      exact Reaches.single trivial taken
  | closeStopped position =>
      have taken : state.sender.step .loop = some state.closeStoppedCh.sender := by
        simp [HTTPSender.step, HTTPSender.flushLoop, closeStoppedCh, position]
      exact Reaches.single trivial taken
  | other taken _ => exact Reaches.single trivial taken

/-- Every run of the finer sender is one of the coarser sender, as long as the
close is guarded. -/
theorem reaches_of_run {state final : ClosingSender α} {schedule : List (Action α)}
    (guarded : Guarded state) (ran : run step state schedule = some final) :
    Guarded final ∧ Reaches HTTPSender.step (fun _ => True) state.sender final.sender := by
  have preserved : ∀ ⦃before : ClosingSender α⦄ ⦃action : Action α⦄ ⦃after : ClosingSender α⦄,
      Guarded before ∧ Reaches HTTPSender.step (fun _ => True) state.sender before.sender →
      before.step action = some after →
      Guarded after ∧ Reaches HTTPSender.step (fun _ => True) state.sender after.sender := by
    rintro before action after ⟨held, reached⟩ taken
    have moves := moves_of_step taken
    exact ⟨guarded_of_moves held moves, reached.trans (reaches_of_moves held moves)⟩
  exact invariant_of_run_of_forall preserved ⟨guarded, Reaches.refl _ _ _⟩ ran

end ClosingSender

/-! ## What is dispatched when `Stop` returns -/

namespace HTTPSender

variable [Inhabited α] {sender after : HTTPSender α} {action : Action α}

/-- What holds of a sender in every run. -/
structure Orderly (sender : HTTPSender α) : Prop where
  exclusive : Exclusive sender.lock sender.callers sender.loop
  flows : Flows sender
  deferred : sender.loop.Deferred → sender.stopCh = true
  done : sender.stoppedCh = true → sender.loop = .done

theorem orderly_create (batchSize : Int) : Orderly (create batchSize : HTTPSender α) where
  exclusive := exclusive_create batchSize
  flows := by simp [Flows, Flow, create, holderPc]
  deferred := by simp [create, LoopPc.Deferred]
  done := by simp [create]

theorem Orderly.of_moves (orderly : Orderly sender) (moves : Moves sender action after) :
    Orderly after where
  exclusive := exclusive_of_moves orderly.exclusive moves
  flows := flows_of_moves orderly.exclusive orderly.flows moves
  deferred := deferred_of_moves orderly.deferred moves
  done := stoppedCh_of_moves moves orderly.done

end HTTPSender

/-- The caller is in a `Stop` call that has closed `stopCh`. -/
def CallerPc.Closer : CallerPc α → Prop
  | .stopUnlock closed => closed = true
  | .wait => True
  | _ => False

namespace HTTPSender

variable [Inhabited α] {sender after : HTTPSender α} {action : Action α}

/-- Once `stopCh` is closed, no further `Stop` call closes it. -/
theorem not_closer_of_moves {id : Nat} (closed : sender.stopCh = true)
    (outside : ¬ (sender.callers id).Closer) (moves : Moves sender action after) :
    ¬ (after.callers id).Closer := by
  have move {other : Nat} {pc : CallerPc α} (fine : other = id → ¬ pc.Closer) :
      ¬ (Function.update sender.callers other pc id).Closer := by
    by_cases same : id = other
    · rw [same, Function.update_self]
      exact fine same.symm
    · rw [Function.update_of_ne same]
      exact outside
  cases moves with
  | stopClose _ isOpen =>
      rw [closed] at isOpen
      contradiction
  | @stopUnlock _ first position =>
      apply move
      rintro rfl
      cases first with
      | false => exact not_false
      | true =>
          rw [position] at outside
          exact absurd rfl outside
  | stopAgain => exact move fun _ => Bool.false_ne_true
  | callSend | callStop | sendLock | append | full | room | sendFlush | sendUnlock | stopLock
  | stopReturn => exact move fun _ => not_false
  | start | tick | quit | loopLock | loopFlush | loopUnlock | loopClose | deliver =>
      exact outside

/-- When the `Stop` call that closed `stopCh` can return, everything that was
accepted before it began is dispatched. -/
theorem dispatched_of_wait {before final : HTTPSender α} {id : Nat} (orderly : Orderly before)
    (outside : ¬ (before.callers id).Closer)
    (reaches : Reaches step (fun _ => True) before final)
    (waits : final.callers id = .wait) (stopped : final.stoppedCh = true) :
    before.accepted <+: final.dispatched.flatten := by
  cases closed : before.stopCh with
  | true =>
      have never : final.stopCh = true ∧ ¬ (final.callers id).Closer := by
        apply reaches.invariant _ ⟨closed, outside⟩
        rintro state action after ⟨still, apart⟩ _ taken
        have moves := moves_of_step taken
        exact ⟨stopCh_of_moves moves still, not_closer_of_moves still apart moves⟩
      rw [waits] at never
      exact absurd trivial never.2
  | false =>
      have unflushed : ¬ before.loop.Flushed := by
        intro flushed
        rw [orderly.deferred flushed.deferred] at closed
        contradiction
      have final : Orderly final ∧ Flushes before.accepted final := by
        apply reaches.invariant
        · rintro state action after ⟨orderly, flushes⟩ _ taken
          have moves := moves_of_step taken
          exact ⟨orderly.of_moves moves, flushes.of_moves orderly.exclusive orderly.flows moves⟩
        · exact ⟨orderly, List.prefix_rfl, fun flushed => absurd flushed unflushed⟩
      apply final.2.dispatched
      rw [final.1.done stopped]
      trivial

end HTTPSender

namespace ClosingSender

variable [Inhabited α]

/-- `Stop` is safe and dispatches everything.  Take any interleaving of `Send` and
`Stop` calls, ticks and deliveries on a sender that is started once.  No channel is
closed twice.  If from there on a goroutine calls `Stop`, closes `stopCh` in this
call and returns, then every line accepted before the call has been dispatched. -/
theorem stop_closes_once_and_dispatches {batchSize : Int} {schedule : List (Action α)}
    {state : ClosingSender α} (ran : run step (create batchSize) schedule = some state) :
    state.closes.Nodup ∧
      ∀ ⦃id : Nat⦄ ⦃during : List (Action α)⦄ ⦃waiting final : ClosingSender α⦄,
        state.sender.callers id = .idle →
        run step state (.stop id :: during) = some waiting →
        waiting.sender.callers id = .wait → waiting.step (.call id) = some final →
        final.sender.callers id = .stopped ∧
          state.sender.accepted <+: final.sender.dispatched.flatten := by
  obtain ⟨guarded, reached⟩ := reaches_of_run (guarded_create batchSize) ran
  refine ⟨guarded.once, ?_⟩
  intro id during waiting final idle continued waits returned
  have orderly : HTTPSender.Orderly state.sender := by
    apply reached.invariant
    · exact fun _ _ _ orderly _ taken => orderly.of_moves (HTTPSender.moves_of_step taken)
    · exact HTTPSender.orderly_create batchSize
  have outside : ¬ (state.sender.callers id).Closer := by
    rw [idle]
    exact not_false
  have reaches := (reaches_of_run guarded continued).2
  cases moves_of_step returned with
  | test position | close position =>
      rw [waits] at position
      contradiction
  | other taken _ =>
      cases HTTPSender.moves_of_step taken with
      | stopReturn _ stopped =>
          have dispatched := HTTPSender.dispatched_of_wait orderly outside reaches waits stopped
          exact ⟨HTTPSender.callers_goto_self _ _ _, dispatched⟩
      | sendLock position | append position | full position | room position
      | sendFlush position | sendUnlock position | stopLock position | stopAgain position
      | stopClose position | stopUnlock position =>
          rw [waits] at position
          contradiction

/-- A line waits in the batch when two goroutines call `Stop` at the same time. -/
theorem stop_closes_once_and_dispatches_two :
    ∃ state waiting final : ClosingSender String,
      run step (create 2) [.start, .send 0 "a", .call 0, .call 0, .call 0, .call 0] =
        some state ∧
      run step state [.stop 1, .stop 2, .call 1, .call 1, .call 1, .call 1, .call 2, .call 2,
        .call 2, .quit, .loop, .loop, .loop, .loop] = some waiting ∧
      waiting.step (.call 1) = some final ∧ state.sender.accepted = ["a"] ∧
      (state.closes.Nodup ∧ final.sender.callers 1 = .stopped ∧
        state.sender.accepted <+: final.sender.dispatched.flatten) := by
  have computed : ∃ state : ClosingSender String,
      run step (create 2) [.start, .send 0 "a", .call 0, .call 0, .call 0, .call 0] =
        some state ∧
      state.sender.accepted = ["a"] ∧ state.sender.callers 1 = .idle ∧
      ∃ waiting, run step state [.stop 1, .stop 2, .call 1, .call 1, .call 1, .call 1, .call 2,
          .call 2, .call 2, .quit, .loop, .loop, .loop, .loop] = some waiting ∧
        waiting.sender.callers 1 = .wait ∧
        ∃ final, waiting.step (.call 1) = some final :=
    ⟨_, rfl, rfl, rfl, _, rfl, rfl, _, rfl⟩
  obtain ⟨state, ran, accepted, idle, waiting, continued, waits, final, returned⟩ := computed
  obtain ⟨once, dispatches⟩ := stop_closes_once_and_dispatches ran
  exact ⟨state, waiting, final, ran, continued, returned, accepted, once,
    dispatches idle continued waits returned⟩

end ClosingSender

end Tailpost.Sender
