import Tailpost.Sender.Batching

/-!
# Stopping the sender

`Stop` waits for `flushLoop`, and `flushLoop` flushes the batch before it closes
`stoppedCh`.  A flush only starts the goroutine that delivers the batch, so
`Stop` does not wait for any delivery.
-/

namespace Tailpost.Sender

open Tailpost.Transition

universe u

variable {α : Type u}

/-- The lock is free when nobody is in a critical section. -/
theorem HTTPSender.lock_eq_none {sender : HTTPSender α}
    (exclusive : Exclusive sender.lock sender.callers sender.loop)
    (callersOutside : ∀ id, ¬ (sender.callers id).Critical)
    (loopOutside : ¬ sender.loop.Critical) : sender.lock = none := by
  cases held : sender.lock with
  | none => rfl
  | some holder =>
      cases holder with
      | caller id => exact absurd ((exclusive.callers id).mpr held) (callersOutside id)
      | flushLoop => exact absurd (exclusive.loop.mpr held) loopOutside

/-- The steps of one `Stop` call and of `flushLoop` on its way out. -/
def Action.Stops (id : Nat) : Action α → Prop
  | .call other => other = id
  | .quit | .loop => True
  | _ => False

theorem Action.quiet_of_eq_loop {action : Action α} (isLoop : action = .loop) : action.Quiet := by
  rw [isLoop]
  trivial

theorem Action.Stops.quiet {id : Nat} {action : Action α} (stops : action.Stops id) :
    action.Quiet := by
  cases action with
  | send => exact stops
  | _ => trivial

variable [Inhabited α]

namespace Batches

theorem flushLockedWithContext_idem (batches : Batches α) :
    batches.flushLockedWithContext.flushLockedWithContext = batches.flushLockedWithContext :=
  flushLockedWithContext_of_nil (lines_flushLockedWithContext batches)

/-- Right after a flush everything is delivered only if there was nothing to
flush. -/
theorem delivered_flushLockedWithContext {batches : Batches α} :
    batches.flushLockedWithContext.Delivered ↔ batches.lines = [] ∧ batches.Delivered := by
  by_cases nothing : batches.lines = []
  · rw [flushLockedWithContext_of_nil nothing]
    simp [nothing]
  · rcases deliveries_flushLockedWithContext nothing with ⟨logs, appended⟩
    simp [Delivered, appended, nothing]

end Batches

/-- `flushLoop` has left its `select` for good. -/
def LoopPc.Deferred : LoopPc → Prop
  | .lock deferred | .flush deferred | .unlock deferred => deferred = true
  | .close | .done => True
  | _ => False

/-- `flushLoop` has made its last flush. -/
def LoopPc.Flushed : LoopPc → Prop
  | .unlock deferred => deferred = true
  | .close | .done => True
  | _ => False

theorem LoopPc.Flushed.deferred {loop : LoopPc} (flushed : loop.Flushed) : loop.Deferred := by
  cases loop with
  | unlock | close | done => exact flushed
  | _ => contradiction

/-- The caller is in `SendWithContext`. -/
def CallerPc.Sends : CallerPc α → Prop
  | .sendLock _ | .append _ | .check | .flush | .sendUnlock => True
  | _ => False

namespace HTTPSender

/-- `flushLoop` leaves its `select` for good only after `stopCh` was closed. -/
theorem deferred_of_moves {sender after : HTTPSender α} {action : Action α}
    (deferred : sender.loop.Deferred → sender.stopCh = true)
    (moves : Moves sender action after) :
    after.loop.Deferred → after.stopCh = true := by
  cases moves with
  | quit _ closed =>
      intro _
      exact closed
  | stopClose =>
      intro _
      rfl
  | start | tick => simp [LoopPc.Deferred]
  | loopLock position | loopFlush position =>
      simpa [position, LoopPc.Deferred] using deferred
  | loopClose position =>
      intro _
      exact deferred (by simp [position, LoopPc.Deferred])
  | @loopUnlock last position =>
      cases last with
      | false => simp [LoopPc.Deferred]
      | true => simpa [position, LoopPc.Deferred] using deferred
  | _ => exact deferred

section Loop

variable {sender after : HTTPSender α} {action : Action α} {id : Nat}

/-- `flushLoop` does not come back once it is done. -/
theorem loop_done_of_moves (moves : Moves sender action after)
    (done : sender.loop = .done) : after.loop = .done := by
  cases moves with
  | start position | tick position | quit position _ | loopLock position _
  | loopFlush position | loopUnlock position =>
      rw [done] at position
      contradiction
  | loopClose => rfl
  | _ => exact done

/-- Only `flushLoop` closes `stoppedCh`, and it does so last. -/
theorem stoppedCh_of_moves (moves : Moves sender action after)
    (closed : sender.stoppedCh = true → sender.loop = .done) :
    after.stoppedCh = true → after.loop = .done := by
  intro closedAfter
  cases moves with
  | loopClose => rfl
  | start position | tick position | quit position _ | loopLock position _
  | loopFlush position | loopUnlock position =>
      rw [closed closedAfter] at position
      contradiction
  | _ => exact closed closedAfter

theorem started_of_moves (moves : Moves sender action after)
    (started : sender.loop ≠ .notStarted) : after.loop ≠ .notStarted := by
  cases moves with
  | start | tick | quit | loopLock | loopFlush | loopClose => exact LoopPc.noConfusion
  | @loopUnlock deferred _ => cases deferred <;> exact LoopPc.noConfusion
  | _ => exact started

/-- Lines are only added to the accepted ones and to the dispatched ones. -/
theorem isPrefix_of_moves (moves : Moves sender action after) :
    sender.accepted <+: after.accepted ∧
      sender.dispatched.flatten <+: after.dispatched.flatten := by
  have flushed := sender.batches.flatten_dispatched_flushLockedWithContext
  cases moves with
  | sendLock => exact ⟨List.prefix_append _ _, List.prefix_rfl⟩
  | @append _ line =>
      have same := congrArg List.flatten (sender.batches.dispatched_append line)
      exact ⟨List.prefix_rfl, [], (List.append_nil _).trans same.symm⟩
  | sendFlush => exact ⟨List.prefix_rfl, ⟨_, flushed.symm⟩⟩
  | loopFlush => exact ⟨List.prefix_rfl, ⟨_, flushed.symm⟩⟩
  | @deliver index =>
      have same := congrArg List.flatten (sender.batches.dispatched_finish index)
      exact ⟨List.prefix_rfl, [], (List.append_nil _).trans same.symm⟩
  | _ => exact ⟨List.prefix_rfl, List.prefix_rfl⟩

/-- Lines that were accepted are dispatched once the last flush is made. -/
structure Flushes (lines : List α) (sender : HTTPSender α) : Prop where
  accepted : lines <+: sender.accepted
  dispatched : sender.loop.Flushed → lines <+: sender.dispatched.flatten

theorem Flushes.of_moves {lines : List α} (flushes : Flushes lines sender)
    (exclusive : Exclusive sender.lock sender.callers sender.loop) (flows : sender.Flows)
    (moves : Moves sender action after) : Flushes lines after := by
  obtain ⟨moreAccepted, moreDispatched⟩ := isPrefix_of_moves moves
  constructor
  case accepted => exact flushes.accepted.trans moreAccepted
  case dispatched =>
    intro flushed
    cases moves with
    | start | tick | quit | loopLock => contradiction
    | loopFlush position =>
        -- `flushLoop` holds the lock, so every accepted line is in the batch by now
        have critical : sender.loop.Critical := by
          rw [position]
          trivial
        rw [Flows, Flow, (holderPc_of_loop exclusive critical).2, entering_none,
          List.append_nil] at flows
        have all := flushes.accepted
        rw [← flows, ← Batches.flatten_dispatched_flushLockedWithContext] at all
        exact all
    | @loopUnlock deferred position =>
        cases deferred with
        | false => contradiction
        | true => exact flushes.dispatched (by rw [position]; rfl)
    | loopClose position => exact flushes.dispatched (by rw [position]; trivial)
    | _ => exact (flushes.dispatched flushed).trans moreDispatched

/-- A call of one goroutine leaves the others and `flushLoop` where they are. -/
theorem frame_of_call (moves : Moves sender (.call id) after) :
    (∀ other, other ≠ id → after.callers other = sender.callers other) ∧
      after.loop = sender.loop := by
  cases moves with
  | _ => exact ⟨fun other ne => Function.update_of_ne ne _ _, rfl⟩

end Loop

/-! ## One way to stop -/

/-- A tick that is being served ends, and `flushLoop` is back at its `select`. -/
theorem reaches_select {sender : HTTPSender α}
    (exclusive : Exclusive sender.lock sender.callers sender.loop)
    (outside : ∀ id, ¬ (sender.callers id).Critical)
    (started : sender.loop ≠ .notStarted) (serving : ¬ sender.loop.Deferred) :
    ∃ batches, batches.flushLockedWithContext = sender.batches.flushLockedWithContext ∧
      Reaches step (· = .loop) sender
        { sender with batches, lock := none, loop := .select } := by
  have free := lock_eq_none exclusive outside
  rcases sender with ⟨batchSize, batches, lock, stopCh, stoppedCh, callers, loop, accepted⟩
  cases loop with
  | notStarted => contradiction
  | select =>
      cases free (by simp [LoopPc.Critical])
      exact ⟨batches, rfl, Reaches.refl _ _ _⟩
  | lock deferred =>
      cases free (by simp [LoopPc.Critical])
      cases deferred with
      | true => exact absurd rfl serving
      | false =>
          exact ⟨_, batches.flushLockedWithContext_idem, [.loop, .loop, .loop],
            by simp, rfl⟩
  | flush deferred =>
      cases deferred with
      | true => exact absurd rfl serving
      | false => exact ⟨_, batches.flushLockedWithContext_idem, [.loop, .loop], by simp, rfl⟩
  | unlock deferred =>
      cases deferred with
      | true => exact absurd rfl serving
      | false => exact ⟨batches, rfl, [.loop], by simp, rfl⟩
  | close | done => exact absurd trivial serving

/-- `Stop` returns without waiting for a delivery. -/
theorem reaches_stopped {sender : HTTPSender α} {id : Nat}
    (position : sender.callers id = .stopLock) (free : sender.lock = none)
    (select : sender.loop = .select) (isOpen : sender.stopCh = false) :
    Reaches step (Action.Stops id) sender
      ({ sender with
        batches := sender.batches.flushLockedWithContext
        stopCh := true
        stoppedCh := true
        loop := .done }.goto id .stopped) := by
  refine ⟨[.call id, .call id, .call id, .quit, .loop, .loop, .loop, .loop, .call id],
    by simp [Action.Stops], ?_⟩
  simp [run, step, sendWithContext, stop, flushLoop, goto, position, free, select, isOpen]

/-! ## What `Stop` guarantees -/

/-- When a call of `Stop` returns, no batch is waiting to be sent and no delivery
is in flight, provided nobody calls `Send` any more. -/
def StopFlushes (sender : HTTPSender α) : Prop :=
  ∀ ⦃final : HTTPSender α⦄ ⦃id : Nat⦄, Reaches step Action.Quiet sender final →
    final.callers id = .stopped → final.batch = [] ∧ final.batches.Delivered

/-- Nothing is left to send, and nobody sends. -/
structure Drained (sender : HTTPSender α) : Prop where
  batch : sender.batch = []
  delivered : sender.batches.Delivered
  callers : ∀ id, ¬ (sender.callers id).Sends

theorem drained_of_moves {sender after : HTTPSender α} {action : Action α}
    (drained : Drained sender) (quiet : action.Quiet) (moves : Moves sender action after) :
    Drained after := by
  have move {id : Nat} {pc : CallerPc α} (outside : ¬ pc.Sends) :
      ∀ other, ¬ (Function.update sender.callers id pc other).Sends :=
    (Function.forall_update_iff sender.callers fun _ pc => ¬ pc.Sends).mpr
      ⟨outside, fun other _ => drained.callers other⟩
  cases moves with
  | callSend => contradiction
  | @sendLock id _ position | @append id _ position | @full id position _
  | @room id position _ | @sendFlush id position | @sendUnlock id position =>
      exact absurd (by simp [position, CallerPc.Sends]) (drained.callers id)
  | callStop | stopLock | stopAgain | stopClose | stopReturn =>
      exact ⟨drained.batch, drained.delivered, move id⟩
  | @stopUnlock _ closed _ =>
      exact ⟨drained.batch, drained.delivered, move (by cases closed <;> exact id)⟩
  | loopFlush =>
      have same := Batches.flushLockedWithContext_of_nil drained.batch
      exact ⟨by rw [batch, same]; exact drained.batch, by rw [same]; exact drained.delivered,
        drained.callers⟩
  | deliver => exact ⟨drained.batch, drained.delivered.finish _, drained.callers⟩
  | _ => exact ⟨drained.batch, drained.delivered, drained.callers⟩

theorem deferred_of_run {batchSize : Int} {schedule : List (Action α)}
    {sender : HTTPSender α} (ran : run step (create batchSize) schedule = some sender) :
    sender.loop.Deferred → sender.stopCh = true := by
  have preserved : ∀ ⦃before : HTTPSender α⦄ ⦃action : Action α⦄ ⦃after : HTTPSender α⦄,
      (before.loop.Deferred → before.stopCh = true) → before.step action = some after →
      after.loop.Deferred → after.stopCh = true :=
    fun _ _ _ deferred taken => deferred_of_moves deferred (moves_of_step taken)
  exact invariant_of_run_of_forall preserved (by simp [create, LoopPc.Deferred]) ran

/-- Let every `Send` call of a started sender have returned.  Whatever `Stop`
and the other goroutines do from there on, nothing is left when `Stop` returns,
exactly if nothing is left already. -/
theorem stopFlushes_iff {batchSize : Int} {before : List (Action α)}
    {sender : HTTPSender α} (ran : run step (create batchSize) before = some sender)
    (started : sender.loop ≠ .notStarted) (running : sender.stopCh = false)
    (returned : ∀ id, sender.callers id = .idle) :
    StopFlushes sender ↔ sender.batch = [] ∧ sender.batches.Delivered := by
  constructor
  · intro flushes
    have serving : ¬ sender.loop.Deferred := by
      intro deferred
      rw [deferred_of_run ran deferred] at running
      contradiction
    have outside : ∀ id, ¬ (sender.callers id).Critical := by
      intro id
      rw [returned id]
      exact not_false
    rcases reaches_select (exclusive_of_run ran) outside started serving with
      ⟨batches, same, served⟩
    have called : step { sender with batches, lock := none, loop := .select } (.stop 0) =
        some ({ sender with batches, lock := none, loop := .select }.goto 0 .stopLock) := by
      simp [step, returned 0]
    have stops := (reaches_stopped (by simp [goto]) rfl rfl running :
      Reaches step (Action.Stops 0)
        ({ sender with batches, lock := none, loop := .select }.goto 0 .stopLock) _)
    have path := (served.mono fun _ => Action.quiet_of_eq_loop).trans
      ((Reaches.single trivial called).trans (stops.mono fun _ => Action.Stops.quiet))
    rcases flushes path (callers_goto_self _ 0 _) with ⟨_, delivered⟩
    rw [← Batches.delivered_flushLockedWithContext, ← same]
    exact delivered
  · rintro ⟨nothing, delivered⟩ final id reaches _
    have drained : Drained final := by
      apply reaches.invariant
      · intro state action after drained quiet taken
        exact drained_of_moves drained quiet (moves_of_step taken)
      · refine ⟨nothing, delivered, ?_⟩
        intro other
        rw [returned other]
        exact not_false
    exact ⟨drained.batch, drained.delivered⟩

/-- A line was sent and its batch delivered before `Stop` is called. -/
theorem stopFlushes_iff_delivered :
    ∃ sender final : HTTPSender String,
      run step (create 1)
        [.start, .send 0 "a", .call 0, .call 0, .call 0, .call 0, .call 0, .deliver 0] =
        some sender ∧
      sender.accepted = ["a"] ∧ sender.dispatched = [["a"]] ∧ StopFlushes sender ∧
      run step sender
        [.stop 1, .call 1, .call 1, .call 1, .quit, .loop, .loop, .loop, .loop, .call 1] =
        some final ∧
      final.callers 1 = .stopped ∧ final.batch = [] ∧ final.batches.Delivered := by
  obtain ⟨sender, final, ran, accepted, dispatched, started, running, returned, nothing, delivered,
      stops, quiet, stopped⟩ : ∃ sender final : HTTPSender String,
      run step (create 1)
        [.start, .send 0 "a", .call 0, .call 0, .call 0, .call 0, .call 0, .deliver 0] =
        some sender ∧
      sender.accepted = ["a"] ∧ sender.dispatched = [["a"]] ∧ sender.loop ≠ .notStarted ∧
      sender.stopCh = false ∧ (∀ id, sender.callers id = .idle) ∧ sender.batch = [] ∧
      sender.batches.Delivered ∧
      run step sender
        [.stop 1, .call 1, .call 1, .call 1, .quit, .loop, .loop, .loop, .loop, .call 1] =
        some final ∧
      (∀ action ∈ ([.stop 1, .call 1, .call 1, .call 1, .quit, .loop, .loop, .loop, .loop,
        .call 1] : List (Action String)), action.Quiet) ∧ final.callers 1 = .stopped := by
    refine ⟨_, _, rfl, rfl, rfl, LoopPc.noConfusion, rfl, ?_, rfl, ?_, rfl, ?_, rfl⟩
    · simp [goto, create]
    · intro delivery member
      cases List.mem_singleton.mp member
      rfl
    · simp [Action.Quiet]
  have flushes := (stopFlushes_iff ran started running returned).mpr ⟨nothing, delivered⟩
  exact ⟨sender, final, ran, accepted, dispatched, flushes, stops, stopped,
    flushes ⟨_, quiet, stops⟩ stopped⟩

/-- One line is sent with batch size one.  `Stop` returns while the delivery of
its batch is in flight. -/
theorem stop_abandons_delivery :
    ∃ sender final : HTTPSender String,
      run step (newHTTPSender 1)
        [.start, .send 0 "a", .call 0, .call 0, .call 0, .call 0, .call 0] = some sender ∧
      sender.accepted = ["a"] ∧ (∀ id, sender.callers id = .idle) ∧
      run step sender
        [.stop 1, .call 1, .call 1, .call 1, .quit, .loop, .loop, .loop, .loop, .call 1] =
        some final ∧
      final.callers 1 = .stopped ∧ final.dispatched = [["a"]] ∧
      ¬ final.batches.Delivered := by
  refine ⟨_, _, rfl, rfl, ?_, rfl, rfl, rfl, ?_⟩
  · simp [goto, newHTTPSender, create]
  · intro delivered
    have done := delivered _ (List.mem_singleton.mpr rfl)
    contradiction

end HTTPSender

end Tailpost.Sender
