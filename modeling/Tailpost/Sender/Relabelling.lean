import Tailpost.Sender.Cancellation

/-!
# Senders do not look at their lines

A sender moves its lines around and counts them, and nothing else.  So replacing every
line by another one, in the batch, in its copies and in the calls, replaces them in every
later state and changes no step.
-/

namespace Tailpost.Sender

open Tailpost.Memory

universe u v

variable {α : Type u} {β : Type v} {f : α → β}

/-! ## Batches -/

namespace Batches

theorem eq_of_parts {first second : Batches α} (heap : first.heap = second.heap)
    (batch : first.batch = second.batch) (deliveries : first.deliveries = second.deliveries) :
    first = second := by
  cases first
  cases second
  simp_all

/-- The same batches with other lines. -/
def map (f : α → β) (batches : Batches α) : Batches β where
  heap := batches.heap.map f
  batch := batches.batch
  deliveries := batches.deliveries
  batch_valid := Heap.valid_map.mpr batches.batch_valid
  logs_valid delivery member := Heap.valid_map.mpr (batches.logs_valid delivery member)
  separate := batches.separate

theorem append_map (batches : Batches α) (line : α) :
    (batches.map f).append (f line) = (batches.append line).map f := by
  apply eq_of_parts
  · exact congrArg Prod.fst (Heap.append_map _ _ _)
  · exact congrArg Prod.snd (Heap.append_map _ _ _)
  · rfl

variable [Inhabited α] [Inhabited β]

theorem empty_map (blank : f default = default) (capacity : Nat) :
    (empty capacity).map f = empty capacity := by
  apply eq_of_parts
  · simp [map, empty, Heap.map, Heap.make, Heap.allocate, blank]
  · rfl
  · rfl

theorem flushLockedWithContext_map (blank : f default = default) (batches : Batches α) :
    (batches.map f).flushLockedWithContext = batches.flushLockedWithContext.map f := by
  by_cases empty : batches.batch.length = 0
  · have emptyMap : (batches.map f).batch.length = 0 := empty
    rw [flushLockedWithContext, flushLockedWithContext, if_pos empty, if_pos emptyMap]
  · have fullMap : ¬ (batches.map f).batch.length = 0 := empty
    have copied := Heap.clone_map blank batches.heap batches.batch
    rw [flushLockedWithContext, flushLockedWithContext, if_neg empty, if_neg fullMap]
    apply eq_of_parts
    · exact congrArg Prod.fst copied
    · rfl
    · exact congrArg (fun copy => batches.deliveries ++ [⟨copy.2, false⟩]) copied

end Batches

/-! ## Goroutines -/

/-- The same place in a call with another line. -/
def CallerPc.map (f : α → β) : CallerPc α → CallerPc β
  | .idle => .idle
  | .sendLock line => .sendLock (f line)
  | .append line => .append (f line)
  | .check => .check
  | .flush => .flush
  | .sendUnlock => .sendUnlock
  | .stopLock => .stopLock
  | .select => .select
  | .stopUnlock closed => .stopUnlock closed
  | .wait => .wait
  | .stopped => .stopped

/-- The same action with another line. -/
def Action.map (f : α → β) : Action α → Action β
  | .start => .start
  | .send id line => .send id (f line)
  | .stop id => .stop id
  | .call id => .call id
  | .tick => .tick
  | .quit => .quit
  | .loop => .loop
  | .deliver index => .deliver index

namespace HTTPSender

/-- The same sender with other lines. -/
def map (f : α → β) (sender : HTTPSender α) : HTTPSender β where
  batchSize := sender.batchSize
  batches := sender.batches.map f
  lock := sender.lock
  stopCh := sender.stopCh
  stoppedCh := sender.stoppedCh
  callers id := (sender.callers id).map f
  loop := sender.loop
  accepted := sender.accepted.map f

theorem goto_map (sender : HTTPSender α) (id : Nat) (pc : CallerPc α) :
    (sender.map f).goto id (pc.map f) = (sender.goto id pc).map f := by
  simp only [goto, map]
  congr 1
  funext other
  exact (Function.apply_update (fun _ => CallerPc.map f) sender.callers id pc other).symm

theorem stop_map (sender : HTTPSender α) (id : Nat) :
    (sender.map f).stop id = (sender.stop id).map (map f) := by
  have place : (sender.map f).callers id = (sender.callers id).map f := rfl
  rw [stop, stop, place]
  cases sender.callers id with
  | stopLock =>
      have same : (sender.map f).lock = sender.lock := rfl
      simp only [CallerPc.map, same]
      split
      · exact congrArg some (goto_map { sender with lock := some (.caller id) } id .select)
      · rfl
  | select =>
      have same : (sender.map f).stopCh = sender.stopCh := rfl
      simp only [CallerPc.map, same]
      split
      · exact congrArg some (goto_map sender id (.stopUnlock false))
      · exact congrArg some (goto_map { sender with stopCh := true } id (.stopUnlock true))
  | stopUnlock closed =>
      cases closed with
      | true => exact congrArg some (goto_map { sender with lock := none } id .wait)
      | false => exact congrArg some (goto_map { sender with lock := none } id .stopped)
  | wait =>
      have same : (sender.map f).stoppedCh = sender.stoppedCh := rfl
      simp only [CallerPc.map, same]
      split
      · exact congrArg some (goto_map sender id .stopped)
      · rfl
  | _ => rfl

/-- The contexts of the requests do not depend on the lines. -/
theorem started_map (sender : HTTPSender α) (calling : Nat → Context) (action : Action α) :
    (sender.map f).started calling (action.map f) = sender.started calling action := by
  cases action with
  | call id =>
      have place : (sender.map f).callers id = (sender.callers id).map f := rfl
      simp only [Action.map, started, place]
      cases sender.callers id <;> rfl
  | _ => rfl

variable [Inhabited α] [Inhabited β]

theorem create_map (blank : f default = default) (batchSize : Int) :
    (create batchSize).map f = create batchSize := by
  simp only [map, create, Batches.empty_map blank]
  rfl

theorem sendWithContext_map (blank : f default = default) (sender : HTTPSender α) (id : Nat) :
    (sender.map f).sendWithContext id = (sender.sendWithContext id).map (map f) := by
  have place : (sender.map f).callers id = (sender.callers id).map f := rfl
  rw [sendWithContext, sendWithContext, place]
  cases sender.callers id with
  | sendLock line =>
      have same : (sender.map f).lock = sender.lock := rfl
      simp only [CallerPc.map, same]
      split
      · have taken := goto_map (f := f) { sender with
          lock := some (.caller id)
          accepted := sender.accepted ++ [line] } id (.append line)
        simp only [map, List.map_append] at taken
        exact congrArg some taken
      · rfl
  | append line =>
      have added := goto_map (f := f)
        { sender with batches := sender.batches.append line } id .check
      simp only [map, ← Batches.append_map] at added
      exact congrArg some added
  | check =>
      have size : (sender.map f).batchSize = sender.batchSize := rfl
      have batch : (sender.map f).batches.batch = sender.batches.batch := rfl
      simp only [CallerPc.map, size, batch]
      split
      · exact congrArg some (goto_map sender id .flush)
      · exact congrArg some (goto_map sender id .sendUnlock)
  | flush =>
      have flushed := goto_map (f := f) { sender with
        batches := sender.batches.flushLockedWithContext } id .sendUnlock
      simp only [map, ← Batches.flushLockedWithContext_map blank] at flushed
      exact congrArg some flushed
  | sendUnlock => exact congrArg some (goto_map { sender with lock := none } id .idle)
  | _ => rfl

theorem flushLoop_map (blank : f default = default) (sender : HTTPSender α) :
    (sender.map f).flushLoop = sender.flushLoop.map (map f) := by
  have place : (sender.map f).loop = sender.loop := rfl
  rw [flushLoop, flushLoop, place]
  cases sender.loop with
  | lock deferred =>
      have same : (sender.map f).lock = sender.lock := rfl
      simp only [same]
      split <;> rfl
  | flush deferred =>
      simp only [map, Batches.flushLockedWithContext_map blank, Option.map_some]
  | _ => rfl

/-- A step does with the other lines what it does with the given ones. -/
theorem step_map (blank : f default = default) (sender : HTTPSender α) (action : Action α) :
    (sender.map f).step (action.map f) = (sender.step action).map (map f) := by
  cases action with
  | start =>
      have same : (sender.map f).loop = sender.loop := rfl
      simp only [Action.map, step, same]
      split <;> rfl
  | send id line =>
      have place : (sender.map f).callers id = (sender.callers id).map f := rfl
      simp only [Action.map, step, place]
      cases sender.callers id with
      | idle => exact congrArg some (goto_map sender id (.sendLock line))
      | _ => rfl
  | stop id =>
      have place : (sender.map f).callers id = (sender.callers id).map f := rfl
      simp only [Action.map, step, place]
      cases sender.callers id with
      | idle => exact congrArg some (goto_map sender id .stopLock)
      | _ => rfl
  | call id =>
      simp only [Action.map, step, sendWithContext_map blank, stop_map]
      cases sender.sendWithContext id <;> rfl
  | tick =>
      have same : (sender.map f).loop = sender.loop := rfl
      simp only [Action.map, step, same]
      split <;> rfl
  | quit =>
      have place : (sender.map f).loop = sender.loop := rfl
      have same : (sender.map f).stopCh = sender.stopCh := rfl
      simp only [Action.map, step, place, same]
      split <;> rfl
  | loop => exact flushLoop_map blank sender
  | deliver index =>
      have same : (sender.map f).batches.deliveries = sender.batches.deliveries := rfl
      simp only [Action.map, step, same]
      rcases sender.batches.deliveries[index]? with _ | ⟨logs, _ | _⟩ <;> rfl

end HTTPSender

end Tailpost.Sender
