import Tailpost.Sender.Cancellation

/-!
# Full batches and the contexts of their requests

Two kinds of flush start a delivery.  The `SendWithContext` call that finds the batch
full passes its own context on, and `flushLoop` uses the background context.  Where
all calls bring the same context, the size of a batch tells which of the two contexts
its request has: `flushLoop` never finds a full batch, because the call that filled it
has flushed it before it gave the lock back.
-/

namespace Tailpost.Sender

open Tailpost.Transition

universe u

variable {α : Type u}

/-- What the call at this position knows about the size of the batch. -/
def CallerPc.Fills (batchSize : Int) (batch : List α) : CallerPc α → Prop
  | .flush => batchSize ≤ batch.length
  | _ => True

/-- The size of a batch agrees with the context of its request. -/
def Sized (calling : Context) (batchSize : Int) (context : Context) (logs : List α) : Prop :=
  context = calling ∧ logs.length = batchSize ∨
    context = .background ∧ logs.length < batchSize

/-- The contexts and the batches agree at every index. -/
theorem sized_at {calling : Context} {batchSize : Int} {contexts : List Context}
    {dispatched : List (List α)}
    (sized : List.Forall₂ (Sized calling batchSize) contexts dispatched) (index : Nat) :
    Option.Rel (Sized calling batchSize) contexts[index]? dispatched[index]? := by
  induction sized generalizing index with
  | nil => exact .none
  | cons first _ inductionHypothesis =>
      cases index with
      | zero => exact .some first
      | succ index => simpa using inductionHypothesis index

section Sizes

variable {calling : Context} {batchSize : Int} {contexts : List Context}
  {dispatched : List (List α)} {index : Nat}

/-- A request has the context of the calls exactly when its batch is full. -/
theorem context_iff_full (cancellable : calling ≠ .background)
    (sized : List.Forall₂ (Sized calling batchSize) contexts dispatched) :
    contexts[index]? = some calling ↔
      ∃ logs, dispatched[index]? = some logs ∧ logs.length = batchSize := by
  have related := sized_at sized index
  generalize contexts[index]? = context, dispatched[index]? = batch at related
  cases related with
  | none => simp
  | some first =>
      simp only [Option.some.injEq, exists_eq_left']
      rcases first with ⟨rfl, full⟩ | ⟨rfl, less⟩
      · simp [full]
      · exact iff_of_false cancellable.symm (Int.ne_of_lt less)

/-- It has the background context exactly when its batch is not full. -/
theorem background_iff_less (cancellable : calling ≠ .background)
    (sized : List.Forall₂ (Sized calling batchSize) contexts dispatched) :
    contexts[index]? = some .background ↔
      ∃ logs, dispatched[index]? = some logs ∧ logs.length < batchSize := by
  have related := sized_at sized index
  generalize contexts[index]? = context, dispatched[index]? = batch at related
  cases related with
  | none => simp
  | some first =>
      simp only [Option.some.injEq, exists_eq_left']
      rcases first with ⟨rfl, full⟩ | ⟨rfl, less⟩
      · exact iff_of_false cancellable (by omega)
      · simp [less]

end Sizes

namespace HTTPSender

theorem fills_update {batchSize : Int} {batch : List α} {callers : Nat → CallerPc α} {id : Nat}
    {pc : CallerPc α} (self : pc.Fills batchSize batch)
    (others : ∀ other ≠ id, (callers other).Fills batchSize batch) :
    ∀ other, (Function.update callers id pc other).Fills batchSize batch :=
  (Function.forall_update_iff callers fun _ pc => pc.Fills batchSize batch).mpr ⟨self, others⟩

/-- Outside of its critical section a call knows nothing about the batch. -/
theorem fills_of_outside {batchSize : Int} {batch : List α} {pc : CallerPc α}
    (outside : ¬ pc.Critical) : pc.Fills batchSize batch := by
  cases pc with
  | flush => exact absurd trivial outside
  | _ => trivial

variable [Inhabited α] {sender after : HTTPSender α} {action : Action α}

/-- A call is about to flush only while the batch is full. -/
theorem fills_of_moves (exclusive : Exclusive sender.lock sender.callers sender.loop)
    (fills : ∀ id, (sender.callers id).Fills sender.batchSize sender.batch)
    (moves : Moves sender action after) :
    ∀ id, (after.callers id).Fills after.batchSize after.batch := by
  -- the holder of the lock changes the batch, and everybody else is outside
  have alone {id : Nat} (critical : (sender.callers id).Critical) :
      ∀ other ≠ id, ∀ batch : List α, (sender.callers other).Fills sender.batchSize batch := by
    intro other apart batch
    apply fills_of_outside
    rw [exclusive.callers, (exclusive.callers id).mp critical]
    simpa using apart.symm
  cases moves with
  | full position full => exact fills_update full fun other _ => fills other
  | append position | sendFlush position =>
      exact fills_update trivial fun other apart =>
        alone (by rw [position]; trivial) other apart _
  | loopFlush position =>
      have held := exclusive.loop.mp (by rw [position]; trivial)
      intro id
      apply fills_of_outside
      rw [exclusive.callers, held]
      simp
  | callSend | callStop | sendLock | room | sendUnlock | stopLock | stopAgain | stopClose
  | stopReturn => exact fills_update trivial fun other _ => fills other
  | @stopUnlock id closed =>
      refine fills_update ?_ fun other _ => fills other
      cases closed <;> trivial
  | _ => exact fills

variable {calling : Context} {contexts : List Context}

/-- Every step keeps the sizes of the batches in agreement with the contexts. -/
theorem sized_of_moves (exclusive : Exclusive sender.lock sender.callers sender.loop)
    (partitions : sender.Partitions)
    (fills : ∀ id, (sender.callers id).Fills sender.batchSize sender.batch)
    (sized : List.Forall₂ (Sized calling sender.batchSize) contexts sender.dispatched)
    (moves : Moves sender action after) :
    List.Forall₂ (Sized calling after.batchSize)
      (contexts ++ sender.started (fun _ => calling) action) after.dispatched := by
  have room := partitions.room
  rw [batchSize_of_moves moves]
  apply related_of_moves sized _ _ moves
  · intro id position _
    have full := fills id
    rw [position] at full
    rw [(holderPc_of_critical exclusive position trivial).2] at room
    left
    refine ⟨rfl, ?_⟩
    simp only [slack, CallerPc.Fills, batch] at room full ⊢
    omega
  · intro deferred position _
    rw [(holderPc_of_loop exclusive (by rw [position]; trivial)).2] at room
    right
    exact ⟨rfl, by simpa [slack] using room⟩

end HTTPSender

end Tailpost.Sender
