import Mathlib.Data.List.Infix
import Tailpost.Transition.Core

/-!
# A relay

What an agent is for, without its goroutines: lines come in, and batches of them go
out.  A batch takes the lines that come next, at least one of them and at most as many
as the limit allows; nothing is skipped, repeated or put in another order.
-/

namespace Tailpost.Agent

open Tailpost.Transition

universe u

variable {α : Type u}

/-- The lines that have come in, and the batches that have gone out. -/
structure Relay (α : Type u) where
  source : List α
  batches : List (List α)
  deriving DecidableEq

namespace Relay

/-- Nothing has come in. -/
def empty : Relay α :=
  ⟨[], []⟩

/-- The lines that have come in and not gone out. -/
def pending (relay : Relay α) : List α :=
  relay.source.drop relay.batches.flatten.length

/-- What a relay does. -/
inductive Action (α : Type u)
  /-- Lines come in. -/
  | write (lines : List α)
  /-- The next lines go out as one batch. -/
  | dispatch (count : Nat)

/-- One step of a relay with a limit on the size of its batches. -/
def step (limit : Nat) (relay : Relay α) : Action α → Option (Relay α)
  | .write lines => some { relay with source := relay.source ++ lines }
  | .dispatch count =>
      if 0 < count ∧ count ≤ limit ∧ count ≤ relay.pending.length then
        some { relay with batches := relay.batches ++ [relay.pending.take count] }
      else
        none

/-- What holds in every state of a relay. -/
structure Orderly (limit : Nat) (relay : Relay α) : Prop where
  front : relay.batches.flatten <+: relay.source
  sizes : ∀ batch ∈ relay.batches, batch ≠ [] ∧ batch.length ≤ limit

theorem orderly_empty (limit : Nat) : Orderly limit (empty : Relay α) :=
  ⟨List.nil_prefix, by simp [empty]⟩

theorem Orderly.step {limit : Nat} {relay after : Relay α} {action : Action α}
    (orderly : Orderly limit relay) (taken : relay.step limit action = some after) :
    Orderly limit after := by
  cases action with
  | write lines =>
      cases taken
      exact ⟨orderly.front.trans (List.prefix_append _ _), orderly.sizes⟩
  | dispatch count =>
      simp only [Relay.step] at taken
      split at taken
      next enabled =>
        rcases enabled with ⟨positive, within, available⟩
        cases taken
        rcases orderly.front with ⟨rest, split⟩
        have pending : relay.pending = rest := by
          rw [Relay.pending, ← split, List.drop_left]
        rw [pending] at available
        refine ⟨?_, ?_⟩
        · rw [List.flatten_append, List.flatten_singleton, pending, ← split]
          exact (List.prefix_append_right_inj _).mpr (List.take_prefix count rest)
        · simp only [List.mem_append, List.mem_singleton]
          rintro batch (earlier | rfl)
          · exact orderly.sizes batch earlier
          · rw [pending, ← List.length_pos_iff, List.length_take, Nat.min_eq_left available]
            exact ⟨positive, within⟩
      next => contradiction

/-- Whatever comes in and goes out, a relay that started empty is orderly. -/
theorem orderly_of_reaches {limit : Nat} {relay : Relay α}
    (reaches : Reaches (Relay.step limit) (fun _ => True) .empty relay) : Orderly limit relay :=
  reaches.invariant (fun _ _ _ orderly _ taken => orderly.step taken) (orderly_empty limit)

/-- Every batch that fits, and that carries the lines that come next, can go out. -/
theorem step_dispatch {limit : Nat} {relay : Relay α} {batch : List α} (something : batch ≠ [])
    (within : batch.length ≤ limit) (next : (relay.batches ++ [batch]).flatten <+: relay.source) :
    relay.step limit (.dispatch batch.length) =
      some { relay with batches := relay.batches ++ [batch] } := by
  rcases next with ⟨rest, split⟩
  rw [List.flatten_append, List.flatten_singleton, List.append_assoc] at split
  have pending : relay.pending = batch ++ rest := by
    rw [Relay.pending, ← split, List.drop_left]
  have enabled : 0 < batch.length ∧ batch.length ≤ limit ∧
      batch.length ≤ relay.pending.length := by
    rw [pending, List.length_append]
    exact ⟨List.length_pos_iff.mpr something, within, Nat.le_add_right _ _⟩
  rw [Relay.step, if_pos enabled, pending, List.take_left]

end Relay

end Tailpost.Agent
