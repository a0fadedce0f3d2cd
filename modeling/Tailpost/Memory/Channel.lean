import Mathlib.Logic.Basic

/-!
# Buffered channels

A channel holds what was sent on it and not received yet, up to its capacity.  What was
received is kept as well, so that a channel shows everything that was ever sent on it.
-/

namespace Tailpost.Memory

universe u

/-- A channel, with a record of what was received from it. -/
structure Channel (α : Type u) where
  capacity : Nat
  received : List α
  held : List α

namespace Channel

variable {α : Type u}

/-- A channel that was just made. -/
def make (capacity : Nat) : Channel α :=
  ⟨capacity, [], []⟩

/-- A send that does not block. -/
def send (channel : Channel α) (value : α) : Option (Channel α) :=
  if channel.held.length < channel.capacity then
    some { channel with held := channel.held ++ [value] }
  else
    none

/-- A receive that does not block. -/
def receive (channel : Channel α) : Option (Channel α) :=
  match channel.held with
  | [] => none
  | value :: rest => some { channel with received := channel.received ++ [value], held := rest }

/-- A `select` with a `default` that does nothing. -/
def trySend (channel : Channel α) (value : α) : Channel α :=
  (channel.send value).getD channel

/-- Everything that was sent. -/
def sent (channel : Channel α) : List α :=
  channel.received ++ channel.held

variable {channel after : Channel α} {value : α}

theorem sent_send (done : channel.send value = some after) :
    after.sent = channel.sent ++ [value] := by
  unfold send at done
  split at done
  next =>
    cases done
    exact (List.append_assoc ..).symm
  next => contradiction

theorem sent_receive (done : channel.receive = some after) : after.sent = channel.sent := by
  unfold receive at done
  split at done
  next => contradiction
  next value rest held =>
    cases done
    simp only [sent, held, List.append_assoc, List.singleton_append]

theorem sent_trySend (channel : Channel α) (value : α) :
    (channel.trySend value).sent = channel.sent ++ [value] ∨
      (channel.trySend value).sent = channel.sent := by
  unfold trySend
  cases done : channel.send value with
  | none => exact .inr rfl
  | some after => exact .inl (sent_send done)

theorem capacity_send (done : channel.send value = some after) :
    after.capacity = channel.capacity := by
  unfold send at done
  split at done
  next =>
    cases done
    rfl
  next => contradiction

theorem capacity_trySend (channel : Channel α) (value : α) :
    (channel.trySend value).capacity = channel.capacity := by
  unfold trySend
  cases done : channel.send value with
  | none => rfl
  | some after => exact capacity_send done

theorem capacity_receive (done : channel.receive = some after) :
    after.capacity = channel.capacity := by
  unfold receive at done
  split at done
  next => contradiction
  next =>
    cases done
    rfl

end Channel

end Tailpost.Memory
