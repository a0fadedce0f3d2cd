import Mathlib.Logic.Function.Basic
import Tailpost.Memory.Slice
import Tailpost.Transition.Core

/-!
# The HTTP sender

Any number of goroutines call `Send`, `flushLoop` runs in a goroutine of its
own, and `Stop` may be called from anywhere.  They share `batch` under a mutex.
`flushLockedWithContext` copies the batch into an array of its own, cuts the
batch back to length zero while keeping its array, and starts a goroutine that
calls `sendBatchWithContext` on the copy.

Every access to the shared state is one step, so the goroutines interleave
between any two of them.  What a delivery goroutine does with the server is one
step as well: it takes arbitrarily long and ends with success or an error.  The
texts of the lines play no role and are kept abstract.

`accepted` is not in the source.  It records the lines in the order in which
their `Send` calls took the lock.
-/

namespace Tailpost.Sender

open Tailpost.Memory
open Tailpost.Transition

universe u

variable {α : Type u}

/-! ## The batch and its copies -/

/-- A goroutine started by `flushLockedWithContext`, and whether its call of
`sendBatchWithContext` has returned. -/
structure Delivery where
  logs : Slice
  done : Bool
  deriving DecidableEq

/-- The batch under construction and the batches handed to goroutines so far, in
dispatch order.  No copy shares its array with the batch. -/
structure Batches (α : Type u) where
  heap : Heap α
  batch : Slice
  deliveries : List Delivery
  batch_valid : heap.Valid batch
  logs_valid : ∀ delivery ∈ deliveries, heap.Valid delivery.logs
  separate : ∀ delivery ∈ deliveries, delivery.logs.address ≠ batch.address

namespace Batches

/-- The lines of the batch under construction. -/
def lines (batches : Batches α) : List α :=
  batches.heap.contents batches.batch

/-- The batches handed to goroutines, as their arrays show them now. -/
def dispatched (batches : Batches α) : List (List α) :=
  batches.deliveries.map fun delivery => batches.heap.contents delivery.logs

/-- Every delivery attempt has ended. -/
def Delivered (batches : Batches α) : Prop :=
  ∀ delivery ∈ batches.deliveries, delivery.done = true

theorem batch_length (batches : Batches α) :
    batches.batch.length = batches.lines.length :=
  (Heap.length_contents batches.batch_valid).symm

/-- `s.batch = append(s.batch, line)`. -/
def append (batches : Batches α) (line : α) : Batches α where
  heap := (batches.heap.append batches.batch line).1
  batch := (batches.heap.append batches.batch line).2
  deliveries := batches.deliveries
  batch_valid := Heap.valid_append batches.batch_valid line
  logs_valid := by
    intro delivery member
    exact (Heap.append_of_ne (batches.logs_valid delivery member)
      (batches.separate delivery member) line).1
  separate := by
    intro delivery member
    exact (Heap.append_of_ne (batches.logs_valid delivery member)
      (batches.separate delivery member) line).2.2

@[simp]
theorem lines_append (batches : Batches α) (line : α) :
    (batches.append line).lines = batches.lines ++ [line] :=
  Heap.contents_append batches.batch_valid line

@[simp]
theorem dispatched_append (batches : Batches α) (line : α) :
    (batches.append line).dispatched = batches.dispatched := by
  apply List.map_congr_left
  intro delivery member
  exact (Heap.append_of_ne (batches.logs_valid delivery member)
    (batches.separate delivery member) line).2.1

/-- Ending an attempt does not change which batch it is about. -/
theorem logs_of_mem_modify {deliveries : List Delivery} {index : Nat} {delivery : Delivery}
    (member : delivery ∈ deliveries.modify index fun attempt => { attempt with done := true }) :
    ∃ previous ∈ deliveries, previous.logs = delivery.logs := by
  rcases List.mem_iff_getElem?.mp member with ⟨position, found⟩
  rw [List.getElem?_modify] at found
  rcases Option.map_eq_some_iff.mp found with ⟨previous, was, rfl⟩
  refine ⟨previous, List.mem_of_getElem? was, ?_⟩
  split <;> rfl

/-- One delivery attempt ends. -/
def finish (batches : Batches α) (index : Nat) : Batches α where
  heap := batches.heap
  batch := batches.batch
  deliveries := batches.deliveries.modify index fun attempt => { attempt with done := true }
  batch_valid := batches.batch_valid
  logs_valid := by
    intro delivery member
    rcases logs_of_mem_modify member with ⟨previous, was, same⟩
    rw [← same]
    exact batches.logs_valid previous was
  separate := by
    intro delivery member
    rcases logs_of_mem_modify member with ⟨previous, was, same⟩
    rw [← same]
    exact batches.separate previous was

@[simp]
theorem lines_finish (batches : Batches α) (index : Nat) :
    (batches.finish index).lines = batches.lines :=
  rfl

@[simp]
theorem dispatched_finish (batches : Batches α) (index : Nat) :
    (batches.finish index).dispatched = batches.dispatched := by
  apply List.ext_getElem?
  intro position
  simp only [dispatched, finish, List.getElem?_map, List.getElem?_modify]
  cases batches.deliveries[position]? with
  | none => rfl
  | some delivery =>
      simp only [Option.map_eq_map, Option.map_some]
      split <;> rfl

theorem Delivered.finish {batches : Batches α} (delivered : batches.Delivered)
    (index : Nat) : (batches.finish index).Delivered := by
  intro delivery member
  rcases List.mem_iff_getElem?.mp member with ⟨position, found⟩
  rw [Batches.finish, List.getElem?_modify] at found
  rcases Option.map_eq_some_iff.mp found with ⟨previous, was, rfl⟩
  have done := delivered previous (List.mem_of_getElem? was)
  split
  · rfl
  · exact done

variable [Inhabited α]

/-- `make([]string, 0, capacity)` before anything is dispatched. -/
def empty (capacity : Nat) : Batches α where
  heap := (Heap.make ⟨[]⟩ 0 capacity).1
  batch := (Heap.make (⟨[]⟩ : Heap α) 0 capacity).2
  deliveries := []
  batch_valid := by simp [Heap.Valid, Heap.make, Heap.allocate]
  logs_valid := by simp
  separate := by simp

/-- `flushLockedWithContext`. -/
def flushLockedWithContext (batches : Batches α) : Batches α :=
  if batches.batch.length = 0 then
    batches
  else
    { heap := (batches.heap.clone batches.batch).1
      batch := ⟨batches.batch.address, 0⟩
      deliveries := batches.deliveries ++ [⟨(batches.heap.clone batches.batch).2, false⟩]
      batch_valid := Heap.Valid.reslice
        (Heap.clone_of_valid batches.batch_valid batches.batch).1 (Nat.zero_le _)
      logs_valid := by
        intro delivery member
        rcases List.mem_append.mp member with old | new
        · exact (Heap.clone_of_valid (batches.logs_valid delivery old) batches.batch).1
        · cases List.mem_singleton.mp new
          exact Heap.valid_clone batches.batch_valid
      separate := by
        intro delivery member
        rcases List.mem_append.mp member with old | new
        · exact batches.separate delivery old
        · cases List.mem_singleton.mp new
          exact batches.batch_valid.1.ne' }

@[simp]
theorem lines_empty (capacity : Nat) : (empty capacity : Batches α).lines = [] := by
  simp [lines, empty, Heap.contents, Heap.make]

@[simp]
theorem dispatched_empty (capacity : Nat) :
    (empty capacity : Batches α).dispatched = [] :=
  rfl

/-- Flushing an empty batch does nothing. -/
theorem flushLockedWithContext_of_nil {batches : Batches α} (nothing : batches.lines = []) :
    batches.flushLockedWithContext = batches := by
  rw [flushLockedWithContext, if_pos]
  rw [batch_length, nothing, List.length_nil]

/-- After a flush the batch is empty. -/
@[simp]
theorem lines_flushLockedWithContext (batches : Batches α) :
    batches.flushLockedWithContext.lines = [] := by
  unfold flushLockedWithContext
  split
  next empty =>
    rw [batch_length] at empty
    exact List.length_eq_zero_iff.mp empty
  next => simp [lines, Heap.contents]

/-- A flush dispatches the batch as it is, and leaves the copies dispatched
before alone. -/
theorem dispatched_flushLockedWithContext {batches : Batches α}
    (something : batches.lines ≠ []) :
    batches.flushLockedWithContext.dispatched = batches.dispatched ++ [batches.lines] := by
  have nonempty : batches.batch.length ≠ 0 := by
    rw [batch_length]
    exact fun zero => something (List.length_eq_zero_iff.mp zero)
  simp only [dispatched, flushLockedWithContext, if_neg nonempty, List.map_append,
    List.map_singleton]
  congr 1
  · apply List.map_congr_left
    intro delivery member
    exact (Heap.clone_of_valid (batches.logs_valid delivery member) batches.batch).2
  · rw [Heap.contents_clone batches.batch_valid]
    rfl

/-- In every case a flush adds the lines of the batch to the dispatched ones. -/
theorem flatten_dispatched_flushLockedWithContext (batches : Batches α) :
    batches.flushLockedWithContext.dispatched.flatten =
      batches.dispatched.flatten ++ batches.lines := by
  by_cases nothing : batches.lines = []
  · rw [flushLockedWithContext_of_nil nothing, nothing, List.append_nil]
  · rw [dispatched_flushLockedWithContext nothing]
    simp

/-- A flush hands its batch to a goroutine that has not delivered it yet. -/
theorem deliveries_flushLockedWithContext {batches : Batches α}
    (something : batches.lines ≠ []) :
    ∃ logs, batches.flushLockedWithContext.deliveries = batches.deliveries ++ [⟨logs, false⟩] := by
  have nonempty : batches.batch.length ≠ 0 := by
    rw [batch_length]
    exact fun zero => something (List.length_eq_zero_iff.mp zero)
  rw [flushLockedWithContext, if_neg nonempty]
  exact ⟨_, rfl⟩

end Batches

/-! ## Goroutines -/

/-- Who holds the mutex. -/
inductive Holder
  | caller (id : Nat)
  | flushLoop
  deriving DecidableEq

/-- Where a goroutine that calls the sender is. -/
inductive CallerPc (α : Type u)
  /-- Not in a call. -/
  | idle
  /-- In `SendWithContext`, before `s.lock.Lock()`. -/
  | sendLock (line : α)
  | append (line : α)
  /-- Before the test `len(s.batch) >= s.batchSize`. -/
  | check
  | flush
  | sendUnlock
  /-- In `Stop`, before `s.lock.Lock()`. -/
  | stopLock
  /-- At the `select` of `Stop`. -/
  | select
  /-- Before `s.lock.Unlock()` in the branch that closed `stopCh`, or in the one
  that found it closed. -/
  | stopUnlock (closed : Bool)
  /-- At `<-s.stoppedCh`. -/
  | wait
  /-- `Stop` has returned. -/
  | stopped
  deriving DecidableEq

/-- Where `flushLoop` is.  The flag tells the deferred flush from one that a tick
asked for. -/
inductive LoopPc
  | notStarted
  | select
  | lock (deferred : Bool)
  | flush (deferred : Bool)
  | unlock (deferred : Bool)
  /-- Before `close(s.stoppedCh)`. -/
  | close
  | done
  deriving DecidableEq

/-- The sender with its lock, its channels and its goroutines. -/
structure HTTPSender (α : Type u) where
  batchSize : Int
  batches : Batches α
  lock : Option Holder
  /-- Whether `stopCh` is closed. -/
  stopCh : Bool
  /-- Whether `stoppedCh` is closed. -/
  stoppedCh : Bool
  callers : Nat → CallerPc α
  loop : LoopPc
  accepted : List α

/-- What happens next. -/
inductive Action (α : Type u)
  /-- `Start` starts `flushLoop`. -/
  | start
  /-- A goroutine calls `SendWithContext`. -/
  | send (id : Nat) (line : α)
  /-- A goroutine calls `Stop`. -/
  | stop (id : Nat)
  /-- A goroutine takes the next step of its call. -/
  | call (id : Nat)
  /-- `flushLoop` receives from the ticker. -/
  | tick
  /-- `flushLoop` receives from `stopCh`. -/
  | quit
  /-- `flushLoop` takes its next step outside the `select`. -/
  | loop
  /-- The call of `sendBatchWithContext` for a dispatched batch returns. -/
  | deliver (index : Nat)
  deriving DecidableEq

/-- Nobody calls `Send`. -/
def Action.Quiet : Action α → Prop
  | .send _ _ => False
  | _ => True

namespace HTTPSender

/-- The lines of the batch under construction. -/
abbrev batch (sender : HTTPSender α) : List α :=
  sender.batches.lines

/-- The batches handed to `sendBatchWithContext`, in dispatch order. -/
abbrev dispatched (sender : HTTPSender α) : List (List α) :=
  sender.batches.dispatched

/-- A calling goroutine moves on. -/
def goto (sender : HTTPSender α) (id : Nat) (pc : CallerPc α) : HTTPSender α :=
  { sender with callers := Function.update sender.callers id pc }

@[simp]
theorem callers_goto_self (sender : HTTPSender α) (id : Nat) (pc : CallerPc α) :
    (sender.goto id pc).callers id = pc :=
  Function.update_self ..

/-- `Stop` from its first statement to its return. -/
def stop (sender : HTTPSender α) (id : Nat) : Option (HTTPSender α) :=
  match sender.callers id with
  | .stopLock =>
      if sender.lock = none then
        some ({ sender with lock := some (.caller id) }.goto id .select)
      else
        none
  | .select =>
      if sender.stopCh then
        some (sender.goto id (.stopUnlock false))
      else
        some ({ sender with stopCh := true }.goto id (.stopUnlock true))
  | .stopUnlock closed =>
      some ({ sender with lock := none }.goto id (if closed then .wait else .stopped))
  | .wait => if sender.stoppedCh then some (sender.goto id .stopped) else none
  | _ => none

variable [Inhabited α]

/-- A sender with the given batch size that nobody uses yet. -/
def create (batchSize : Int) : HTTPSender α where
  batchSize := batchSize
  batches := .empty batchSize.toNat
  lock := none
  stopCh := false
  stoppedCh := false
  callers _ := .idle
  loop := .notStarted
  accepted := []

/-- The batch size that `NewHTTPSender` uses for its argument. -/
def effectiveBatchSize (batchSize : Int) : Int :=
  if batchSize ≤ 0 then 1 else batchSize

theorem effectiveBatchSize_of_pos {batchSize : Int} (positive : 0 < batchSize) :
    effectiveBatchSize batchSize = batchSize :=
  if_neg (Int.not_le.mpr positive)

/-- `NewHTTPSender`. -/
def newHTTPSender (batchSize : Int) : HTTPSender α :=
  create (effectiveBatchSize batchSize)

/-- `SendWithContext` from its first statement to its return. -/
def sendWithContext (sender : HTTPSender α) (id : Nat) : Option (HTTPSender α) :=
  match sender.callers id with
  | .sendLock line =>
      if sender.lock = none then
        some ({ sender with
          lock := some (.caller id)
          accepted := sender.accepted ++ [line] }.goto id (.append line))
      else
        none
  | .append line =>
      some ({ sender with batches := sender.batches.append line }.goto id .check)
  | .check =>
      if sender.batchSize ≤ sender.batches.batch.length then
        some (sender.goto id .flush)
      else
        some (sender.goto id .sendUnlock)
  | .flush =>
      some ({ sender with
        batches := sender.batches.flushLockedWithContext }.goto id .sendUnlock)
  | .sendUnlock => some ({ sender with lock := none }.goto id .idle)
  | _ => none

/-- `flushLoop` outside its `select`. -/
def flushLoop (sender : HTTPSender α) : Option (HTTPSender α) :=
  match sender.loop with
  | .lock deferred =>
      if sender.lock = none then
        some { sender with lock := some .flushLoop, loop := .flush deferred }
      else
        none
  | .flush deferred =>
      some { sender with
        batches := sender.batches.flushLockedWithContext
        loop := .unlock deferred }
  | .unlock deferred =>
      some { sender with lock := none, loop := if deferred then .close else .select }
  | .close => some { sender with stoppedCh := true, loop := .done }
  | _ => none

/-- One step of the sender, its callers, or a delivery goroutine. -/
def step (sender : HTTPSender α) : Action α → Option (HTTPSender α)
  | .start =>
      if sender.loop = .notStarted then some { sender with loop := .select } else none
  | .send id line =>
      match sender.callers id with
      | .idle => some (sender.goto id (.sendLock line))
      | _ => none
  | .stop id =>
      match sender.callers id with
      | .idle => some (sender.goto id .stopLock)
      | _ => none
  | .call id => (sender.sendWithContext id).or (sender.stop id)
  | .tick =>
      if sender.loop = .select then some { sender with loop := .lock false } else none
  | .quit =>
      if sender.loop = .select ∧ sender.stopCh then
        some { sender with loop := .lock true }
      else
        none
  | .loop => sender.flushLoop
  | .deliver index =>
      match sender.batches.deliveries[index]? with
      | some ⟨_, false⟩ => some { sender with batches := sender.batches.finish index }
      | _ => none

/-! ## What one step can do -/

/-- The enabled steps. -/
inductive Moves (sender : HTTPSender α) : Action α → HTTPSender α → Prop
  | start : sender.loop = .notStarted → Moves sender .start { sender with loop := .select }
  | callSend {id : Nat} {line : α} : sender.callers id = .idle →
      Moves sender (.send id line) (sender.goto id (.sendLock line))
  | callStop {id : Nat} : sender.callers id = .idle →
      Moves sender (.stop id) (sender.goto id .stopLock)
  | sendLock {id : Nat} {line : α} : sender.callers id = .sendLock line →
      sender.lock = none →
      Moves sender (.call id) ({ sender with
        lock := some (.caller id)
        accepted := sender.accepted ++ [line] }.goto id (.append line))
  | append {id : Nat} {line : α} : sender.callers id = .append line →
      Moves sender (.call id)
        ({ sender with batches := sender.batches.append line }.goto id .check)
  | full {id : Nat} : sender.callers id = .check →
      sender.batchSize ≤ sender.batch.length →
      Moves sender (.call id) (sender.goto id .flush)
  | room {id : Nat} : sender.callers id = .check →
      sender.batch.length < sender.batchSize →
      Moves sender (.call id) (sender.goto id .sendUnlock)
  | sendFlush {id : Nat} : sender.callers id = .flush →
      Moves sender (.call id) ({ sender with
        batches := sender.batches.flushLockedWithContext }.goto id .sendUnlock)
  | sendUnlock {id : Nat} : sender.callers id = .sendUnlock →
      Moves sender (.call id) ({ sender with lock := none }.goto id .idle)
  | stopLock {id : Nat} : sender.callers id = .stopLock → sender.lock = none →
      Moves sender (.call id) ({ sender with lock := some (.caller id) }.goto id .select)
  | stopAgain {id : Nat} : sender.callers id = .select → sender.stopCh = true →
      Moves sender (.call id) (sender.goto id (.stopUnlock false))
  | stopClose {id : Nat} : sender.callers id = .select → sender.stopCh = false →
      Moves sender (.call id) ({ sender with stopCh := true }.goto id (.stopUnlock true))
  | stopUnlock {id : Nat} {closed : Bool} : sender.callers id = .stopUnlock closed →
      Moves sender (.call id)
        ({ sender with lock := none }.goto id (if closed then .wait else .stopped))
  | stopReturn {id : Nat} : sender.callers id = .wait → sender.stoppedCh = true →
      Moves sender (.call id) (sender.goto id .stopped)
  | tick : sender.loop = .select → Moves sender .tick { sender with loop := .lock false }
  | quit : sender.loop = .select → sender.stopCh = true →
      Moves sender .quit { sender with loop := .lock true }
  | loopLock {deferred : Bool} : sender.loop = .lock deferred → sender.lock = none →
      Moves sender .loop { sender with lock := some .flushLoop, loop := .flush deferred }
  | loopFlush {deferred : Bool} : sender.loop = .flush deferred →
      Moves sender .loop { sender with
        batches := sender.batches.flushLockedWithContext
        loop := .unlock deferred }
  | loopUnlock {deferred : Bool} : sender.loop = .unlock deferred →
      Moves sender .loop
        { sender with lock := none, loop := if deferred then .close else .select }
  | loopClose : sender.loop = .close →
      Moves sender .loop { sender with stoppedCh := true, loop := .done }
  | deliver {index : Nat} :
      Moves sender (.deliver index) { sender with batches := sender.batches.finish index }

theorem moves_of_sendWithContext {sender after : HTTPSender α} {id : Nat}
    (step : sender.sendWithContext id = some after) : Moves sender (.call id) after := by
  unfold sendWithContext at step
  split at step
  case h_1 line position =>
    split at step
    next free =>
      cases step
      exact .sendLock position free
    next => contradiction
  case h_2 line position =>
    cases step
    exact .append position
  case h_3 position =>
    rw [Batches.batch_length] at step
    split at step
    next full =>
      cases step
      exact .full position full
    next room =>
      cases step
      exact .room position (Int.not_le.mp room)
  case h_4 position =>
    cases step
    exact .sendFlush position
  case h_5 position =>
    cases step
    exact .sendUnlock position
  case h_6 => contradiction

theorem moves_of_stop {sender after : HTTPSender α} {id : Nat}
    (step : sender.stop id = some after) : Moves sender (.call id) after := by
  unfold stop at step
  split at step
  case h_1 position =>
    split at step
    next free =>
      cases step
      exact .stopLock position free
    next => contradiction
  case h_2 position =>
    split at step
    next closed =>
      cases step
      exact .stopAgain position closed
    next isOpen =>
      cases step
      exact .stopClose position (by simpa using isOpen)
  case h_3 closed position =>
    cases step
    exact .stopUnlock position
  case h_4 position =>
    split at step
    next stopped =>
      cases step
      exact .stopReturn position stopped
    next => contradiction
  case h_5 => contradiction

theorem moves_of_flushLoop {sender after : HTTPSender α}
    (step : sender.flushLoop = some after) : Moves sender .loop after := by
  unfold flushLoop at step
  split at step
  case h_1 deferred position =>
    split at step
    next free =>
      cases step
      exact .loopLock position free
    next => contradiction
  case h_2 deferred position =>
    cases step
    exact .loopFlush position
  case h_3 deferred position =>
    cases step
    exact .loopUnlock position
  case h_4 position =>
    cases step
    exact .loopClose position
  case h_5 => contradiction

/-- Every step is one of the enabled steps. -/
theorem moves_of_step {sender after : HTTPSender α} {action : Action α}
    (taken : sender.step action = some after) : Moves sender action after := by
  cases action with
  | start =>
      simp only [step] at taken
      split at taken
      next position =>
        cases taken
        exact .start position
      next => contradiction
  | send id line =>
      simp only [step] at taken
      split at taken
      next position =>
        cases taken
        exact .callSend position
      next => contradiction
  | stop id =>
      simp only [step] at taken
      split at taken
      next position =>
        cases taken
        exact .callStop position
      next => contradiction
  | call id =>
      rcases Option.or_eq_some_iff.mp taken with sends | ⟨_, stops⟩
      · exact moves_of_sendWithContext sends
      · exact moves_of_stop stops
  | tick =>
      simp only [step] at taken
      split at taken
      next position =>
        cases taken
        exact .tick position
      next => contradiction
  | quit =>
      simp only [step] at taken
      split at taken
      next enabled =>
        cases taken
        exact .quit enabled.1 enabled.2
      next => contradiction
  | loop => exact moves_of_flushLoop taken
  | deliver index =>
      simp only [step] at taken
      split at taken
      next =>
        cases taken
        exact .deliver
      next => contradiction

end HTTPSender

end Tailpost.Sender
