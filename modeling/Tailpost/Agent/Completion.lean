import Tailpost.Agent.Cancelling

/-!
# When the shutdown of the other agent can finish

`handleSignals` waits for the tail goroutine and for `processLogs` without a timeout.
`processLogs` may return as soon as the context is cancelled, and nobody else receives
from the `Lines` channel.  A tail goroutine that has a line to send then waits for room
on a full channel, so `logReader.Stop()` does not return.  This is the only way in which
the shutdown can hang: from every other state some continuation finishes it.
-/

namespace Tailpost.Agent

open Tailpost.Reader
open Tailpost.Sender
open Tailpost.Transition

/-- The tail goroutine sends a line before it looks at `stopCh` again, whatever the
system calls return. -/
def Committed (reader : FileReader) : Prop :=
  match reader.pc with
  | .send _ => True
  | .readString => ∃ line rest, readString reader.buffer = some (line, rest) ∧
      trimNewline line ≠ []
  | _ => False

/-- Nobody receives from a full channel on which the tail goroutine has to put a line. -/
structure Blocked (service : Service) : Prop where
  returned : service.processing = .returned
  full : linesCapacity ≤ service.reader.lines.length
  committed : Committed service.reader

/-! ## A blocked agent stays blocked -/

theorem Committed.moves {disk : Disk} {reader after : FileReader} {action : TailStep}
    (committed : Committed reader) (full : linesCapacity ≤ reader.lines.length)
    (moves : Reader.Moves disk reader action after) :
    Committed after ∧ after.lines = reader.lines := by
  cases moves with
  | exit position | retry position | poll position | openFail position | openOk position
  | statFail position | statOk position | seekFail position | seekOk position =>
      simp [Committed, position] at committed
  | fill position _ unterminated | fail position unterminated =>
      simp [Committed, position, unterminated] at committed
  | line position found =>
      rw [Committed, position] at committed
      rcases committed with ⟨line, rest, read, given⟩
      cases found.symm.trans read
      exact ⟨by simp [Committed, FileReader.accept, given], rfl⟩
  | put _ room => omega

theorem Blocked.moves {service after : Service} {event : Option DiskEvent}
    (blocked : Blocked service) (moves : Service.Moves service event after) : Blocked after := by
  rcases blocked with ⟨returned, full, committed⟩
  cases moves with
  | tail moves =>
      rcases committed.moves full moves with ⟨still, lines⟩
      exact ⟨returned, by rw [lines]; exact full, still⟩
  | ctxDone position | receive position | sent position | send position =>
      rw [returned] at position
      contradiction
  | stopReader => exact ⟨returned, full, committed⟩
  | _ => exact ⟨returned, full, committed⟩

/-! ## A measure of what is left to do -/

/-- The steps that a call of the sender has still to take. -/
def callWeight : CallerPc Line → Nat
  | .sendLock _ => 5
  | .append _ | .stopLock => 4
  | .check | .select => 3
  | .flush | .stopUnlock _ => 2
  | .sendUnlock | .wait => 1
  | .idle | .stopped => 0

/-- The steps of the flush loop once `stopCh` is closed, the turn it is in included. -/
def loopWeight : LoopPc → Nat
  | .notStarted => 9
  | .lock false => 8
  | .flush false => 7
  | .unlock false => 6
  | .select => 5
  | .lock true => 4
  | .flush true => 3
  | .unlock true => 2
  | .close => 1
  | .done => 0

/-- The steps of the tailing goroutine until it sees that `stopCh` is closed. -/
def tailWeight : Pc → Nat
  | .readString => 4
  | .send _ => 3
  | .reopen | .stat | .seek => 2
  | .loop => 1
  | .stopped => 0

/-- The steps of `processLogs` once the context is cancelled. -/
def processingWeight : ProcessingPc → Nat
  | .sending => 2
  | .select => 1
  | .returned => 0

/-- The steps of `handleSignals`. -/
def handleWeight : HandlePc → Nat
  | .running => 8
  | .cancel => 7
  | .stopReader => 6
  | .readerStopping => 5
  | .stopSender => 4
  | .senderStopping => 3
  | .stopHealth => 2
  | .waiting => 1
  | .finished => 0

/-- Whether the channel is full. -/
def crowding (lines : List Line) : Nat :=
  if linesCapacity ≤ lines.length then 1 else 0

/-- Receiving a line costs a `Send` call but makes room on the channel, and calling `Stop`
costs a call but is a step of the shutdown; both count ten times. -/
def work (service : Service) : Nat :=
  10 * handleWeight service.handle +
    10 * (2 * tailWeight service.reader.pc + crowding service.reader.lines) +
    processingWeight service.processing + callWeight (service.sender.callers 0) +
    callWeight (service.sender.callers 1) + loopWeight service.sender.loop

section Sender

variable {sender after : HTTPSender Line} {id : Nat}

theorem callWeight_of_moves (moves : HTTPSender.Moves sender (.call id) after) :
    callWeight (after.callers id) < callWeight (sender.callers id) := by
  cases moves with
  | @stopUnlock _ closed position =>
      rw [HTTPSender.callers_goto_self, position]
      cases closed <;> simp [callWeight]
  | sendLock position | append position | full position | room position | sendFlush position
  | sendUnlock position | stopLock position | stopAgain position | stopClose position
  | stopReturn position =>
      rw [HTTPSender.callers_goto_self, position]
      simp [callWeight]

theorem loopWeight_of_moves (moves : HTTPSender.Moves sender .loop after) :
    loopWeight after.loop < loopWeight sender.loop ∧ after.callers = sender.callers := by
  cases moves with
  | @loopLock deferred position | @loopFlush deferred position | @loopUnlock deferred position =>
      rw [position]
      cases deferred <;> exact ⟨by simp [loopWeight], rfl⟩
  | loopClose position =>
      rw [position]
      exact ⟨by simp [loopWeight], rfl⟩

/-- Whoever holds the lock can move on. -/
theorem exists_call_of_critical (critical : (sender.callers id).Critical) :
    ∃ next, sender.step (.call id) = some next := by
  cases position : sender.callers id with
  | append | flush | sendUnlock | stopUnlock =>
      simp [HTTPSender.step, HTTPSender.sendWithContext, HTTPSender.stop, position]
  | check =>
      by_cases full : sender.batchSize ≤ sender.batches.batch.length <;>
        simp [HTTPSender.step, HTTPSender.sendWithContext, position, full]
  | select =>
      by_cases closed : sender.stopCh <;>
        simp [HTTPSender.step, HTTPSender.sendWithContext, HTTPSender.stop, position, closed]
  | _ =>
      rw [position] at critical
      contradiction

theorem exists_loop_of_critical (critical : sender.loop.Critical) :
    ∃ next, sender.step .loop = some next := by
  cases position : sender.loop with
  | flush | unlock => simp [HTTPSender.step, HTTPSender.flushLoop, position]
  | _ =>
      rw [position] at critical
      contradiction

end Sender

/-! ## Some step always makes progress -/

/-- Some step leaves less to do and blocks nobody. -/
def Progresses (service : Service) : Prop :=
  ∃ action after, service.step action = some after ∧ work after < work service ∧
    (Blocked after → Blocked service)

variable {batchSize : Int} {service : Service}

/-- The processing goroutine is in a call. -/
theorem progresses_of_send {next : HTTPSender Line} (sending : service.processing = .sending)
    (taken : service.sender.step (.call 0) = some next) : Progresses service := by
  have moves := HTTPSender.moves_of_step taken
  rcases HTTPSender.frame_of_call moves with ⟨others, loop⟩
  have busy : service.sender.callers 0 ≠ .idle := by
    intro idle
    simp [HTTPSender.step, HTTPSender.sendWithContext, HTTPSender.stop, idle] at taken
  refine ⟨.process .call, service.advance (.call 0) next, ?_, ?_, ?_⟩
  · simp only [Service.step, Service.processLogs, sending]
    simp [Service.senderStep, taken, Service.advance]
  · have less := callWeight_of_moves moves
    simp only [work, Service.advance, others 1 (by decide), loop]
    omega
  · exact fun blocked => absurd blocked.returned (by simp [Service.advance, sending])

/-- `handleSignals` is in the call of `logSender.Stop()`. -/
theorem progresses_of_stop {next : HTTPSender Line} (stopping : service.handle = .senderStopping)
    (taken : service.sender.step (.call 1) = some next) : Progresses service := by
  have moves := HTTPSender.moves_of_step taken
  rcases HTTPSender.frame_of_call moves with ⟨others, loop⟩
  have running : service.sender.callers 1 ≠ .stopped := by
    intro stopped
    simp [HTTPSender.step, HTTPSender.sendWithContext, HTTPSender.stop, stopped] at taken
  refine ⟨.handle, service.advance (.call 1) next, ?_, ?_, ?_⟩
  · simp [Service.step, Service.handleSignals, stopping, running, Service.senderStep, taken,
      Service.advance]
  · have less := callWeight_of_moves moves
    simp only [work, Service.advance, others 0 (by decide), loop]
    omega
  · exact fun blocked => ⟨blocked.returned, blocked.full, blocked.committed⟩

theorem progresses_of_loop {next : HTTPSender Line}
    (taken : service.sender.step .loop = some next) : Progresses service := by
  have moves := HTTPSender.moves_of_step taken
  rcases loopWeight_of_moves moves with ⟨less, callers⟩
  refine ⟨.flush, service.advance .loop next, ?_, ?_, ?_⟩
  · simp [Service.step, Service.senderStep, taken, Service.advance]
  · simp only [work, Service.advance, callers]
    omega
  · exact fun blocked => ⟨blocked.returned, blocked.full, blocked.committed⟩

/-- A step of `handleSignals` that moves nothing else. -/
theorem progresses_of_handle {cancelled : Bool} {handle : HandlePc}
    (taken : service.step .handle = some { service with cancelled, handle })
    (less : handleWeight handle < handleWeight service.handle) : Progresses service := by
  refine ⟨.handle, _, taken, ?_, fun blocked => ⟨blocked.returned, blocked.full,
    blocked.committed⟩⟩
  simp only [work]
  omega

/-- A step of the tail goroutine other than putting a line on the channel. -/
theorem progresses_of_tail {action : TailStep} {reader : FileReader}
    (taken : tailFile service.disk service.reader action = some reader)
    (lines : reader.lines = service.reader.lines)
    (less : tailWeight reader.pc < tailWeight service.reader.pc)
    (committed : Committed reader → Committed service.reader) : Progresses service := by
  refine ⟨.tail action, { service with reader }, ?_, ?_, ?_⟩
  · simp [Service.step, taken]
  · simp only [work, lines]
    omega
  · rintro ⟨returned, full, still⟩
    exact ⟨returned, lines ▸ full, committed still⟩

/-- A line is put on a channel that has room. -/
theorem progresses_of_put {line : Line} (position : service.reader.pc = .send line)
    (room : service.reader.lines.length < linesCapacity) : Progresses service := by
  have puts : tailFile service.disk service.reader .put = some { service.reader with
      lines := service.reader.lines ++ [line]
      pc := .loop
      emitted := service.reader.emitted ++ [line] } := by
    simp [tailFile, position, room]
  refine ⟨.tail .put, _, by simp [Service.step, puts]; rfl, ?_, ?_⟩
  · have crowded : crowding (service.reader.lines ++ [line]) ≤ 1 := by
      unfold crowding
      split <;> omega
    simp only [work, position, tailWeight]
    omega
  · rintro ⟨_, _, committed⟩
    exact absurd committed not_false

/-- A line is received from a full channel, which makes room. -/
theorem progresses_of_receive (select : service.processing = .select)
    (idle : service.sender.callers 0 = .idle)
    (full : service.reader.lines.length = linesCapacity) : Progresses service := by
  cases available : service.reader.lines with
  | nil =>
      rw [available] at full
      contradiction
  | cons line rest =>
      have receives : service.step (.process .receive) = some { service with
          reader := { service.reader with lines := rest }
          processing := .sending
          sender := service.sender.goto 0 (.sendLock line) } := by
        simp [Service.step, Service.processLogs, select, available, Service.senderStep,
          HTTPSender.step, idle, HTTPSender.started]
      refine ⟨.process .receive, _, receives, ?_, ?_⟩
      · have crowded : crowding service.reader.lines = 1 := if_pos (Nat.le_of_eq full.symm)
        have room : crowding rest = 0 := by
          rw [available, List.length_cons] at full
          exact if_neg (by omega)
        simp only [work, select, idle, room, crowded, processingWeight, callWeight,
          HTTPSender.callers_goto_self]
        simp only [HTTPSender.goto, Function.update_of_ne (show (1 : Nat) ≠ 0 by decide)]
        omega
      · exact fun blocked => absurd blocked.returned (by simp)

/-- `reopen` gives up. -/
theorem progresses_of_giveUp {action : TailStep}
    (taken : tailFile service.disk service.reader action = some service.reader.giveUp)
    (less : 1 < tailWeight service.reader.pc) : Progresses service :=
  progresses_of_tail taken rfl less fun committed => absurd committed not_false

/-- `logReader.Stop()` waits for a tail goroutine that is not blocked. -/
theorem progresses_of_reader (keeps : Keeps batchSize service)
    (waiting : service.handle = .readerStopping) (resting : service.processing ≠ .sending)
    (free : ¬ Blocked service) : Progresses service := by
  have sequenced := keeps.sequenced
  rw [Sequenced, waiting] at sequenced
  cases position : service.reader.pc with
  | stopped =>
      have taken : service.step .handle = some { service with handle := .stopSender } := by
        simp [Service.step, Service.handleSignals, waiting, position]
      exact progresses_of_handle taken (by simp [handleWeight, waiting])
  | loop =>
      have taken : tailFile service.disk service.reader .select =
          some { service.reader with file := none, pc := .stopped } := by
        simp [tailFile, position, sequenced.2.1]
      exact progresses_of_tail taken rfl (by simp [tailWeight, position])
        fun committed => absurd committed not_false
  | reopen =>
      have taken : tailFile service.disk service.reader .openFail =
          some service.reader.giveUp := by
        simp [tailFile, position]
      exact progresses_of_giveUp taken (by simp [tailWeight, position])
  | stat =>
      have taken : tailFile service.disk service.reader .statFail =
          some service.reader.giveUp := by
        simp [tailFile, position]
      exact progresses_of_giveUp taken (by simp [tailWeight, position])
  | seek =>
      have taken : tailFile service.disk service.reader .seekFail =
          some service.reader.giveUp := by
        simp [tailFile, position]
      exact progresses_of_giveUp taken (by simp [tailWeight, position])
  | readString =>
      cases found : readString service.reader.buffer with
      | none =>
          have taken : tailFile service.disk service.reader .fail =
              some { service.reader with buffer := [], pc := .reopen } := by
            simp [tailFile, position, found]
          exact progresses_of_tail taken rfl (by simp [tailWeight, position])
            fun committed => absurd committed not_false
      | some read =>
          rcases read with ⟨line, rest⟩
          have taken : tailFile service.disk service.reader .line =
              some (service.reader.accept line rest) := by
            simp [tailFile, position, found]
          refine progresses_of_tail taken rfl ?_ ?_
          · by_cases empty : trimNewline line = [] <;>
              simp [tailWeight, position, FileReader.accept, empty]
          · intro committed
            rw [Committed, position]
            refine ⟨line, rest, found, fun empty => ?_⟩
            simp [Committed, FileReader.accept, empty] at committed
  | send line =>
      by_cases room : service.reader.lines.length < linesCapacity
      · exact progresses_of_put position room
      · have select : service.processing = .select := by
          cases processing : service.processing with
          | select => rfl
          | sending => exact absurd processing resting
          | returned =>
              refine absurd ⟨processing, Nat.not_lt.mp room, ?_⟩ free
              rw [Committed, position]
              trivial
        exact progresses_of_receive select (keeps.conveys.idle resting)
          (Nat.le_antisymm keeps.conveys.capacity (Nat.not_lt.mp room))

/-- Whoever holds the lock of the sender makes progress. -/
theorem progresses_of_lock (keeps : Keeps batchSize service)
    (held : service.sender.lock ≠ none) : Progresses service := by
  have serves := keeps.conveys.serves
  cases lock : service.sender.lock with
  | none => exact absurd lock held
  | some holder =>
      cases holder with
      | flushLoop =>
          rcases exists_loop_of_critical (serves.exclusive.loop.mpr lock) with ⟨next, taken⟩
          exact progresses_of_loop taken
      | caller id =>
          have critical := (serves.exclusive.callers id).mpr lock
          rcases exists_call_of_critical critical with ⟨next, taken⟩
          match id with
          | 0 =>
              have sending : service.processing = .sending := by
                by_contra resting
                rw [keeps.conveys.idle resting] at critical
                contradiction
              exact progresses_of_send sending taken
          | 1 =>
              have stopping : service.handle = .senderStopping := by
                have sequenced := keeps.sequenced
                unfold Sequenced at sequenced
                cases handle : service.handle <;> simp_all [CallerPc.Critical]
              exact progresses_of_stop stopping taken
          | other + 2 =>
              rw [serves.others (other + 2) (by omega)] at critical
              contradiction

/-- Nobody is in a critical section while the lock is free. -/
theorem Serves.outside {sender : HTTPSender Line} (serves : Serves sender)
    (free : sender.lock = none) :
    (∀ id, ¬ (sender.callers id).Critical) ∧ ¬ sender.loop.Critical := by
  constructor
  · intro id
    simp [serves.exclusive.callers, free]
  · simp [serves.exclusive.loop, free]

/-- A `Send` call takes the lock, or has returned. -/
theorem progresses_of_sending (keeps : Keeps batchSize service)
    (free : service.sender.lock = none) (sending : service.processing = .sending) :
    Progresses service := by
  have outside := (keeps.conveys.serves.outside free).1 0
  rcases keeps.conveys.serves.processing with idle | sends
  · have taken : service.step (.process .call) = some { service with processing := .select } := by
      simp [Service.step, Service.processLogs, sending, idle]
    refine ⟨_, _, taken, ?_, fun blocked => absurd blocked.returned (by simp)⟩
    simp only [work, sending, processingWeight]
    omega
  · cases position : service.sender.callers 0 with
    | sendLock line =>
        have locks : service.sender.step (.call 0) = some ({ service.sender with
            lock := some (.caller 0)
            accepted := service.sender.accepted ++ [line] }.goto 0 (.append line)) := by
          simp [HTTPSender.step, HTTPSender.sendWithContext, position, free]
        exact progresses_of_send sending locks
    | append | check | flush | sendUnlock =>
        rw [position] at outside
        exact absurd trivial outside
    | _ =>
        rw [position] at sends
        contradiction

/-- `logSender.Stop()` waits for `flushLoop`, which can always return. -/
theorem progresses_of_waiting (keeps : Keeps batchSize service)
    (free : service.sender.lock = none) (stopping : service.handle = .senderStopping)
    (waits : service.sender.callers 1 = .wait) : Progresses service := by
  have serves := keeps.conveys.serves
  have outside := (serves.outside free).2
  have closed := serves.stopping
  rw [waits] at closed
  cases position : service.sender.loop with
  | notStarted => exact absurd position serves.started
  | select =>
      have quits : service.step .quit =
          some (service.advance .quit { service.sender with loop := .lock true }) := by
        simp [Service.step, Service.senderStep, HTTPSender.step, position, Service.advance,
          show service.sender.stopCh = true from closed]
      refine ⟨_, _, quits, ?_, fun blocked => ⟨blocked.returned, blocked.full,
        blocked.committed⟩⟩
      simp only [work, Service.advance, position, loopWeight]
      omega
  | lock deferred =>
      have locks : service.sender.step .loop =
          some { service.sender with lock := some .flushLoop, loop := .flush deferred } := by
        simp [HTTPSender.step, HTTPSender.flushLoop, position, free]
      exact progresses_of_loop locks
  | flush | unlock =>
      rw [position] at outside
      exact absurd trivial outside
  | close =>
      have closes : service.sender.step .loop =
          some { service.sender with stoppedCh := true, loop := .done } := by
        simp [HTTPSender.step, HTTPSender.flushLoop, position]
      exact progresses_of_loop closes
  | done =>
      have returns : service.sender.step (.call 1) = some (service.sender.goto 1 .stopped) := by
        simp [HTTPSender.step, HTTPSender.sendWithContext, HTTPSender.stop, waits,
          keeps.closed position]
      exact progresses_of_stop stopping returns

/-- `handleSignals` is in `logSender.Stop()` while nobody holds the lock. -/
theorem progresses_of_stopping (keeps : Keeps batchSize service)
    (free : service.sender.lock = none) (stopping : service.handle = .senderStopping) :
    Progresses service := by
  have outside := (keeps.conveys.serves.outside free).1 1
  have sequenced := keeps.sequenced
  rw [Sequenced, stopping] at sequenced
  have called := keeps.conveys.serves.stopping
  cases position : service.sender.callers 1 with
  | idle => exact absurd position sequenced.2.2
  | stopLock =>
      have locks : service.sender.step (.call 1) =
          some ({ service.sender with lock := some (.caller 1) }.goto 1 .select) := by
        simp [HTTPSender.step, HTTPSender.sendWithContext, HTTPSender.stop, position, free]
      exact progresses_of_stop stopping locks
  | wait => exact progresses_of_waiting keeps free stopping position
  | stopped =>
      have taken : service.step .handle = some { service with handle := .stopHealth } := by
        simp [Service.step, Service.handleSignals, stopping, position]
      exact progresses_of_handle taken (by simp [handleWeight, stopping])
  | select | stopUnlock =>
      rw [position] at outside
      exact absurd trivial outside
  | _ =>
      rw [position] at called
      contradiction

/-- An agent that is not blocked and has not finished makes progress. -/
theorem progresses (keeps : Keeps batchSize service) (unblocked : ¬ Blocked service)
    (unfinished : service.handle ≠ .finished) : Progresses service := by
  by_cases free : service.sender.lock = none
  case neg => exact progresses_of_lock keeps free
  by_cases sending : service.processing = .sending
  case pos => exact progresses_of_sending keeps free sending
  have sequenced := keeps.sequenced
  unfold Sequenced at sequenced
  cases position : service.handle with
  | running =>
      have taken : service.step .handle = some { service with handle := .cancel } := by
        simp [Service.step, Service.handleSignals, position]
      exact progresses_of_handle taken (by simp [handleWeight, position])
  | cancel =>
      have taken : service.step .handle =
          some { service with cancelled := true, handle := .stopReader } := by
        simp [Service.step, Service.handleSignals, position]
      exact progresses_of_handle taken (by simp [handleWeight, position])
  | stopReader =>
      rw [position] at sequenced
      have taken : service.step .handle = some { service with
          reader := { service.reader with stopCh := true }
          handle := .readerStopping } := by
        simp [Service.step, Service.handleSignals, position, sequenced.2.1]
      refine ⟨_, _, taken, ?_, fun blocked => ⟨blocked.returned, blocked.full,
        blocked.committed⟩⟩
      simp only [work, position, handleWeight]
      omega
  | readerStopping => exact progresses_of_reader keeps position sending unblocked
  | stopSender =>
      rw [position] at sequenced
      have taken : service.step .handle = some { service with
          handle := .senderStopping
          sender := service.sender.goto 1 .stopLock } := by
        simp [Service.step, Service.handleSignals, position, Service.senderStep,
          HTTPSender.step, sequenced.2.2, HTTPSender.started]
      refine ⟨_, _, taken, ?_, fun blocked => ⟨blocked.returned, blocked.full,
        blocked.committed⟩⟩
      simp only [work, position, handleWeight, sequenced.2.2, callWeight,
        HTTPSender.callers_goto_self]
      simp only [HTTPSender.goto, Function.update_of_ne (show (0 : Nat) ≠ 1 by decide)]
      omega
  | senderStopping => exact progresses_of_stopping keeps free position
  | stopHealth =>
      have taken : service.step .handle = some { service with handle := .waiting } := by
        simp [Service.step, Service.handleSignals, position]
      exact progresses_of_handle taken (by simp [handleWeight, position])
  | waiting =>
      rw [position] at sequenced
      cases processing : service.processing with
      | sending => exact absurd processing sending
      | returned =>
          have taken : service.step .handle = some { service with handle := .finished } := by
            simp [Service.step, Service.handleSignals, position, processing]
          exact progresses_of_handle taken (by simp [handleWeight, position])
      | select =>
          have taken : service.step (.process .ctxDone) =
              some { service with processing := .returned } := by
            simp [Service.step, Service.processLogs, processing, sequenced.1]
          refine ⟨_, _, taken, ?_, ?_⟩
          · simp only [work, processing, processingWeight]
            omega
          · -- the tail goroutine has returned, so it has nothing to send
            intro blocked
            have committed := blocked.committed
            simp [Committed, sequenced.2.1] at committed
  | finished => exact absurd position unfinished

/-! ## A shutdown that hangs -/

/-- The tail goroutine puts the lines that it has read on the channel. -/
theorem reaches_queued (disk : Disk) (line : Line) (terminator : Cell)
    (ends : terminator.isNewline = true) (inside : ∀ cell ∈ line, cell.isNewline = false)
    (something : line ≠ []) (rest : List Cell) :
    ∀ (count : Nat) (reader : FileReader), reader.pc = .readString → reader.file.isSome →
      reader.stopCh = false →
      reader.buffer = (List.replicate count (line ++ [terminator])).flatten ++ rest →
      reader.lines.length + count ≤ linesCapacity →
      ∃ target, Reaches (tailFile disk) (fun _ => True) reader target ∧
        target.pc = .readString ∧ target.buffer = rest ∧
        target.lines.length = reader.lines.length + count
  | 0, reader, position, _, _, buffer, _ =>
      ⟨reader, Reaches.refl _ _ _, position, by simpa using buffer, rfl⟩
  | count + 1, reader, position, isOpen, running, buffer, room => by
      have cut : readString reader.buffer = some (line ++ [terminator],
          (List.replicate count (line ++ [terminator])).flatten ++ rest) := by
        rw [buffer, List.replicate_succ, List.flatten_cons, List.append_assoc]
        exact Text.cutLine_eq_some_iff.mpr ⟨rfl, line, terminator, rfl, ends, inside⟩
      have space : reader.lines.length < linesCapacity := by omega
      let next : FileReader := { reader with
        buffer := (List.replicate count (line ++ [terminator])).flatten ++ rest
        offset := reader.offset + (line ++ [terminator]).length
        lines := reader.lines ++ [line]
        emitted := reader.emitted ++ [line] }
      have round : Reaches (tailFile disk) (fun _ => True) reader next := by
        refine ⟨[.line, .put, .select], by simp, ?_⟩
        have opened : reader.file ≠ none := Option.isSome_iff_ne_none.mp isOpen
        simp [run, tailFile, position, cut, FileReader.accept, trimNewline_concat ends, something,
          space, running, opened, next]
      obtain ⟨target, reaches, atRead, buffered, lines⟩ :=
        reaches_queued disk line terminator ends inside something rest count next position isOpen
          running rfl (by simp only [next, List.length_append, List.length_singleton]; omega)
      refine ⟨target, round.trans reaches, atRead, buffered, ?_⟩
      simp only [lines, next, List.length_append, List.length_singleton]
      omega

/-- What is appended to an empty file can be read at once. -/
theorem reaches_filled {bytes : List UInt8} (something : bytes ≠ []) :
    ∃ reader, FileReader.start (Disk.single []) true true = some reader ∧
      Reaches (tailFile ((Disk.single []).append 0 bytes)) (fun _ => True) reader
        { FileReader.newFileReader with
          file := some ⟨0, bytes.length⟩
          buffer := bytes.map (Cell.mk 0)
          pc := .readString } := by
  refine ⟨_, rfl, [.select, .fill bytes.length], by simp, ?_⟩
  have read : ((Disk.single []).append 0 bytes).read 0 0 bytes.length =
      bytes.map (Cell.mk 0) := by
    simp [Disk.read, Disk.cells, Disk.append, Disk.single]
  simp [run, tailFile, FileReader.newFileReader, Disk.size, Disk.single, readString,
    Text.cutLine] at read ⊢
  simp [read, something]

/-- A path of the tail goroutine is a path of the agent. -/
theorem reaches_tail {service : Service} {reader : FileReader}
    (reaches : Reaches (tailFile service.disk) (fun _ => True) service.reader reader) :
    Reaches Service.step (fun _ => True) service { service with reader } := by
  refine reaches.lift (fun reader : FileReader => ({ service with reader } : Service)) ?_
  intro state action after _ taken
  exact ⟨.tail action, trivial, by simp [Service.step, taken]⟩

/-- One line more than the channel can hold. -/
def flood : List UInt8 :=
  (List.replicate (linesCapacity + 1) [97, 10]).flatten

theorem map_flood :
    flood.map (Cell.mk 0) =
      (List.replicate linesCapacity ([⟨0, 97⟩] ++ [⟨0, 10⟩])).flatten ++ [⟨0, 97⟩, ⟨0, 10⟩] := by
  rw [flood, List.replicate_succ', List.flatten_append, List.map_append, List.map_flatten,
    List.map_replicate]
  rfl

/-- The tail goroutine fills the channel and has read the line behind. -/
theorem reaches_full :
    ∃ reader target, FileReader.start (Disk.single []) true true = some reader ∧
      Reaches (tailFile ((Disk.single []).append 0 flood)) (fun _ => True) reader target ∧
      linesCapacity ≤ target.lines.length ∧ Committed target := by
  have something : flood ≠ [] := by simp [flood]
  obtain ⟨reader, started, filled⟩ := reaches_filled something
  obtain ⟨target, queued, position, buffered, full⟩ := reaches_queued
    ((Disk.single []).append 0 flood) [⟨0, 97⟩] ⟨0, 10⟩ rfl (List.forall_mem_singleton.mpr rfl)
    (List.cons_ne_nil _ _) [⟨0, 97⟩, ⟨0, 10⟩] linesCapacity
    { FileReader.newFileReader with
      file := some ⟨0, flood.length⟩
      buffer := flood.map (Cell.mk 0)
      pc := .readString }
    rfl rfl rfl map_flood (by simp [FileReader.newFileReader])
  refine ⟨reader, target, started, filled.trans queued, ?_, ?_⟩
  · rw [full]
    exact Nat.le_add_left _ _
  · rw [Committed, position]
    refine ⟨[⟨0, 97⟩, ⟨0, 10⟩], [], ?_, ?_⟩
    · rw [buffered]
      rfl
    · exact List.cons_ne_nil _ _

/-- Enough lines are written before the signal comes, and `processLogs` chooses `ctx.Done()`
while the tail goroutine holds the line that does not fit on the channel. -/
theorem exists_blocked :
    ∃ reader service, FileReader.start (Disk.single []) true true = some reader ∧
      Reaches Service.step (fun _ => True) (Service.start (Disk.single []) reader 1) service ∧
      Blocked service := by
  obtain ⟨reader, target, started, tailed, full, committed⟩ := reaches_full
  let written : Service :=
    { Service.start (Disk.single []) reader 1 with disk := (Disk.single []).append 0 flood }
  have writes : (Service.start (Disk.single []) reader 1).step (.disk (.append 0 flood)) =
      some written := by
    simp [Service.step, Service.start, Disk.apply, Disk.single, written]
  have tails : Reaches Service.step (fun _ => True) written { written with reader := target } :=
    reaches_tail tailed
  have signals : Reaches Service.step (fun _ => True) { written with reader := target }
      { written with
        reader := target
        processing := .returned
        cancelled := true
        handle := .stopReader } :=
    ⟨[.handle, .handle, .process .ctxDone], by simp, rfl⟩
  exact ⟨reader, _, started, Reaches.head trivial writes (tails.trans signals),
    rfl, full, committed⟩

/-! ## The shutdown -/

/-- The shutdown can still be finished. -/
def CanFinish (service : Service) : Prop :=
  ∃ final, Reaches Service.step (fun _ => True) service final ∧ final.handle = .finished

end Tailpost.Agent
