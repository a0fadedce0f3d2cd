import Tailpost.Agent.Pipeline
import Tailpost.Sender.Stop

/-!
# Graceful shutdown

A line leaves the reader through the `Lines` channel, is in the hand of the
processing goroutine until its `Send` call takes the lock, and is accepted by
the sender from then on.  Nothing is lost on this way, but shutdown only waits
for accepted lines: the last flush of `flushLoop` dispatches what was accepted,
and neither the channel nor the hand of the processing goroutine is emptied.
-/

namespace Tailpost.Agent

open Tailpost.Reader
open Tailpost.Sender
open Tailpost.Transition

/-! ## The sender as the agent uses it -/

/-- How far the one `Stop` call has come. -/
def Stopping : CallerPc Line → Bool → LoopPc → Prop
  | .idle, stopCh, _ | .stopLock, stopCh, _ | .select, stopCh, _ => stopCh = false
  | .stopUnlock closed, stopCh, _ => closed = true ∧ stopCh = true
  | .wait, stopCh, _ => stopCh = true
  | .stopped, _, loop => loop = .done
  | _, _, _ => False

theorem Stopping.mono {pc : CallerPc Line} {stopCh : Bool} {loop next : LoopPc}
    (stopping : Stopping pc stopCh loop) (kept : loop = .done → next = .done) :
    Stopping pc stopCh next := by
  cases pc with
  | stopped => exact kept stopping
  | _ => exact stopping

/-- The line in the hand of a goroutine that called `Send` and has not taken the
lock yet. -/
def inHand : CallerPc Line → List Line
  | .sendLock line => [line]
  | _ => []

section Moves

variable {sender after : HTTPSender Line} {action : Sender.Action Line} {id : Nat}

/-- A step of a `Send` call hands its line over to the accepted ones when it
takes the lock. -/
theorem sends_of_call (moves : HTTPSender.Moves sender (.call id) after)
    (sends : (sender.callers id).Sends) :
    (after.callers id = .idle ∨ (after.callers id).Sends) ∧
      after.stopCh = sender.stopCh ∧
      after.accepted ++ inHand (after.callers id) =
        sender.accepted ++ inHand (sender.callers id) := by
  cases moves with
  | stopLock position | stopAgain position | stopClose position | stopUnlock position
  | stopReturn position =>
      rw [position] at sends
      contradiction
  | sendLock position | append position | full position | room position
  | sendFlush position =>
      rw [HTTPSender.callers_goto_self, position]
      exact ⟨Or.inr trivial, rfl, by simp [inHand, HTTPSender.goto]⟩
  | sendUnlock position =>
      rw [HTTPSender.callers_goto_self, position]
      exact ⟨Or.inl rfl, rfl, rfl⟩

/-- A step of the `Stop` call. -/
theorem stops_of_call (moves : HTTPSender.Moves sender (.call id) after)
    (stopping : Stopping (sender.callers id) sender.stopCh sender.loop)
    (closed : sender.stoppedCh = true → sender.loop = .done) :
    Stopping (after.callers id) after.stopCh after.loop ∧
      after.accepted = sender.accepted := by
  cases moves with
  | sendLock position | append position | full position | room position
  | sendFlush position | sendUnlock position =>
      rw [position] at stopping
      contradiction
  | stopLock position =>
      rw [position] at stopping
      rw [HTTPSender.callers_goto_self]
      exact ⟨stopping, rfl⟩
  | stopAgain position closedBefore =>
      rw [position] at stopping
      exact absurd (closedBefore.symm.trans stopping) Bool.noConfusion
  | stopClose position =>
      rw [HTTPSender.callers_goto_self]
      exact ⟨⟨rfl, rfl⟩, rfl⟩
  | stopUnlock position =>
      rw [position] at stopping
      rcases stopping with ⟨rfl, closedCh⟩
      rw [HTTPSender.callers_goto_self]
      exact ⟨closedCh, rfl⟩
  | stopReturn _ stopped =>
      rw [HTTPSender.callers_goto_self]
      exact ⟨closed stopped, rfl⟩

end Moves

/-- The processing goroutine only sends, `main` only stops, and nobody else calls
the sender. -/
structure Serves (sender : HTTPSender Line) : Prop where
  exclusive : Exclusive sender.lock sender.callers sender.loop
  partitions : sender.Partitions
  started : sender.loop ≠ .notStarted
  deferred : sender.loop.Deferred → sender.stopCh = true
  done : sender.stoppedCh = true → sender.loop = .done
  processing : sender.callers 0 = .idle ∨ (sender.callers 0).Sends
  stopping : Stopping (sender.callers 1) sender.stopCh sender.loop
  others : ∀ id, 1 < id → sender.callers id = .idle

/-- The lines that are accepted or in the hand of the processing goroutine. -/
def claimed (sender : HTTPSender Line) : List Line :=
  sender.accepted ++ inHand (sender.callers 0)

namespace Serves

variable {sender after : HTTPSender Line} {action : Sender.Action Line}

/-- The part of the invariant that does not depend on who calls. -/
theorem of_moves (serves : Serves sender) (moves : HTTPSender.Moves sender action after)
    (processing : after.callers 0 = .idle ∨ (after.callers 0).Sends)
    (stopping : Stopping (after.callers 1) after.stopCh after.loop)
    (others : ∀ id, 1 < id → after.callers id = .idle) : Serves after where
  exclusive := HTTPSender.exclusive_of_moves serves.exclusive moves
  partitions := HTTPSender.partitions_of_moves serves.exclusive serves.partitions moves
  started := HTTPSender.started_of_moves moves serves.started
  deferred := HTTPSender.deferred_of_moves serves.deferred moves
  done := HTTPSender.stoppedCh_of_moves moves serves.done
  processing := processing
  stopping := stopping
  others := others

theorem background (serves : Serves sender) (moves : HTTPSender.Moves sender action after)
    (background : Pipeline.Background action) :
    Serves after ∧ claimed after = claimed sender ∧ after.callers = sender.callers := by
  have frame : after.callers = sender.callers ∧ after.stopCh = sender.stopCh ∧
      after.accepted = sender.accepted := by
    cases moves with
    | tick | quit | loopLock | loopFlush | loopUnlock | loopClose | deliver =>
        exact ⟨rfl, rfl, rfl⟩
    | _ => contradiction
  rcases frame with ⟨callers, stopCh, accepted⟩
  refine ⟨?_, ?_, callers⟩
  · apply serves.of_moves moves
    · rw [callers]
      exact serves.processing
    · rw [callers, stopCh]
      exact serves.stopping.mono (HTTPSender.loop_done_of_moves moves)
    · rw [callers]
      exact serves.others
  · rw [claimed, claimed, callers, accepted]

theorem send (serves : Serves sender)
    (moves : HTTPSender.Moves sender (.call 0) after) :
    Serves after ∧ claimed after = claimed sender := by
  rcases HTTPSender.frame_of_call moves with ⟨others, loop⟩
  have sends : (sender.callers 0).Sends := by
    rcases serves.processing with idle | sends
    · cases moves <;> simp_all
    · exact sends
  rcases sends_of_call moves sends with ⟨processing, stopCh, claim⟩
  refine ⟨serves.of_moves moves processing ?_ ?_, claim⟩
  · rw [others 1 (by decide), stopCh, loop]
    exact serves.stopping
  · intro id later
    rw [others id (by omega)]
    exact serves.others id later

theorem stop (serves : Serves sender)
    (moves : HTTPSender.Moves sender (.call 1) after) :
    Serves after ∧ claimed after = claimed sender := by
  rcases HTTPSender.frame_of_call moves with ⟨others, _⟩
  rcases stops_of_call moves serves.stopping serves.done with ⟨stopping, accepted⟩
  constructor
  · apply serves.of_moves moves _ stopping
    · intro id later
      rw [others id (by omega)]
      exact serves.others id later
    · rw [others 0 (by decide)]
      exact serves.processing
  · rw [claimed, claimed, accepted, others 0 (by decide)]

/-- The processing goroutine calls `Send`. -/
theorem callSend (serves : Serves sender) (idle : sender.callers 0 = .idle) (line : Line) :
    Serves (sender.goto 0 (.sendLock line)) ∧
      claimed (sender.goto 0 (.sendLock line)) = claimed sender ++ [line] := by
  constructor
  · apply serves.of_moves (.callSend idle)
    · rw [HTTPSender.callers_goto_self]
      exact Or.inr trivial
    · exact serves.stopping
    · intro id later
      exact (Function.update_of_ne (by omega) _ _).trans (serves.others id later)
  · rw [claimed, claimed, HTTPSender.callers_goto_self, idle]
    simp [inHand, HTTPSender.goto]

/-- `main` calls `Stop`. -/
theorem callStop (serves : Serves sender) (idle : sender.callers 1 = .idle) :
    Serves (sender.goto 1 .stopLock) ∧ claimed (sender.goto 1 .stopLock) = claimed sender := by
  constructor
  · apply serves.of_moves (.callStop idle)
    · exact serves.processing
    · have stopping := serves.stopping
      rw [idle] at stopping
      rw [HTTPSender.callers_goto_self]
      exact stopping
    · intro id later
      exact (Function.update_of_ne (by omega) _ _).trans (serves.others id later)
  · rfl

end Serves

/-! ## Conservation of lines -/

/-- Where `main` is in the shutdown sequence, by the state of its `Stop` call and
of the reader's `stopCh`. -/
def Sequence : MainPc → CallerPc Line → Bool → Prop
  | .running, pc, stopCh | .cancel, pc, stopCh | .stopSender, pc, stopCh =>
      pc = .idle ∧ stopCh = false
  | .senderStopping, _, stopCh => stopCh = false
  | .stopReader, pc, stopCh => pc = .stopped ∧ stopCh = false
  | .readerStopping, pc, _ | .waiting, pc, _ | .finished, pc, _ => pc = .stopped

/-- The tail goroutine puts lines on the channel and takes none off. -/
theorem lines_of_moves {disk : Disk} {reader after : FileReader} {action : TailStep}
    (moves : Reader.Moves disk reader action after) :
    after.stopCh = reader.stopCh ∧
      ((after.lines = reader.lines ∧ after.emitted = reader.emitted) ∨
        ∃ line, after.lines = reader.lines ++ [line] ∧
          after.emitted = reader.emitted ++ [line] ∧
          reader.lines.length < linesCapacity) := by
  cases moves with
  | @put line _ room => exact ⟨rfl, Or.inr ⟨line, rfl, rfl, room⟩⟩
  | _ => exact ⟨rfl, Or.inl ⟨rfl, rfl⟩⟩

/-- Every line that was put on the channel is on the channel, in the hand of the
processing goroutine, or accepted, in this order from the back. -/
structure Conveys (reader : FileReader) (sender : HTTPSender Line) (processing : ProcessingPc)
    (cancelled : Bool) : Prop where
  serves : Serves sender
  flow : claimed sender ++ reader.lines = reader.emitted
  capacity : reader.lines.length ≤ linesCapacity
  idle : processing ≠ .sending → sender.callers 0 = .idle
  returned : processing = .returned → cancelled = true

namespace Conveys

variable {reader : FileReader} {sender next : HTTPSender Line} {processing : ProcessingPc}
  {cancelled : Bool}

theorem tail {disk : Disk} {after : FileReader} {action : TailStep}
    (conveys : Conveys reader sender processing cancelled)
    (moves : Reader.Moves disk reader action after) :
    Conveys after sender processing cancelled := by
  rcases lines_of_moves moves with ⟨_, ⟨lines, emitted⟩ | ⟨line, lines, emitted, room⟩⟩
  · refine { conveys with flow := ?_, capacity := ?_ }
    · rw [lines, emitted]
      exact conveys.flow
    · rw [lines]
      exact conveys.capacity
  · refine { conveys with flow := ?_, capacity := ?_ }
    · rw [lines, emitted, ← conveys.flow, List.append_assoc]
    · rw [lines, List.length_append]
      exact room

theorem background {action : Sender.Action Line}
    (conveys : Conveys reader sender processing cancelled)
    (moves : HTTPSender.Moves sender action next) (background : Pipeline.Background action) :
    Conveys reader next processing cancelled := by
  rcases conveys.serves.background moves background with ⟨serves, claims, callers⟩
  refine { conveys with serves, flow := ?_, idle := ?_ }
  · rw [claims]
    exact conveys.flow
  · rw [callers]
    exact conveys.idle

theorem receive {line : Line} {rest : List Line}
    (conveys : Conveys reader sender processing cancelled)
    (available : reader.lines = line :: rest) (idle : sender.callers 0 = .idle) :
    Conveys { reader with lines := rest } (sender.goto 0 (.sendLock line)) .sending
      cancelled := by
  rcases conveys.serves.callSend idle line with ⟨serves, claims⟩
  have flow := conveys.flow
  have capacity := conveys.capacity
  rw [available] at flow capacity
  constructor
  case serves => exact serves
  case flow =>
    rw [claims, List.append_assoc]
    exact flow
  case capacity => exact (Nat.le_succ _).trans capacity
  case idle => exact fun away => absurd rfl away
  case returned => exact ProcessingPc.noConfusion

theorem send (conveys : Conveys reader sender .sending cancelled)
    (moves : HTTPSender.Moves sender (.call 0) next) :
    Conveys reader next .sending cancelled := by
  rcases conveys.serves.send moves with ⟨serves, claims⟩
  refine { conveys with serves, flow := ?_, idle := fun away => absurd rfl away }
  rw [claims]
  exact conveys.flow

theorem stop (conveys : Conveys reader sender processing cancelled)
    (moves : HTTPSender.Moves sender (.call 1) next) :
    Conveys reader next processing cancelled := by
  rcases conveys.serves.stop moves with ⟨serves, claims⟩
  refine { conveys with serves, flow := ?_, idle := ?_ }
  · rw [claims]
    exact conveys.flow
  · rw [(HTTPSender.frame_of_call moves).1 0 (by decide)]
    exact conveys.idle

theorem callStop (conveys : Conveys reader sender processing cancelled)
    (idle : sender.callers 1 = .idle) :
    Conveys reader (sender.goto 1 .stopLock) processing cancelled := by
  rcases conveys.serves.callStop idle with ⟨serves, claims⟩
  refine { conveys with serves, flow := ?_ }
  rw [claims]
  exact conveys.flow

/-- What was dispatched was emitted before. -/
theorem front (conveys : Conveys reader sender processing cancelled) :
    sender.dispatched.flatten <+: reader.emitted := by
  have accepted : sender.accepted <+: reader.emitted := by
    rw [← conveys.flow, claimed, List.append_assoc]
    exact List.prefix_append _ _
  exact conveys.serves.partitions.flow.isPrefix.trans accepted

end Conveys

/-- The lines are on their way, and `main` is at some point of the shutdown. -/
structure Conserves (agent : Pipeline) : Prop
    extends Conveys agent.reader agent.sender agent.processing agent.cancelled where
  cancelled : agent.cancelled = true → agent.main ≠ .running ∧ agent.main ≠ .cancel
  sequence : Sequence agent.main (agent.sender.callers 1) agent.reader.stopCh

theorem conserves_of_moves {agent after : Pipeline} (conserves : Conserves agent)
    (moves : Pipeline.Moves agent after) : Conserves after := by
  have conveys := conserves.toConveys
  have sequence := conserves.sequence
  cases moves with
  | disk => exact { conserves with }
  | tail moves =>
      exact { conserves with
        toConveys := conveys.tail moves
        sequence := (lines_of_moves moves).1 ▸ sequence }
  | background moves background =>
      have callers := (conserves.serves.background moves background).2.2
      exact { conserves with
        toConveys := conveys.background moves background
        sequence := by rw [callers]; exact sequence }
  | ctxDone position isCancelled =>
      exact { conserves with
        idle := fun _ => conserves.idle (by rw [position]; exact ProcessingPc.noConfusion)
        returned := fun _ => isCancelled }
  | receive _ available idle =>
      exact { conserves with toConveys := conveys.receive available idle, sequence }
  | sent _ idle =>
      exact { conserves with
        idle := fun _ => idle
        returned := ProcessingPc.noConfusion }
  | send position moves =>
      rw [position] at conveys
      exact { conserves with
        toConveys := position ▸ conveys.send moves
        sequence := by rw [(HTTPSender.frame_of_call moves).1 1 (by decide)]; exact sequence }
  | signal position =>
      rw [position] at sequence
      exact { conserves with
        cancelled := fun early => absurd position (conserves.cancelled early).1
        sequence }
  | cancel position =>
      rw [position] at sequence
      exact { conserves with
        cancelled := fun _ => ⟨MainPc.noConfusion, MainPc.noConfusion⟩
        returned := fun _ => rfl
        sequence }
  | stopSender position idle =>
      rw [position] at sequence
      exact { conserves with
        toConveys := conveys.callStop idle
        cancelled := fun _ => ⟨MainPc.noConfusion, MainPc.noConfusion⟩
        sequence := sequence.2 }
  | senderStopping position moves =>
      rw [position] at sequence
      exact { conserves with
        toConveys := conveys.stop moves
        sequence := by rw [position]; exact sequence }
  | senderStopped position stopped =>
      rw [position] at sequence
      exact { conserves with
        cancelled := fun _ => ⟨MainPc.noConfusion, MainPc.noConfusion⟩
        sequence := ⟨stopped, sequence⟩ }
  | stopReader position =>
      rw [position] at sequence
      exact { conserves with
        toConveys := { conveys with }
        cancelled := fun _ => ⟨MainPc.noConfusion, MainPc.noConfusion⟩
        sequence := sequence.1 }
  | readerStopped position | finish position =>
      rw [position] at sequence
      exact { conserves with
        cancelled := fun _ => ⟨MainPc.noConfusion, MainPc.noConfusion⟩
        sequence }

/-- Nobody has called a new sender. -/
theorem serves_newHTTPSender (batchSize : Int) :
    Serves { (HTTPSender.newHTTPSender batchSize : HTTPSender Line) with loop := .select } where
  exclusive := by
    constructor <;> simp [HTTPSender.newHTTPSender, HTTPSender.create, CallerPc.Critical,
      LoopPc.Critical]
  partitions := HTTPSender.partitions_create (HTTPSender.one_le_effectiveBatchSize batchSize)
  started := LoopPc.noConfusion
  deferred := False.elim
  done := Bool.noConfusion
  processing := Or.inl rfl
  stopping := rfl
  others := fun _ _ => rfl

theorem conserves_start {disk : Disk} {opens seeks : Bool} {reader : FileReader}
    (started : FileReader.start disk opens seeks = some reader) (batchSize : Int) :
    Conserves (Pipeline.start disk reader batchSize) := by
  rcases FileReader.start_eq_some started with ⟨inode, named, rfl⟩
  constructor
  case toConveys =>
    exact
      { serves := serves_newHTTPSender batchSize
        flow := rfl
        capacity := Nat.zero_le _
        idle := fun _ => rfl
        returned := ProcessingPc.noConfusion }
  case cancelled => exact Bool.noConfusion
  case sequence => exact ⟨rfl, rfl⟩

/-! ## What shutdown guarantees -/

/-- When shutdown has finished, every line that was put on the channel before the
signal has been dispatched. -/
def StrandsNoLine (agent : Pipeline) : Prop :=
  ∀ ⦃signalled final : Pipeline⦄, agent.step .main = some signalled →
    Reaches Pipeline.step (fun _ => True) signalled final → final.main = .finished →
    agent.reader.emitted <+: final.sender.dispatched.flatten

/-- Before `Stop` is called the last flush is not over. -/
theorem Serves.not_flushed {sender : HTTPSender Line} (serves : Serves sender)
    (idle : sender.callers 1 = .idle) : ¬ sender.loop.Flushed := by
  intro flushed
  have stopping := serves.stopping
  rw [idle] at stopping
  rw [serves.deferred flushed.deferred] at stopping
  contradiction

theorem Serves.flushes {lines : List Line} {sender after : HTTPSender Line}
    {action : Sender.Action Line} (serves : Serves sender)
    (flushes : HTTPSender.Flushes lines sender) (moves : HTTPSender.Moves sender action after) :
    HTTPSender.Flushes lines after :=
  flushes.of_moves serves.exclusive serves.partitions.flow moves

theorem flushes_of_pipeline_moves {lines : List Line} {agent after : Pipeline}
    (serves : Serves agent.sender) (flushes : HTTPSender.Flushes lines agent.sender)
    (moves : Pipeline.Moves agent after) : HTTPSender.Flushes lines after.sender := by
  cases moves with
  | background moves | send _ moves | senderStopping _ moves =>
      exact serves.flushes flushes moves
  | receive _ _ idle => exact serves.flushes flushes (.callSend idle)
  | stopSender _ idle => exact serves.flushes flushes (.callStop idle)
  | _ => exact flushes

/-- Every line on the way before the last flush is accepted already. -/
def AllAccepted (agent : Pipeline) : Prop :=
  agent.reader.lines = [] ∧ inHand (agent.sender.callers 0) = []

/-- Lines that are accepted when the signal comes are not stranded. -/
theorem strandsNoLine_of_allAccepted {agent : Pipeline} (conserves : Conserves agent)
    (running : agent.main = .running) (allAccepted : AllAccepted agent) :
    StrandsNoLine agent := by
  intro signalled final signal reaches finished
  have accepted : agent.reader.emitted = agent.sender.accepted := by
    rw [← conserves.flow, claimed, allAccepted.1, allAccepted.2]
    simp
  have sequence := conserves.sequence
  rw [running] at sequence
  have early := conserves.serves.not_flushed sequence.1
  have same : signalled = { agent with main := .cancel } := by
    simpa [Pipeline.step, Pipeline.mainStep, running] using signal.symm
  subst same
  have conservesFinal : Conserves final ∧ HTTPSender.Flushes agent.reader.emitted final.sender := by
    apply reaches.invariant
    · rintro state action after ⟨conserved, flushes⟩ _ taken
      have moves := Pipeline.moves_of_step taken
      exact ⟨conserves_of_moves conserved moves,
        flushes_of_pipeline_moves conserved.serves flushes moves⟩
    · exact ⟨conserves_of_moves conserves (.signal running),
        ⟨[], by simpa using accepted⟩, fun flushed => absurd flushed early⟩
  rcases conservesFinal with ⟨conserved, flushes⟩
  have sequence := conserved.sequence
  have stopping := conserved.serves.stopping
  rw [finished] at sequence
  rw [show final.sender.callers 1 = .stopped from sequence] at stopping
  apply flushes.dispatched
  rw [show final.sender.loop = .done from stopping]
  trivial

end Tailpost.Agent
