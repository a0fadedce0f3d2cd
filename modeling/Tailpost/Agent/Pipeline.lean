import Tailpost.Reader.FileReader
import Tailpost.Sender.HTTPSender

/-!
# The agent

`main` of `cmd/agent.go` connects a file reader to an HTTP sender.  One goroutine
receives from the `Lines` channel and calls `Send`; its `select` also watches the
context.  On a signal `main` cancels the context, stops the sender, stops the reader, and
waits for that goroutine, but no longer than the shutdown timeout.

The sender knows two of its callers: the processing goroutine is caller `0` and
`main` is caller `1`.
-/

namespace Tailpost.Agent

open Tailpost.Reader (Line FileReader Disk DiskEvent TailStep)
open Tailpost.Sender (HTTPSender CallerPc)

/-- Where the processing goroutine is. -/
inductive ProcessingPc
  | select
  /-- In `Send`, or right behind it. -/
  | sending
  | returned
  deriving DecidableEq

/-- Where `main` is. -/
inductive MainPc
  /-- At `<-sigCh`. -/
  | running
  | cancel
  /-- Before `httpSender.Stop()`. -/
  | stopSender
  /-- In `httpSender.Stop()`. -/
  | senderStopping
  /-- Before `logReader.Stop()`. -/
  | stopReader
  /-- At `<-r.stoppedCh`. -/
  | readerStopping
  /-- At the `select` on `done` and the shutdown timeout. -/
  | waiting
  | finished
  deriving DecidableEq

/-- The agent of `cmd/agent.go`. -/
structure Pipeline where
  disk : Disk
  reader : FileReader
  sender : HTTPSender Line
  processing : ProcessingPc
  /-- Whether the context is cancelled. -/
  cancelled : Bool
  main : MainPc

/-- Who moves next. -/
inductive Action
  | disk (event : DiskEvent)
  | tail (action : TailStep)
  /-- `flushLoop` receives from its ticker. -/
  | tick
  /-- `flushLoop` receives from `stopCh`. -/
  | quit
  /-- `flushLoop` takes its next step. -/
  | flush
  /-- A delivery attempt ends. -/
  | deliver (index : Nat)
  /-- The processing goroutine receives from `ctx.Done()`. -/
  | ctxDone
  /-- The processing goroutine receives a line and calls `Send`. -/
  | receive
  /-- The processing goroutine takes the next step of `Send`, or goes back to its
  `select`. -/
  | process
  /-- `main` takes its next step. -/
  | main
  /-- The shutdown timeout fires. -/
  | timeout
  deriving DecidableEq

namespace Pipeline

/-- The agent right after `main` started its components. -/
def start (disk : Disk) (reader : FileReader) (batchSize : Int) : Pipeline where
  disk := disk
  reader := reader
  sender := { HTTPSender.newHTTPSender batchSize with loop := .select }
  processing := .select
  cancelled := false
  main := .running

/-- The sender takes a step. -/
def senderStep (agent : Pipeline) (action : Sender.Action Line) : Option Pipeline :=
  (agent.sender.step action).map fun sender => { agent with sender }

/-- The next step of the shutdown sequence. -/
def mainStep (agent : Pipeline) : Option Pipeline :=
  match agent.main with
  | .running => some { agent with main := .cancel }
  | .cancel => some { agent with cancelled := true, main := .stopSender }
  | .stopSender => { agent with main := .senderStopping }.senderStep (.stop 1)
  | .senderStopping =>
      if agent.sender.callers 1 = .stopped then
        some { agent with main := .stopReader }
      else
        agent.senderStep (.call 1)
  | .stopReader =>
      if agent.reader.stopCh then
        none
      else
        some { agent with
          reader := { agent.reader with stopCh := true }
          main := .readerStopping }
  | .readerStopping =>
      if agent.reader.pc = .stopped then some { agent with main := .waiting } else none
  | .waiting =>
      if agent.processing = .returned then some { agent with main := .finished } else none
  | .finished => none

/-- One step of the agent or its environment. -/
def step (agent : Pipeline) : Action → Option Pipeline
  | .disk event => (agent.disk.apply event).map fun disk => { agent with disk }
  | .tail action =>
      (Reader.tailFile agent.disk agent.reader action).map fun reader =>
        { agent with reader }
  | .tick => agent.senderStep .tick
  | .quit => agent.senderStep .quit
  | .flush => agent.senderStep .loop
  | .deliver index => agent.senderStep (.deliver index)
  | .ctxDone =>
      if agent.processing = .select ∧ agent.cancelled then
        some { agent with processing := .returned }
      else
        none
  | .receive =>
      match agent.processing, agent.reader.lines with
      | .select, line :: rest =>
          { agent with
            reader := { agent.reader with lines := rest }
            processing := .sending }.senderStep (.send 0 line)
      | _, _ => none
  | .process =>
      match agent.processing, agent.sender.callers 0 with
      | .sending, .idle => some { agent with processing := .select }
      | .sending, _ => agent.senderStep (.call 0)
      | _, _ => none
  | .main => agent.mainStep
  | .timeout =>
      if agent.main = .waiting then some { agent with main := .finished } else none

/-! ## What one step can do -/

/-- The steps that sender goroutines take on their own. -/
def Background : Sender.Action Line → Prop
  | .tick | .quit | .loop | .deliver _ => True
  | _ => False

/-- The enabled steps, by which component they move. -/
inductive Moves (agent : Pipeline) : Pipeline → Prop
  | disk {event : DiskEvent} {disk : Disk} : agent.disk.apply event = some disk →
      Moves agent { agent with disk }
  | tail {action : TailStep} {reader : FileReader} :
      Reader.Moves agent.disk agent.reader action reader → Moves agent { agent with reader }
  | background {action : Sender.Action Line} {sender : HTTPSender Line} :
      HTTPSender.Moves agent.sender action sender → Background action →
      Moves agent { agent with sender }
  | ctxDone : agent.processing = .select → agent.cancelled = true →
      Moves agent { agent with processing := .returned }
  | receive {line : Line} {rest : List Line} : agent.processing = .select →
      agent.reader.lines = line :: rest → agent.sender.callers 0 = .idle →
      Moves agent { agent with
        reader := { agent.reader with lines := rest }
        processing := .sending
        sender := agent.sender.goto 0 (.sendLock line) }
  | sent : agent.processing = .sending → agent.sender.callers 0 = .idle →
      Moves agent { agent with processing := .select }
  | send {sender : HTTPSender Line} : agent.processing = .sending →
      HTTPSender.Moves agent.sender (.call 0) sender → Moves agent { agent with sender }
  | signal : agent.main = .running → Moves agent { agent with main := .cancel }
  | cancel : agent.main = .cancel →
      Moves agent { agent with cancelled := true, main := .stopSender }
  | stopSender : agent.main = .stopSender → agent.sender.callers 1 = .idle →
      Moves agent { agent with
        main := .senderStopping
        sender := agent.sender.goto 1 .stopLock }
  | senderStopping {sender : HTTPSender Line} : agent.main = .senderStopping →
      HTTPSender.Moves agent.sender (.call 1) sender → Moves agent { agent with sender }
  | senderStopped : agent.main = .senderStopping → agent.sender.callers 1 = .stopped →
      Moves agent { agent with main := .stopReader }
  | stopReader : agent.main = .stopReader →
      Moves agent { agent with
        reader := { agent.reader with stopCh := true }
        main := .readerStopping }
  | readerStopped : agent.main = .readerStopping → agent.reader.pc = .stopped →
      Moves agent { agent with main := .waiting }
  | finish : agent.main = .waiting → Moves agent { agent with main := .finished }

theorem moves_of_senderStep {agent after : Pipeline} {action : Sender.Action Line}
    (taken : agent.senderStep action = some after) :
    ∃ sender, HTTPSender.Moves agent.sender action sender ∧ after = { agent with sender } := by
  rcases Option.map_eq_some_iff.mp taken with ⟨sender, stepped, rfl⟩
  exact ⟨sender, HTTPSender.moves_of_step stepped, rfl⟩

theorem moves_of_mainStep {agent after : Pipeline} (taken : agent.mainStep = some after) :
    Moves agent after := by
  unfold mainStep at taken
  split at taken
  case h_1 position =>
    cases taken
    exact .signal position
  case h_2 position =>
    cases taken
    exact .cancel position
  case h_3 position =>
    rcases moves_of_senderStep taken with ⟨sender, moves, rfl⟩
    cases moves with
    | callStop idle => exact .stopSender position idle
  case h_4 position =>
    split at taken
    next stopped =>
      cases taken
      exact .senderStopped position stopped
    next =>
      rcases moves_of_senderStep taken with ⟨sender, moves, rfl⟩
      exact .senderStopping position moves
  case h_5 position =>
    split at taken
    next => contradiction
    next =>
      cases taken
      exact .stopReader position
  case h_6 position =>
    split at taken
    next stopped =>
      cases taken
      exact .readerStopped position stopped
    next => contradiction
  case h_7 position =>
    split at taken
    next =>
      cases taken
      exact .finish position
    next => contradiction
  case h_8 => contradiction

/-- Every step is one of the enabled steps. -/
theorem moves_of_step {agent after : Pipeline} {action : Action}
    (taken : agent.step action = some after) : Moves agent after := by
  cases action with
  | disk event =>
      rcases Option.map_eq_some_iff.mp taken with ⟨disk, applied, rfl⟩
      exact .disk applied
  | tail action =>
      rcases Option.map_eq_some_iff.mp taken with ⟨reader, stepped, rfl⟩
      exact .tail (Reader.moves_of_tailFile stepped)
  | tick | quit | flush | deliver =>
      rcases moves_of_senderStep taken with ⟨sender, moves, rfl⟩
      exact .background moves trivial
  | ctxDone =>
      simp only [step] at taken
      split at taken
      next enabled =>
        cases taken
        exact .ctxDone enabled.1 enabled.2
      next => contradiction
  | receive =>
      simp only [step] at taken
      split at taken
      next line rest position available =>
        rcases moves_of_senderStep taken with ⟨sender, moves, rfl⟩
        cases moves with
        | callSend idle => exact .receive position available idle
      next => contradiction
  | process =>
      simp only [step] at taken
      split at taken
      next position idle =>
        cases taken
        exact .sent position idle
      next position _ =>
        rcases moves_of_senderStep taken with ⟨sender, moves, rfl⟩
        exact .send position moves
      next => contradiction
  | main => exact moves_of_mainStep taken
  | timeout =>
      simp only [step] at taken
      split at taken
      next position =>
        cases taken
        exact .finish position
      next => contradiction

end Pipeline

end Tailpost.Agent
