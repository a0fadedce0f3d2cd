import Tailpost.Agent.Refinement
import Tailpost.Sender.Filling

/-!
# The other agent

`main` of `cmd/agent/main.go` connects the same components in another way.
`processLogs` sends every line with the context of the agent, `handleSignals` stops the
reader before the sender and the health server after it, and no timeout ends the wait
for `processLogs`.  Because `handleSignals` cancels that context first, a request that
was started by a full batch and has not returned by then fails.
-/

namespace Tailpost.Agent

open Tailpost.Reader
open Tailpost.Sender
open Tailpost.Text
open Tailpost.Transition

/-- Where `handleSignals` is. -/
inductive HandlePc
  /-- At `<-sigCh`. -/
  | running
  | cancel
  /-- Before `logReader.Stop()`. -/
  | stopReader
  /-- At `<-r.stoppedCh`. -/
  | readerStopping
  /-- Before `logSender.Stop()`. -/
  | stopSender
  /-- In `logSender.Stop()`. -/
  | senderStopping
  /-- Before `healthServer.Stop()`, which returns after its own timeout at the latest. -/
  | stopHealth
  /-- At `<-processingDone`. -/
  | waiting
  | finished
  deriving DecidableEq

/-- The context that `main` creates. -/
def agentContext : Context :=
  .cancellable 0

/-- The agent of `cmd/agent/main.go`. -/
structure Service where
  disk : Disk
  reader : FileReader
  sender : HTTPSender Line
  processing : ProcessingPc
  /-- Whether the context is cancelled. -/
  cancelled : Bool
  handle : HandlePc
  /-- The contexts of the deliveries, in dispatch order. -/
  contexts : List Context
  /-- The deliveries whose requests failed because of their contexts. -/
  aborted : List Nat

/-- The alternatives of `processLogs`. -/
inductive ProcessStep
  /-- It receives from `ctx.Done()`. -/
  | ctxDone
  /-- It receives a line and calls `SendWithContext`. -/
  | receive
  /-- It takes the next step of `SendWithContext`, or goes back to its `select`. -/
  | call
  deriving DecidableEq

/-- Who moves next. -/
inductive ServiceAction
  | disk (event : DiskEvent)
  | tail (action : TailStep)
  /-- `flushLoop` receives from its ticker. -/
  | tick
  /-- `flushLoop` receives from `stopCh`. -/
  | quit
  /-- `flushLoop` takes its next step. -/
  | flush
  /-- A delivery attempt ends. -/
  | deliver (index : Nat)
  /-- The request of a delivery fails because its context is cancelled. -/
  | abort (index : Nat)
  | process (step : ProcessStep)
  | handle
  deriving DecidableEq

namespace Service

/-- The agent right after `main` called `processLogs` and `handleSignals`. -/
def start (disk : Disk) (reader : FileReader) (batchSize : Int) : Service where
  disk := disk
  reader := reader
  sender := { HTTPSender.newHTTPSender batchSize with loop := .select }
  processing := .select
  cancelled := false
  handle := .running
  contexts := []
  aborted := []

/-- The sender takes a step. -/
def senderStep (service : Service) (action : Sender.Action Line) : Option Service :=
  (service.sender.step action).map fun sender =>
    { service with
      sender
      contexts := service.contexts ++ service.sender.started (fun _ => agentContext) action }

/-- The steps of `processLogs`. -/
def processLogs (service : Service) : ProcessStep → Option Service
  | .ctxDone =>
      if service.processing = .select ∧ service.cancelled then
        some { service with processing := .returned }
      else
        none
  | .receive =>
      match service.processing, service.reader.lines with
      | .select, line :: rest =>
          { service with
            reader := { service.reader with lines := rest }
            processing := .sending }.senderStep (.send 0 line)
      | _, _ => none
  | .call =>
      match service.processing, service.sender.callers 0 with
      | .sending, .idle => some { service with processing := .select }
      | .sending, _ => service.senderStep (.call 0)
      | _, _ => none

/-- The next step of `handleSignals`. -/
def handleSignals (service : Service) : Option Service :=
  match service.handle with
  | .running => some { service with handle := .cancel }
  | .cancel => some { service with cancelled := true, handle := .stopReader }
  | .stopReader =>
      if service.reader.stopCh then
        none
      else
        some { service with
          reader := { service.reader with stopCh := true }
          handle := .readerStopping }
  | .readerStopping =>
      if service.reader.pc = .stopped then some { service with handle := .stopSender } else none
  | .stopSender => { service with handle := .senderStopping }.senderStep (.stop 1)
  | .senderStopping =>
      if service.sender.callers 1 = .stopped then
        some { service with handle := .stopHealth }
      else
        service.senderStep (.call 1)
  | .stopHealth => some { service with handle := .waiting }
  | .waiting =>
      if service.processing = .returned then some { service with handle := .finished } else none
  | .finished => none

/-- One step of the agent or its environment. -/
def step (service : Service) : ServiceAction → Option Service
  | .disk event => (service.disk.apply event).map fun disk => { service with disk }
  | .tail action =>
      (tailFile service.disk service.reader action).map fun reader => { service with reader }
  | .tick => service.senderStep .tick
  | .quit => service.senderStep .quit
  | .flush => service.senderStep .loop
  | .deliver index => service.senderStep (.deliver index)
  | .abort index =>
      if service.contexts[index]? = some agentContext ∧ service.cancelled then
        { service with aborted := index :: service.aborted }.senderStep (.deliver index)
      else
        none
  | .process step => service.processLogs step
  | .handle => service.handleSignals

/-! ## What one step can do -/

/-- What a step of the sender makes of the agent. -/
def advance (service : Service) (action : Sender.Action Line) (sender : HTTPSender Line) :
    Service :=
  { service with
    sender
    contexts := service.contexts ++ service.sender.started (fun _ => agentContext) action }

/-- The enabled steps, by which component they move. -/
inductive Moves (service : Service) : Option DiskEvent → Service → Prop
  | disk {event : DiskEvent} {disk : Disk} : service.disk.apply event = some disk →
      Moves service (some event) { service with disk }
  | tail {action : TailStep} {reader : FileReader} :
      Reader.Moves service.disk service.reader action reader →
      Moves service none { service with reader }
  | background {action : Sender.Action Line} {sender : HTTPSender Line} :
      HTTPSender.Moves service.sender action sender → Pipeline.Background action →
      Moves service none (service.advance action sender)
  | abort {index : Nat} {sender : HTTPSender Line} :
      service.contexts[index]? = some agentContext → service.cancelled = true →
      HTTPSender.Moves service.sender (.deliver index) sender →
      Moves service none { service with sender, aborted := index :: service.aborted }
  | ctxDone : service.processing = .select → service.cancelled = true →
      Moves service none { service with processing := .returned }
  | receive {line : Line} {rest : List Line} : service.processing = .select →
      service.reader.lines = line :: rest → service.sender.callers 0 = .idle →
      Moves service none { service with
        reader := { service.reader with lines := rest }
        processing := .sending
        sender := service.sender.goto 0 (.sendLock line) }
  | sent : service.processing = .sending → service.sender.callers 0 = .idle →
      Moves service none { service with processing := .select }
  | send {sender : HTTPSender Line} : service.processing = .sending →
      HTTPSender.Moves service.sender (.call 0) sender →
      Moves service none (service.advance (.call 0) sender)
  | signal : service.handle = .running → Moves service none { service with handle := .cancel }
  | cancel : service.handle = .cancel →
      Moves service none { service with cancelled := true, handle := .stopReader }
  | stopReader : service.handle = .stopReader →
      Moves service none { service with
        reader := { service.reader with stopCh := true }
        handle := .readerStopping }
  | readerStopped : service.handle = .readerStopping → service.reader.pc = .stopped →
      Moves service none { service with handle := .stopSender }
  | stopSender : service.handle = .stopSender → service.sender.callers 1 = .idle →
      Moves service none { service with
        handle := .senderStopping
        sender := service.sender.goto 1 .stopLock }
  | senderStopping {sender : HTTPSender Line} : service.handle = .senderStopping →
      HTTPSender.Moves service.sender (.call 1) sender →
      Moves service none (service.advance (.call 1) sender)
  | senderStopped : service.handle = .senderStopping → service.sender.callers 1 = .stopped →
      Moves service none { service with handle := .stopHealth }
  | healthStopped : service.handle = .stopHealth →
      Moves service none { service with handle := .waiting }
  | finish : service.handle = .waiting → service.processing = .returned →
      Moves service none { service with handle := .finished }

end Service

/-- The event on the disk, if the action is one. -/
def ServiceAction.diskEvent : ServiceAction → Option DiskEvent
  | .disk event => some event
  | _ => none

namespace Service

variable {service after : Service}

theorem moves_of_senderStep {action : Sender.Action Line}
    (taken : service.senderStep action = some after) :
    ∃ sender, HTTPSender.Moves service.sender action sender ∧
      after = service.advance action sender := by
  rcases Option.map_eq_some_iff.mp taken with ⟨sender, stepped, rfl⟩
  exact ⟨sender, HTTPSender.moves_of_step stepped, rfl⟩

theorem moves_of_processLogs {step : ProcessStep} (taken : service.processLogs step = some after) :
    Moves service none after := by
  cases step with
  | ctxDone =>
      simp only [processLogs] at taken
      split at taken
      next enabled =>
        cases taken
        exact .ctxDone enabled.1 enabled.2
      next => contradiction
  | receive =>
      simp only [processLogs] at taken
      split at taken
      next line rest position available =>
        rcases moves_of_senderStep taken with ⟨sender, moves, rfl⟩
        cases moves with
        | callSend idle =>
            simp only [advance, HTTPSender.started, List.append_nil]
            exact .receive position available idle
      next => contradiction
  | call =>
      simp only [processLogs] at taken
      split at taken
      next position idle =>
        cases taken
        exact .sent position idle
      next position _ =>
        rcases moves_of_senderStep taken with ⟨sender, moves, rfl⟩
        exact .send position moves
      next => contradiction

theorem moves_of_handleSignals (taken : service.handleSignals = some after) :
    Moves service none after := by
  unfold handleSignals at taken
  split at taken
  case h_1 position =>
    cases taken
    exact .signal position
  case h_2 position =>
    cases taken
    exact .cancel position
  case h_3 position =>
    split at taken
    next => contradiction
    next =>
      cases taken
      exact .stopReader position
  case h_4 position =>
    split at taken
    next stopped =>
      cases taken
      exact .readerStopped position stopped
    next => contradiction
  case h_5 position =>
    rcases moves_of_senderStep taken with ⟨sender, moves, rfl⟩
    cases moves with
    | callStop idle =>
        simp only [advance, HTTPSender.started, List.append_nil]
        exact .stopSender position idle
  case h_6 position =>
    split at taken
    next stopped =>
      cases taken
      exact .senderStopped position stopped
    next =>
      rcases moves_of_senderStep taken with ⟨sender, moves, rfl⟩
      exact .senderStopping position moves
  case h_7 position =>
    cases taken
    exact .healthStopped position
  case h_8 position =>
    split at taken
    next returned =>
      cases taken
      exact .finish position returned
    next => contradiction
  case h_9 => contradiction

/-- Every step is one of the enabled steps. -/
theorem moves_of_step {action : ServiceAction} (taken : service.step action = some after) :
    Moves service action.diskEvent after := by
  cases action with
  | disk event =>
      rcases Option.map_eq_some_iff.mp taken with ⟨disk, applied, rfl⟩
      exact .disk applied
  | tail action =>
      rcases Option.map_eq_some_iff.mp taken with ⟨reader, stepped, rfl⟩
      exact .tail (moves_of_tailFile stepped)
  | tick | quit | flush | deliver =>
      rcases moves_of_senderStep taken with ⟨sender, moves, rfl⟩
      exact .background moves trivial
  | abort index =>
      simp only [step] at taken
      split at taken
      next enabled =>
        rcases moves_of_senderStep taken with ⟨sender, moves, rfl⟩
        simp only [advance, HTTPSender.started, List.append_nil]
        exact .abort enabled.1 enabled.2 moves
      next => contradiction
  | process step => exact moves_of_processLogs taken
  | handle => exact moves_of_handleSignals taken

end Service

end Tailpost.Agent
