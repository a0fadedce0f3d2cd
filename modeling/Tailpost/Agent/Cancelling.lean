import Tailpost.Agent.HandleSignals

/-!
# What the other agent keeps and what it gives up

The lines are conserved as in the first agent, and on a file that is only appended to
the agent refines the same relay.  What differs is what becomes of the batches.  The
requests of full batches have the context of the agent, so once `handleSignals` has
cancelled it they may fail; the requests that `flushLoop` starts, the last one before
`Stop` returns included, are not affected.
-/

namespace Tailpost.Agent

open Tailpost.Reader
open Tailpost.Sender
open Tailpost.Text
open Tailpost.Transition

/-! ## The order of the shutdown -/

/-- What has been stopped when `handleSignals` is at a position. -/
def Sequenced (service : Service) : Prop :=
  match service.handle with
  | .running | .cancel =>
      service.cancelled = false ∧ service.reader.stopCh = false ∧
        service.sender.callers 1 = .idle
  | .stopReader =>
      service.cancelled = true ∧ service.reader.stopCh = false ∧
        service.sender.callers 1 = .idle
  | .readerStopping =>
      service.cancelled = true ∧ service.reader.stopCh = true ∧
        service.sender.callers 1 = .idle
  | .stopSender =>
      service.cancelled = true ∧ service.reader.pc = .stopped ∧
        service.sender.callers 1 = .idle
  | .senderStopping =>
      service.cancelled = true ∧ service.reader.pc = .stopped ∧
        service.sender.callers 1 ≠ .idle
  | .stopHealth | .waiting =>
      service.cancelled = true ∧ service.reader.pc = .stopped ∧
        service.sender.callers 1 = .stopped
  | .finished =>
      service.cancelled = true ∧ service.reader.pc = .stopped ∧
        service.sender.callers 1 = .stopped ∧ service.processing = .returned

/-- The tail goroutine does not move any more once it has returned. -/
theorem running_of_moves {disk : Disk} {reader after : FileReader} {action : TailStep}
    (moves : Reader.Moves disk reader action after) : reader.pc ≠ .stopped := by
  intro stopped
  cases moves <;> simp_all

namespace Sequenced

variable {service : Service}

theorem tail {reader : FileReader} {action : TailStep} (sequenced : Sequenced service)
    (moves : Reader.Moves service.disk service.reader action reader) :
    Sequenced { service with reader } := by
  have running := running_of_moves moves
  have same := (lines_of_moves moves).1
  unfold Sequenced at sequenced ⊢
  cases position : service.handle <;> simp_all

/-- Steps of the sender that are not steps of its `Stop` call. -/
theorem sender {next : HTTPSender Line} {contexts : List Context} {aborted : List Nat}
    (sequenced : Sequenced service) (same : next.callers 1 = service.sender.callers 1) :
    Sequenced { service with sender := next, contexts, aborted } := by
  unfold Sequenced at sequenced ⊢
  dsimp only
  rw [same]
  exact sequenced

end Sequenced

/-- The invariant of the agent. -/
structure Keeps (batchSize : Int) (service : Service) : Prop where
  conveys : Conveys service.reader service.sender service.processing service.cancelled
  sequenced : Sequenced service
  size : service.sender.batchSize = batchSize
  fills : ∀ id, (service.sender.callers id).Fills service.sender.batchSize service.sender.batch
  sized : List.Forall₂ (Sized agentContext service.sender.batchSize) service.contexts
    service.sender.dispatched
  aborted : ∀ index ∈ service.aborted, service.contexts[index]? = some agentContext ∧
    service.cancelled = true
  closed : service.sender.loop = .done → service.sender.stoppedCh = true

/-- `flushLoop` closes `stoppedCh` when it returns. -/
theorem closed_of_moves {sender after : HTTPSender Line} {action : Sender.Action Line}
    (moves : HTTPSender.Moves sender action after)
    (closed : sender.loop = .done → sender.stoppedCh = true) :
    after.loop = .done → after.stoppedCh = true := by
  cases moves with
  | start | tick | quit | loopLock | loopFlush => exact LoopPc.noConfusion
  | @loopUnlock deferred => cases deferred <;> exact LoopPc.noConfusion
  | loopClose => exact fun _ => rfl
  | _ => exact closed

/-- A call of `Stop` does not become an idle caller again. -/
theorem busy_of_stop {sender after : HTTPSender Line} {id : Nat}
    (moves : HTTPSender.Moves sender (.call id) after)
    (stopping : Stopping (sender.callers id) sender.stopCh sender.loop) :
    after.callers id ≠ .idle := by
  cases moves with
  | sendUnlock position =>
      rw [position] at stopping
      contradiction
  | @stopUnlock _ closed =>
      rw [HTTPSender.callers_goto_self]
      cases closed <;> simp
  | _ =>
      rw [HTTPSender.callers_goto_self]
      simp

namespace Keeps

variable {batchSize : Int} {service after : Service}

/-- What a step of the sender keeps, whoever takes it. -/
theorem advance {action : Sender.Action Line} {sender : HTTPSender Line}
    (keeps : Keeps batchSize service) (moves : HTTPSender.Moves service.sender action sender)
    (conveys : Conveys service.reader sender service.processing service.cancelled)
    (sequenced : Sequenced (service.advance action sender)) :
    Keeps batchSize (service.advance action sender) where
  conveys := conveys
  sequenced := sequenced
  size := (HTTPSender.batchSize_of_moves moves).trans keeps.size
  fills := HTTPSender.fills_of_moves keeps.conveys.serves.exclusive keeps.fills moves
  sized := HTTPSender.sized_of_moves keeps.conveys.serves.exclusive
    keeps.conveys.serves.partitions keeps.fills keeps.sized moves
  aborted := by
    intro index member
    rcases keeps.aborted index member with ⟨context, cancelled⟩
    exact ⟨List.getElem?_append_left (List.getElem?_eq_some_iff.mp context).1 ▸ context, cancelled⟩
  closed := closed_of_moves moves keeps.closed

theorem moves {event : Option DiskEvent} (keeps : Keeps batchSize service)
    (moves : Service.Moves service event after) : Keeps batchSize after := by
  have conveys := keeps.conveys
  have sequenced := keeps.sequenced
  have serves := conveys.serves
  cases moves with
  | disk => exact { keeps with }
  | tail moves =>
      exact { keeps with conveys := conveys.tail moves, sequenced := sequenced.tail moves }
  | background moves background =>
      have callers := (serves.background moves background).2.2
      exact keeps.advance moves (conveys.background moves background)
        (sequenced.sender (congrFun callers 1))
  | @abort index sender context isCancelled moves =>
      have callers := (serves.background moves trivial).2.2
      have kept := keeps.advance moves (conveys.background moves trivial)
        (sequenced.sender (congrFun callers 1))
      simp only [Service.advance, HTTPSender.started, List.append_nil] at kept
      refine { kept with aborted := ?_ }
      intro other member
      rcases List.mem_cons.mp member with rfl | earlier
      · exact ⟨context, isCancelled⟩
      · exact keeps.aborted other earlier
  | ctxDone position isCancelled =>
      refine { keeps with conveys := ?_, sequenced := ?_ }
      · exact { conveys with
          idle := fun _ => conveys.idle (by rw [position]; exact ProcessingPc.noConfusion)
          returned := fun _ => isCancelled }
      · unfold Sequenced at sequenced ⊢
        cases handle : service.handle <;> simp_all
  | @receive line rest position available idle =>
      refine { keeps with conveys := conveys.receive available idle, sequenced := ?_, fills := ?_ }
      · unfold Sequenced at sequenced ⊢
        cases handle : service.handle <;> simp_all [HTTPSender.goto]
      · exact HTTPSender.fills_of_moves serves.exclusive keeps.fills (.callSend idle)
  | sent position idle =>
      refine { keeps with conveys := ?_, sequenced := ?_ }
      · exact { conveys with
          idle := fun _ => idle
          returned := ProcessingPc.noConfusion }
      · unfold Sequenced at sequenced ⊢
        cases handle : service.handle <;> simp_all
  | send position moves =>
      have same := (HTTPSender.frame_of_call moves).1 1 (by decide)
      rw [position] at conveys
      have next := conveys.send moves
      rw [← position] at next
      exact keeps.advance moves next (sequenced.sender same)
  | signal position =>
      rw [Sequenced, position] at sequenced
      exact { keeps with sequenced }
  | cancel position =>
      rw [Sequenced, position] at sequenced
      exact { keeps with
        conveys := { conveys with returned := fun _ => rfl }
        sequenced := ⟨rfl, sequenced.2⟩
        aborted := fun index member => ⟨(keeps.aborted index member).1, rfl⟩ }
  | stopReader position =>
      rw [Sequenced, position] at sequenced
      exact { keeps with
        conveys := { conveys with }
        sequenced := ⟨sequenced.1, rfl, sequenced.2.2⟩ }
  | readerStopped position stopped =>
      rw [Sequenced, position] at sequenced
      exact { keeps with sequenced := ⟨sequenced.1, stopped, sequenced.2.2⟩ }
  | stopSender position idle =>
      rw [Sequenced, position] at sequenced
      exact { keeps with
        conveys := conveys.callStop idle
        sequenced := ⟨sequenced.1, sequenced.2.1, by
          rw [HTTPSender.callers_goto_self]
          simp⟩
        fills := HTTPSender.fills_of_moves serves.exclusive keeps.fills (.callStop idle) }
  | senderStopping position moves =>
      rw [Sequenced, position] at sequenced
      refine keeps.advance moves (conveys.stop moves) ?_
      rw [Sequenced, show (service.advance (.call 1) _).handle = _ from position]
      exact ⟨sequenced.1, sequenced.2.1, busy_of_stop moves serves.stopping⟩
  | senderStopped position stopped =>
      rw [Sequenced, position] at sequenced
      exact { keeps with sequenced := ⟨sequenced.1, sequenced.2.1, stopped⟩ }
  | healthStopped position =>
      rw [Sequenced, position] at sequenced
      exact { keeps with sequenced }
  | finish position returned =>
      rw [Sequenced, position] at sequenced
      exact { keeps with
        sequenced := ⟨sequenced.1, sequenced.2.1, sequenced.2.2, returned⟩ }

end Keeps

theorem keeps_start {disk : Disk} {opens seeks : Bool} {reader : FileReader}
    (started : FileReader.start disk opens seeks = some reader) (batchSize : Int) :
    Keeps (HTTPSender.effectiveBatchSize batchSize) (Service.start disk reader batchSize) := by
  constructor
  case conveys => exact (conserves_start started batchSize).toConveys
  case sequenced =>
    rcases FileReader.start_eq_some started with ⟨inode, named, rfl⟩
    exact ⟨rfl, rfl, rfl⟩
  case size => rfl
  case fills => exact fun _ => trivial
  case sized => exact .nil
  case aborted => simp [Service.start]
  case closed => exact LoopPc.noConfusion

theorem keeps_of_run {disk : Disk} {opens seeks : Bool} {reader : FileReader} {batchSize : Int}
    {schedule : List ServiceAction} {final : Service}
    (started : FileReader.start disk opens seeks = some reader)
    (ran : run Service.step (Service.start disk reader batchSize) schedule = some final) :
    Keeps (HTTPSender.effectiveBatchSize batchSize) final :=
  invariant_of_run_of_forall (fun _ _ _ keeps taken => keeps.moves (Service.moves_of_step taken))
    (keeps_start started batchSize) ran

/-! ## The relay -/

/-- The parts that the agent shares with the pipeline. -/
def Service.parts (service : Service) : Parts :=
  ⟨service.disk, service.reader, service.sender⟩

/-- The parts move as those of the first agent do. -/
theorem Service.Moves.parts {service after : Service} {event : Option DiskEvent}
    (moves : Service.Moves service event after) : service.parts.Moves event after.parts := by
  have unmoved : service.parts.Moves none service.parts := .stop service.reader.stopCh
  cases moves with
  | disk applied => exact .disk applied
  | tail moves => exact .tail moves
  | background moves | abort _ _ moves | send _ moves | senderStopping _ moves =>
      exact .send service.reader.lines moves
  | @receive line rest _ _ idle => exact .send rest (.callSend idle)
  | stopSender _ idle => exact .send service.reader.lines (.callStop idle)
  | stopReader => exact .stop true
  | _ => exact unmoved

theorem service_refines (inode generation base limit : Nat) (batchSize : Int) :
    Refines Service.step (fun _ action => AppendsOnly action.diskEvent)
      (fun service => Keeps batchSize service ∧ Follows inode generation base limit service.parts)
      (Relay.step limit) (fun _ => True) (fun service => seen generation base service.parts) := by
  constructor
  · rintro service action after ⟨keeps, follows⟩ appendsOnly taken
    have moves := Service.moves_of_step taken
    have kept := keeps.moves moves
    exact ⟨kept, follows.moves appendsOnly moves.parts kept.conveys.serves.partitions
      kept.conveys.front⟩
  · rintro service action after ⟨keeps, follows⟩ appendsOnly taken
    have moves := Service.moves_of_step taken
    have kept := keeps.moves moves
    have shown := follows.shows (follows.moves appendsOnly moves.parts
      kept.conveys.serves.partitions kept.conveys.front) moves.parts
    exact shown.imp_right fun ⟨reaction, stepped⟩ => ⟨reaction, trivial, stepped⟩

/-- On a file that is only appended to, the other agent is a relay as well. -/
theorem service_refines_relay {disk : Disk} {opens seeks : Bool} {reader : FileReader}
    {batchSize : Int} {schedule : List ServiceAction} {final : Service}
    (started : FileReader.start disk opens seeks = some reader)
    (appendsOnly : ∀ action ∈ schedule, AppendsOnly action.diskEvent)
    (ran : run Service.step (Service.start disk reader batchSize) schedule = some final) :
    ∃ initial content, disk.fileAtPath = some initial ∧
      final.disk.fileAtPath = some content ∧
      Reaches (Relay.step (HTTPSender.effectiveBatchSize batchSize).toNat) (fun _ => True)
        .empty
        { source := lines isNewline (content.drop initial.length)
          batches := final.sender.dispatched.map (List.map Line.text) } := by
  -- the parts of both agents start in the same state
  obtain ⟨inode, named, follows, nothing⟩ := follows_start started batchSize
  obtain ⟨⟨_, followsFinal⟩, reaches⟩ :=
    (service_refines inode (disk.holds inode) (disk.size inode) _ _).reaches
      ⟨keeps_start started batchSize, follows⟩ (meets_of_forall_mem _ appendsOnly) ran
  have shown : seen _ _ (Service.start disk reader batchSize).parts = _ := nothing
  rw [shown] at reaches
  exact ⟨_, _, fileAtPath_of_path named, followsFinal.fileAtPath, reaches⟩

/-- Three lines are written, read and sent; with batch size two the first two are
dispatched. -/
def threeLines : List ServiceAction :=
  [.disk (.append 0 [97, 10, 98, 10, 99, 10]), .tail .select, .tail (.fill 4096), .tail .line,
    .tail .put, .tail .select, .tail .line, .tail .put, .tail .select, .tail .line, .tail .put,
    .process .receive, .process .call, .process .call, .process .call, .process .call,
    .process .call,
    .process .receive, .process .call, .process .call, .process .call, .process .call,
    .process .call, .process .call,
    .process .receive, .process .call, .process .call, .process .call, .process .call,
    .process .call]

/-- A tick flushes the third line. -/
theorem service_refines_relay_threeLines :
    ∃ reader final content,
      FileReader.start (Disk.single [120]) true true = some reader ∧
      run Service.step (Service.start (Disk.single [120]) reader 2)
        (threeLines ++ [.tick, .flush, .flush, .flush]) = some final ∧
      final.disk.fileAtPath = some content ∧
      Reaches (Relay.step 2) (fun _ => True) .empty
        { source := lines isNewline (content.drop 1)
          batches := final.sender.dispatched.map (List.map Line.text) } ∧
      final.sender.dispatched.map (List.map Line.text) = [[[97], [98]], [[99]]] := by
  rcases service_refines_relay
    (rfl : FileReader.start (Disk.single [120]) true true = some _)
    (by simp [threeLines, ServiceAction.diskEvent, AppendsOnly])
    (rfl : run Service.step (Service.start (Disk.single [120]) _ 2)
      (threeLines ++ [.tick, .flush, .flush, .flush]) = some _) with
    ⟨initial, content, initialEq, contentEq, reaches⟩
  cases initialEq
  cases contentEq
  exact ⟨_, _, _, rfl, rfl, rfl, reaches, rfl⟩

/-! ## What cancelling aborts -/

/-- A request that has not returned and whose batch is full. -/
def InFlightFull (batchSize : Int) (sender : HTTPSender Line) (index : Nat) : Prop :=
  ∃ logs, sender.batches.deliveries[index]? = some ⟨logs, false⟩ ∧
    (sender.batches.heap.contents logs).length = batchSize

theorem Service.exists_abort_iff {service : Service} {index : Nat} :
    (∃ after, service.step (.abort index) = some after) ↔
      (service.contexts[index]? = some agentContext ∧ service.cancelled = true) ∧
        ∃ logs, service.sender.batches.deliveries[index]? = some ⟨logs, false⟩ := by
  rw [Service.step]
  split
  next enabled =>
    simp only [Service.senderStep, HTTPSender.step, enabled, and_self, true_and]
    rcases service.sender.batches.deliveries[index]? with _ | ⟨logs, _ | _⟩ <;> simp
  next disabled => simp [disabled]

/-- The shutdown from the moment the context is cancelled. -/
def quitting : List ServiceAction :=
  [.handle, .tail .select, .handle, .handle, .handle, .handle, .handle, .quit, .flush, .flush,
    .flush, .flush, .handle, .handle, .handle, .process .ctxDone, .handle]

theorem flushes_of_service_moves {lines : List Line} {service after : Service}
    {event : Option DiskEvent} (serves : Serves service.sender)
    (flushes : HTTPSender.Flushes lines service.sender)
    (moves : Service.Moves service event after) : HTTPSender.Flushes lines after.sender := by
  cases moves with
  | background moves | abort _ _ moves | send _ moves | senderStopping _ moves =>
      exact serves.flushes flushes moves
  | receive _ _ idle => exact serves.flushes flushes (.callSend idle)
  | stopSender _ idle => exact serves.flushes flushes (.callStop idle)
  | _ => exact flushes

/-- When the shutdown has finished, every line that was accepted before `handleSignals`
called `logSender.Stop()` has been dispatched, also those accepted after the signal. -/
theorem accepted_dispatched_of_finished {disk : Disk} {opens seeks : Bool} {reader : FileReader}
    {batchSize : Int} {before rest : List ServiceAction} {middle final : Service}
    (started : FileReader.start disk opens seeks = some reader)
    (ran : run Service.step (Service.start disk reader batchSize) before = some middle)
    (notStopped : middle.sender.callers 1 = .idle)
    (ranRest : run Service.step middle rest = some final) (finished : final.handle = .finished) :
    middle.sender.accepted <+: final.sender.dispatched.flatten := by
  have keeps := keeps_of_run started ran
  have kept : Keeps (HTTPSender.effectiveBatchSize batchSize) final ∧
      HTTPSender.Flushes middle.sender.accepted final.sender := by
    apply invariant_of_run_of_forall _ _ ranRest
    · rintro service action after ⟨keeps, flushes⟩ taken
      have moves := Service.moves_of_step taken
      exact ⟨keeps.moves moves, flushes_of_service_moves keeps.conveys.serves flushes moves⟩
    · exact ⟨keeps, List.prefix_rfl, fun flushed =>
        absurd flushed (keeps.conveys.serves.not_flushed notStopped)⟩
  rcases kept with ⟨keepsFinal, flushes⟩
  have sequenced := keepsFinal.sequenced
  rw [Sequenced, finished] at sequenced
  have stopping := keepsFinal.conveys.serves.stopping
  rw [sequenced.2.2.1] at stopping
  apply flushes.dispatched
  rw [show final.sender.loop = .done from stopping]
  trivial

/-- Three lines are accepted when the signal comes. -/
theorem accepted_dispatched_of_finished_threeLines :
    ∃ reader middle final, FileReader.start (Disk.single []) true true = some reader ∧
      run Service.step (Service.start (Disk.single []) reader 2) threeLines = some middle ∧
      run Service.step middle ([.handle, .handle] ++ quitting) = some final ∧
      middle.sender.accepted.map Line.text = [[97], [98], [99]] ∧
      middle.sender.accepted <+: final.sender.dispatched.flatten := by
  refine ⟨_, _, _, rfl, rfl, rfl, rfl, ?_⟩
  exact accepted_dispatched_of_finished
    (rfl : FileReader.start (Disk.single []) true true = some _)
    (rfl : run Service.step (Service.start (Disk.single []) _ 2) threeLines = some _) rfl
    (rfl : run Service.step _ ([.handle, .handle] ++ quitting) = some _) rfl

end Tailpost.Agent
