import Tailpost.Agent.Shutdown

/-!
# Lines that shutdown strands

A line that is not accepted when the signal comes can stay where it is: the
processing goroutine does not move while `main` stops the sender and the reader,
and then the shutdown timeout fires.  Only a reader that is blocked on a full
channel has to be relieved of one line first.
-/

namespace Tailpost.Agent

open Tailpost.Reader
open Tailpost.Sender
open Tailpost.Transition

/-- Some schedule leads from one state of the agent to the other. -/
abbrev Path (source target : Pipeline) : Prop :=
  Reaches Pipeline.step (fun _ => True) source target

/-! ## Steps of one component -/

/-- The tail goroutine gets back to its loop when system calls fail and the
channel has room. -/
theorem reaches_loop (disk : Disk) {reader : FileReader}
    (room : reader.lines.length < linesCapacity) :
    ∃ target, Reaches (tailFile disk) (fun _ => True) reader target ∧
      (target.pc = .loop ∨ target.pc = .stopped) ∧ target.stopCh = reader.stopCh := by
  have put {reader : FileReader} {line : Line} (position : reader.pc = .send line)
      (room : reader.lines.length < linesCapacity) :
      tailFile disk reader .put = some { reader with
        lines := reader.lines ++ [line]
        pc := .loop
        emitted := reader.emitted ++ [line] } := by
    simp [tailFile, position, room]
  have giveUp {reader : FileReader} (position : reader.pc = .reopen) :
      tailFile disk reader .openFail = some reader.giveUp := by
    simp [tailFile, position]
  cases position : reader.pc with
  | loop => exact ⟨reader, Reaches.refl _ _ _, Or.inl position, rfl⟩
  | stopped => exact ⟨reader, Reaches.refl _ _ _, Or.inr position, rfl⟩
  | send line => exact ⟨_, Reaches.single trivial (put position room), Or.inl rfl, rfl⟩
  | reopen => exact ⟨_, Reaches.single trivial (giveUp position), Or.inl rfl, rfl⟩
  | stat =>
      have failed : tailFile disk reader .statFail = some reader.giveUp := by
        simp [tailFile, position]
      exact ⟨_, Reaches.single trivial failed, Or.inl rfl, rfl⟩
  | seek =>
      have failed : tailFile disk reader .seekFail = some reader.giveUp := by
        simp [tailFile, position]
      exact ⟨_, Reaches.single trivial failed, Or.inl rfl, rfl⟩
  | readString =>
      cases found : readString reader.buffer with
      | none =>
          have failed : tailFile disk reader .fail =
              some { reader with buffer := [], pc := .reopen } := by
            simp [tailFile, position, found]
          exact ⟨_, Reaches.head trivial failed (Reaches.single trivial (giveUp rfl)),
            Or.inl rfl, rfl⟩
      | some read =>
          rcases read with ⟨line, rest⟩
          have taken : tailFile disk reader .line = some (reader.accept line rest) := by
            simp [tailFile, position, found]
          by_cases empty : trimNewline line = []
          · exact ⟨_, Reaches.single trivial taken, by simp [FileReader.accept, empty], rfl⟩
          · have sending : (reader.accept line rest).pc = .send (trimNewline line) := by
              simp [FileReader.accept, empty]
            exact ⟨_, Reaches.head trivial taken (Reaches.single trivial (put sending room)),
              Or.inl rfl, rfl⟩

/-- How many steps a `Send` call that holds the lock needs at most. -/
def remaining : CallerPc Line → Nat
  | .append _ => 4
  | .check => 3
  | .flush => 2
  | .sendUnlock => 1
  | _ => 0

/-- The holder of the lock is never blocked in `Send`. -/
theorem call_of_remaining {sender : HTTPSender Line} {id : Nat}
    (holds : 0 < remaining (sender.callers id)) :
    ∃ after, sender.step (.call id) = some after ∧
      remaining (after.callers id) < remaining (sender.callers id) ∧
      (remaining (after.callers id) = 0 → after.callers id = .idle) := by
  cases position : sender.callers id with
  | append line =>
      refine ⟨_, by simp only [HTTPSender.step, HTTPSender.sendWithContext, position]; rfl, ?_⟩
      simp [remaining]
  | check =>
      by_cases full : sender.batchSize ≤ sender.batches.batch.length
      · refine ⟨sender.goto id .flush, ?_, ?_⟩
        · simp [HTTPSender.step, HTTPSender.sendWithContext, position, full]
        · simp [remaining]
      · refine ⟨sender.goto id .sendUnlock, ?_, ?_⟩
        · simp [HTTPSender.step, HTTPSender.sendWithContext, position, full]
        · simp [remaining]
  | flush =>
      refine ⟨_, by simp only [HTTPSender.step, HTTPSender.sendWithContext, position]; rfl, ?_⟩
      simp [remaining]
  | sendUnlock =>
      refine ⟨_, by simp only [HTTPSender.step, HTTPSender.sendWithContext, position]; rfl, ?_⟩
      simp [remaining]
  | _ => simp [position, remaining] at holds

/-- A `Send` call that holds the lock returns. -/
theorem reaches_idle {sender : HTTPSender Line} {id : Nat}
    (holds : 0 < remaining (sender.callers id)) :
    ∃ target, Reaches HTTPSender.step (· = .call id) sender target ∧
      target.callers id = .idle := by
  generalize bound : remaining (sender.callers id) = count at holds
  induction count using Nat.strongRecOn generalizing sender with
  | ind count ih =>
      rcases call_of_remaining (bound ▸ holds) with ⟨after, taken, fewer, ends⟩
      rw [bound] at fewer
      rcases Nat.eq_zero_or_pos (remaining (after.callers id)) with none | some
      · exact ⟨after, Reaches.single rfl taken, ends none⟩
      · rcases ih _ fewer rfl some with ⟨target, rest, idle⟩
        exact ⟨target, Reaches.head rfl taken rest, idle⟩

/-! ## The agent before shutdown -/

theorem Path.tail {agent : Pipeline} {reader : FileReader}
    (reaches : Reaches (tailFile agent.disk) (fun _ => True) agent.reader reader) :
    Path agent { agent with reader } := by
  refine reaches.lift (fun reader : FileReader => ({ agent with reader } : Pipeline)) ?_
  intro state action after _ taken
  exact ⟨.tail action, trivial, by simp [Pipeline.step, taken]⟩

theorem Path.flushLoop {agent : Pipeline} {sender : HTTPSender Line}
    (reaches : Reaches HTTPSender.step (· = .loop) agent.sender sender) :
    Path agent { agent with sender } := by
  refine reaches.lift (fun sender : HTTPSender Line => ({ agent with sender } : Pipeline)) ?_
  rintro state action after rfl taken
  exact ⟨.flush, trivial, by simp [Pipeline.step, Pipeline.senderStep, taken]⟩

theorem Path.process {agent : Pipeline} {sender : HTTPSender Line}
    (sending : agent.processing = .sending)
    (reaches : Reaches HTTPSender.step (· = .call 0) agent.sender sender) :
    Path agent { agent with sender } := by
  refine reaches.lift (fun sender : HTTPSender Line => ({ agent with sender } : Pipeline)) ?_
  rintro state action after rfl taken
  have busy : state.callers 0 ≠ .idle := by
    intro idle
    simp [HTTPSender.step, HTTPSender.sendWithContext, HTTPSender.stop, idle] at taken
  refine ⟨.process, trivial, ?_⟩
  simp only [Pipeline.step, sending]
  simp [Pipeline.senderStep, taken]

theorem Path.stop {agent : Pipeline} {sender : HTTPSender Line}
    (stopping : agent.main = .senderStopping)
    (reaches : Reaches HTTPSender.step (Action.Stops 1) agent.sender sender) :
    Path agent { agent with sender } := by
  refine reaches.lift (fun sender : HTTPSender Line => ({ agent with sender } : Pipeline)) ?_
  intro state action after stops taken
  cases action with
  | call id =>
      cases stops
      have running : state.callers 1 ≠ .stopped := by
        intro stopped
        simp [HTTPSender.step, HTTPSender.sendWithContext, HTTPSender.stop, stopped] at taken
      refine ⟨.main, trivial, ?_⟩
      simp [Pipeline.step, Pipeline.mainStep, stopping, running, Pipeline.senderStep, taken]
  | quit => exact ⟨.quit, trivial, by simp [Pipeline.step, Pipeline.senderStep, taken]⟩
  | loop => exact ⟨.flush, trivial, by simp [Pipeline.step, Pipeline.senderStep, taken]⟩
  | _ => contradiction

theorem Conserves.path {source target : Pipeline} (conserves : Conserves source)
    (path : Path source target) : Conserves target := by
  apply path.invariant _ conserves
  intro state action after conserved _ taken
  exact conserves_of_moves conserved (Pipeline.moves_of_step taken)

/-- Nobody but the processing goroutine is in a critical section before `main`
calls `Stop`. -/
theorem outside_of_cancel {agent : Pipeline} (conserves : Conserves agent)
    (cancel : agent.main = .cancel) (outside : ¬ (agent.sender.callers 0).Critical) :
    ∀ id, ¬ (agent.sender.callers id).Critical := by
  have sequence := conserves.sequence
  rw [cancel] at sequence
  intro id
  match id with
  | 0 => exact outside
  | 1 =>
      rw [sequence.1]
      exact not_false
  | other + 2 =>
      rw [conserves.serves.others (other + 2) (by omega)]
      exact not_false

/-- `flushLoop` is still serving ticks before `main` calls `Stop`. -/
theorem serving_of_cancel {agent : Pipeline} (conserves : Conserves agent)
    (cancel : agent.main = .cancel) :
    agent.sender.stopCh = false ∧ ¬ agent.sender.loop.Deferred := by
  have sequence := conserves.sequence
  have stopping := conserves.serves.stopping
  rw [cancel] at sequence
  rw [sequence.1] at stopping
  refine ⟨stopping, fun deferred => ?_⟩
  rw [conserves.serves.deferred deferred] at stopping
  contradiction

/-- `flushLoop` gets back to its `select` before `main` calls `Stop`. -/
theorem path_select {agent : Pipeline} (conserves : Conserves agent)
    (cancel : agent.main = .cancel) (outside : ¬ (agent.sender.callers 0).Critical) :
    ∃ batches, Path agent
      { agent with sender := { agent.sender with batches, lock := none, loop := .select } } := by
  rcases HTTPSender.reaches_select conserves.serves.exclusive
    (outside_of_cancel conserves cancel outside) conserves.serves.started
    (serving_of_cancel conserves cancel).2 with ⟨batches, _, reaches⟩
  exact ⟨batches, Path.flushLoop reaches⟩

/-- A `Send` call takes the lock before `main` calls `Stop`. -/
theorem path_lock {agent : Pipeline} (conserves : Conserves agent)
    (cancel : agent.main = .cancel) (sending : agent.processing = .sending)
    (sends : (agent.sender.callers 0).Sends) :
    ∃ sender, Path agent { agent with sender } ∧ 0 < remaining (sender.callers 0) := by
  cases call : agent.sender.callers 0 with
  | sendLock line =>
      have outside : ¬ (agent.sender.callers 0).Critical := by
        rw [call]
        exact not_false
      rcases path_select conserves cancel outside with ⟨batches, path⟩
      have locks : Pipeline.step
          { agent with sender := { agent.sender with batches, lock := none, loop := .select } }
          .process = some { agent with
            sender := { agent.sender with
              batches
              lock := some (.caller 0)
              loop := .select
              accepted := agent.sender.accepted ++ [line] }.goto 0 (.append line) } := by
        simp [Pipeline.step, Pipeline.senderStep, HTTPSender.step, HTTPSender.sendWithContext,
          HTTPSender.goto, sending, call]
      refine ⟨_, path.trans (Reaches.single trivial locks), ?_⟩
      rw [HTTPSender.callers_goto_self]
      exact Nat.succ_pos 3
  | append | check | flush | sendUnlock =>
      exact ⟨agent.sender, Reaches.refl _ _ _, by simp [call, remaining]⟩
  | _ =>
      rw [call] at sends
      contradiction

/-- The processing goroutine gets back to its `select` before `main` calls
`Stop`. -/
theorem path_processing {agent : Pipeline} (conserves : Conserves agent)
    (cancel : agent.main = .cancel) :
    ∃ sender, Path agent { agent with sender, processing := .select } := by
  have back {sender : HTTPSender Line} (sending : agent.processing = .sending)
      (idle : sender.callers 0 = .idle) : Pipeline.step { agent with sender } .process =
        some { agent with sender, processing := .select } := by
    simp [Pipeline.step, sending, idle]
  cases position : agent.processing with
  | select => exact ⟨agent.sender, by rw [← position]; exact Reaches.refl _ _ _⟩
  | returned =>
      exact absurd cancel (conserves.cancelled (conserves.returned position)).2
  | sending =>
      rcases conserves.serves.processing with idle | sends
      · exact ⟨agent.sender, Reaches.single trivial (back position idle)⟩
      · rcases path_lock conserves cancel position sends with ⟨locked, path, holds⟩
        rcases reaches_idle holds with ⟨sender, reaches, idle⟩
        have returns : Path { agent with sender := locked } { agent with sender } :=
          Path.process position reaches
        exact ⟨sender, path.trans (returns.trans
          (Reaches.single trivial (back position idle)))⟩

/-! ## Shutdown without the processing goroutine -/

/-- `main` cancels the context and stops the sender. -/
theorem path_stopReader (agent : Pipeline) (cancel : agent.main = .cancel)
    (idle : agent.sender.callers 1 = .idle) (free : agent.sender.lock = none)
    (select : agent.sender.loop = .select) (running : agent.sender.stopCh = false) :
    ∃ sender, sender.accepted = agent.sender.accepted ∧
      Path agent { agent with sender, cancelled := true, main := .stopReader } := by
  have cancels : agent.step .main =
      some { agent with cancelled := true, main := .stopSender } := by
    simp [Pipeline.step, Pipeline.mainStep, cancel]
  have calls : Pipeline.step { agent with cancelled := true, main := .stopSender } .main =
      some { agent with
        sender := agent.sender.goto 1 .stopLock
        cancelled := true
        main := .senderStopping } := by
    simp [Pipeline.step, Pipeline.mainStep, Pipeline.senderStep, HTTPSender.step, idle]
  rcases (⟨_, HTTPSender.reaches_stopped (HTTPSender.callers_goto_self _ 1 .stopLock) free select
      running, HTTPSender.callers_goto_self .., rfl⟩ :
    ∃ sender, Reaches HTTPSender.step (Action.Stops 1) (agent.sender.goto 1 .stopLock) sender ∧
      sender.callers 1 = .stopped ∧ sender.accepted = agent.sender.accepted) with
    ⟨sender, stops, stopped, accepted⟩
  have stopping : Path
      { agent with
        sender := agent.sender.goto 1 .stopLock
        cancelled := true
        main := .senderStopping }
      { agent with sender, cancelled := true, main := .senderStopping } :=
    Path.stop rfl stops
  have returns : Pipeline.step { agent with sender, cancelled := true, main := .senderStopping }
      .main = some { agent with sender, cancelled := true, main := .stopReader } := by
    simp [Pipeline.step, Pipeline.mainStep, stopped]
  exact ⟨sender, accepted, Reaches.head trivial cancels
    (Reaches.head trivial calls (stopping.trans (Reaches.single trivial returns)))⟩

/-- `main` stops a reader that is at its loop, and then waits until the shutdown
timeout fires. -/
theorem path_timeout (agent : Pipeline) (position : agent.main = .stopReader)
    (running : agent.reader.stopCh = false)
    (resting : agent.reader.pc = .loop ∨ agent.reader.pc = .stopped) :
    ∃ reader, Path agent { agent with reader, main := .finished } := by
  have stops : agent.step .main = some { agent with
      reader := { agent.reader with stopCh := true }
      main := .readerStopping } := by
    simp [Pipeline.step, Pipeline.mainStep, position, running]
  have ends {reader : FileReader} (stopped : reader.pc = .stopped) :
      Path { agent with reader, main := .readerStopping }
        { agent with reader, main := .finished } := by
    refine ⟨[.main, .timeout], by simp, ?_⟩
    simp [run, Pipeline.step, Pipeline.mainStep, stopped]
  rcases resting with atLoop | stopped
  · have exits : Pipeline.step
        { agent with
          reader := { agent.reader with stopCh := true }
          main := .readerStopping }
        (.tail .select) = some { agent with
          reader := { agent.reader with stopCh := true, file := none, pc := .stopped }
          main := .readerStopping } := by
      simp [Pipeline.step, tailFile, atLoop]
    exact ⟨_, Reaches.head trivial stops (Reaches.head trivial exits (ends rfl))⟩
  · exact ⟨_, Reaches.head trivial stops (ends stopped)⟩

/-- Shutdown can finish while the processing goroutine stays where it is, unless
the channel is full. -/
theorem path_finished {agent : Pipeline} (conserves : Conserves agent)
    (cancel : agent.main = .cancel) (outside : ¬ (agent.sender.callers 0).Critical)
    (room : agent.reader.lines.length < linesCapacity) :
    ∃ final, Path agent final ∧ final.main = .finished ∧
      final.sender.accepted = agent.sender.accepted := by
  have sequence := conserves.sequence
  rw [cancel] at sequence
  rcases sequence with ⟨idle, readerRuns⟩
  rcases serving_of_cancel conserves cancel with ⟨running, _⟩
  rcases path_select conserves cancel outside with ⟨batches, served⟩
  rcases reaches_loop agent.disk room with ⟨reader, walked, resting, stopCh⟩
  have walks : Path
      { agent with sender := { agent.sender with batches, lock := none, loop := .select } }
      { agent with
        reader
        sender := { agent.sender with batches, lock := none, loop := .select } } :=
    Path.tail walked
  rcases path_stopReader { agent with
      reader
      sender := { agent.sender with batches, lock := none, loop := .select } }
    cancel idle rfl rfl running with ⟨sender, accepted, stops⟩
  rcases path_timeout { agent with reader, sender, cancelled := true, main := .stopReader } rfl
    (stopCh.trans readerRuns) resting with ⟨_, ends⟩
  exact ⟨_, served.trans (walks.trans (stops.trans ends)), rfl, accepted⟩

/-! ## What shutdown guarantees, exactly -/

/-- With a line on a channel that is not full, shutdown can finish before all
lines are accepted. -/
theorem path_strands {agent : Pipeline} (conserves : Conserves agent)
    (cancel : agent.main = .cancel) (select : agent.processing = .select)
    (nonempty : agent.reader.lines ≠ [])
    (room : agent.reader.lines.length < linesCapacity) :
    ∃ final, Path agent final ∧ final.main = .finished ∧
      final.sender.accepted.length < agent.reader.emitted.length := by
  have idle : agent.sender.callers 0 = .idle :=
    conserves.idle (by rw [select]; exact ProcessingPc.noConfusion)
  have outside : ¬ (agent.sender.callers 0).Critical := by
    rw [idle]
    exact not_false
  rcases path_finished conserves cancel outside room with ⟨final, path, finished, accepted⟩
  refine ⟨final, path, finished, ?_⟩
  rw [accepted, ← conserves.flow, claimed, idle]
  simpa [inHand, List.length_pos_iff] using nonempty

/-- A line that is not accepted when the signal comes can be stranded. -/
theorem exists_stranded {agent : Pipeline} (conserves : Conserves agent)
    (cancel : agent.main = .cancel) (pending : ¬ AllAccepted agent) :
    ∃ final, Path agent final ∧ final.main = .finished ∧
      final.sender.accepted.length < agent.reader.emitted.length := by
  by_cases empty : agent.reader.lines = []
  · -- the line is in the hand of the processing goroutine, which stays before the lock
    rcases List.exists_mem_of_ne_nil (inHand (agent.sender.callers 0))
      (fun none => pending ⟨empty, none⟩) with ⟨line, held⟩
    have outside : ¬ (agent.sender.callers 0).Critical := by
      cases call : agent.sender.callers 0 <;> simp_all [inHand, CallerPc.Critical]
    rcases path_finished conserves cancel outside (by rw [empty]; decide) with
      ⟨final, path, finished, accepted⟩
    refine ⟨final, path, finished, ?_⟩
    rw [accepted, ← conserves.flow, claimed, empty]
    simpa using List.length_pos_of_mem held
  · rcases path_processing conserves cancel with ⟨sender, selects⟩
    have conserved := conserves.path selects
    by_cases room : agent.reader.lines.length < linesCapacity
    · rcases path_strands conserved cancel rfl empty room with ⟨final, path, finished, fewer⟩
      exact ⟨final, selects.trans path, finished, fewer⟩
    · -- one line makes room for the one that the reader may be blocked on
      cases available : agent.reader.lines with
      | nil => contradiction
      | cons line rest =>
          have full : rest.length + 1 = linesCapacity := by
            have capacity := conserves.capacity
            rw [available, List.length_cons] at capacity room
            omega
          have idle : sender.callers 0 = .idle := conserved.idle ProcessingPc.noConfusion
          have receives : Pipeline.step { agent with sender, processing := .select } .receive =
              some { agent with
                reader := { agent.reader with lines := rest }
                sender := sender.goto 0 (.sendLock line)
                processing := .sending } := by
            simp [Pipeline.step, Pipeline.senderStep, HTTPSender.step, available, idle]
          have relieved := selects.trans (Reaches.single trivial receives)
          rcases path_processing (conserves.path relieved) cancel with ⟨next, selectsAgain⟩
          have path := relieved.trans selectsAgain
          have some : rest ≠ [] := by
            rintro rfl
            contradiction
          rcases path_strands (conserves.path path) cancel rfl some
            (Nat.lt_of_succ_le full.le) with ⟨final, strands, finished, fewer⟩
          exact ⟨final, path.trans strands, finished, fewer⟩

/-- Shutdown strands no line exactly if every line that was put on the channel is
accepted by the sender when the signal comes: the channel is empty, and the
processing goroutine holds no line for which it waits for the lock. -/
theorem strandsNoLine_iff_allAccepted {disk : Disk} {opens seeks : Bool}
    {reader : FileReader} {batchSize : Int} {schedule : List Action} {agent : Pipeline}
    (started : FileReader.start disk opens seeks = some reader)
    (ran : run Pipeline.step (.start disk reader batchSize) schedule = some agent)
    (running : agent.main = .running) :
    StrandsNoLine agent ↔ AllAccepted agent := by
  have conserves : Conserves agent :=
    (conserves_start started batchSize).path ⟨schedule, fun _ _ => trivial, ran⟩
  constructor
  · intro strandsNoLine
    by_contra pending
    have signal : agent.step .main = some { agent with main := .cancel } := by
      simp [Pipeline.step, Pipeline.mainStep, running]
    have conserved := conserves.path (Reaches.single trivial signal)
    rcases exists_stranded conserved rfl pending with ⟨final, path, finished, fewer⟩
    have dispatched : final.sender.dispatched.flatten <+: final.sender.accepted :=
      (conserved.path path).serves.partitions.flow.isPrefix
    have emitted := (strandsNoLine signal path finished).trans dispatched
    exact absurd emitted.length_le (Nat.not_le.mpr fewer)
  · exact strandsNoLine_of_allAccepted conserves running

/-- The signal comes while a line is in the batch.  The last flush dispatches it. -/
theorem strandsNoLine_iff_allAccepted_oneLine :
    ∃ reader agent signalled final,
      FileReader.start (Disk.single []) true true = some reader ∧
      run Pipeline.step (.start (Disk.single []) reader 10)
        [.disk (.append 0 [97, 10]), .tail .select, .tail (.fill 4096), .tail .line,
          .tail .put, .receive, .process, .process, .process, .process, .process] = some agent ∧
      agent.reader.emitted.map Line.text = [[97]] ∧ agent.sender.dispatched = [] ∧
      StrandsNoLine agent ∧ agent.step .main = some signalled ∧
      run Pipeline.step signalled
        [.main, .ctxDone, .main, .main, .main, .main, .quit, .flush, .flush, .flush, .flush,
          .main, .main, .main, .tail .select, .main, .main] = some final ∧
      final.main = .finished ∧ final.sender.dispatched = [agent.reader.emitted] := by
  refine ⟨_, _, _, _, rfl, rfl, rfl, rfl, ?_, rfl, rfl, rfl, rfl⟩
  exact (strandsNoLine_iff_allAccepted (rfl : FileReader.start (Disk.single []) true true = some _)
    (rfl : run Pipeline.step (.start (Disk.single []) _ 10)
      [.disk (.append 0 [97, 10]), .tail .select, .tail (.fill 4096), .tail .line,
        .tail .put, .receive, .process, .process, .process, .process, .process] = some _)
    rfl).mpr ⟨rfl, rfl⟩

/-- A line is on the channel when the signal comes.  The processing goroutine
sees the cancelled context first and returns, shutdown finishes without the
timeout, and the line is still on the channel. -/
theorem shutdown_strands_line :
    ∃ reader agent signalled final,
      FileReader.start (Disk.single []) true true = some reader ∧
      run Pipeline.step (.start (Disk.single []) reader 10)
        [.disk (.append 0 [97, 10]), .tail .select, .tail (.fill 4096), .tail .line,
          .tail .put] = some agent ∧
      agent.main = .running ∧ agent.step .main = some signalled ∧
      run Pipeline.step signalled
        [.main, .ctxDone, .main, .main, .main, .main, .quit, .flush, .flush, .flush, .flush,
          .main, .main, .main, .tail .select, .main, .main] = some final ∧
      final.main = .finished ∧ final.reader.lines.map Line.text = [[97]] ∧
      ¬ agent.reader.emitted <+: final.sender.dispatched.flatten := by
  refine ⟨_, _, _, _, rfl, rfl, rfl, rfl, rfl, rfl, rfl, ?_⟩
  decide

end Tailpost.Agent
