import Tailpost.Memory.Channel
import Tailpost.Reader.MacOSLogReader
import Tailpost.Transition.Simulation
import Tailpost.Transition.Stopping

/-!
# Stopping the reader of the macOS log

The `log` command goes on writing for as long as it runs, and it runs until `readLogs` is
on its way out.  `readLogs` looks at `stopCh` when it has a line to send, and not while it
waits for one.  So `Stop` depends on the command to write another line that is not blank,
and the signal that would end the command comes only after it.
-/

namespace Tailpost.Reader

open MacOSLogReader (forwarded forwarded_cons_of_blank forwarded_cons_of_visible)
open Tailpost.Memory
open Tailpost.Text
open Tailpost.Text.Scanner
open Tailpost.Transition
open Tailpost.Utf8

/-- The goroutine and the command. -/
structure LogStream where
  /-- The output that the scanner has passed. -/
  passed : Bytes
  /-- The rest of the output so far. -/
  unread : Bytes
  /-- The command has closed its output. -/
  ended : Bool
  pc : ReadLogsPc
  lines : Channel Bytes

namespace LogStream

/-- All output of the command so far. -/
def written (stream : LogStream) : Bytes :=
  stream.passed ++ stream.unread

/-- The reader at the start of the command, which has written nothing. -/
def start : LogStream where
  passed := []
  unread := []
  ended := false
  pc := .scan
  lines := .make macOSLinesCapacity

/-- The scanner needs more output before it can tell what comes next. -/
def awaits (stream : LogStream) : Bool :=
  !stream.ended && (cutLine isNewline stream.unread).isNone &&
    decide (stream.unread.length < maxScanTokenSize)

/-- The scanner goes on behind a token. -/
def pass (stream : LogStream) (rest : Bytes) (pc : ReadLogsPc) : LogStream :=
  { stream with
    passed := stream.passed ++ stream.unread.take (stream.unread.length - rest.length)
    unread := rest
    pc := pc }

/-- The steps of the loop and of the error report behind it; the `select` cases for `stopCh`
are in `leaves`. -/
def readLogs (told : Bool) (stream : LogStream) : Option LogStream :=
  match stream.pc with
  | .scan =>
      if stream.awaits then
        none
      else
        match scan maxScanTokenSize stream.unread with
        | .token line rest => some (stream.pass rest (if isVisible line then .send line else .scan))
        | .tooLong => some { stream with pc := .report }
        | .done => some { stream with pc := .done }
  | .send line => (stream.lines.send line).map fun lines => { stream with lines, pc := .scan }
  | .report =>
      if told then none
      else some { stream with lines := stream.lines.trySend errorMsg, pc := .done }
  | .done => none

/-- The function returns. -/
def leaves (told : Bool) (stream : LogStream) : Bool :=
  match stream.pc with
  | .scan => false
  | .send _ => told
  | .report => told
  | .done => true

/-- The command is made to end. -/
def terminate (stream : LogStream) : LogStream :=
  { stream with ended := true }

/-- What happens around the goroutine. -/
inductive Event
  /-- The command writes some output. -/
  | write (output : Bytes)
  /-- The command ends by itself. -/
  | exit
  /-- The consumer receives a line. -/
  | receive

/-- The effect of such an event. -/
def environment (stream : LogStream) : Event → Option LogStream
  | .write output =>
      if stream.ended then none else some { stream with unread := stream.unread ++ output }
  | .exit => some { stream with ended := true }
  | .receive => stream.lines.receive.map fun lines => { stream with lines }

/-- The goroutine as a worker: it is told to stop through `stopCh`. -/
def worker : Worker LogStream Unit Event where
  work told stream _ := stream.readLogs told
  leaves := leaves
  cleanUp := terminate
  environment := environment

/-- The goroutine with its `Stop`. -/
abbrev System :=
  Stopping LogStream

/-- The steps of the system. -/
abbrev System.Action :=
  StoppingAction Unit Event

/-! ## Waiting for output -/

/-- What was written so far has nothing but short blank lines, and the command may go on. -/
structure Quiet (stream : LogStream) : Prop where
  runs : stream.ended = false
  blank : ∀ line ∈ terminated isNewline stream.unread,
    line.length < maxScanTokenSize ∧ isVisible (dropCR line) = false
  short : (unterminated isNewline stream.unread).length < maxScanTokenSize

section Quiet

variable {stream : LogStream}

theorem awaits_iff : stream.awaits = true ↔ stream.ended = false ∧
    cutLine isNewline stream.unread = none ∧ stream.unread.length < maxScanTokenSize := by
  simp [awaits, and_assoc]

/-- The scanner finds the first line of what is there. -/
theorem scan_of_cutLine {line rest : Bytes}
    (cut : cutLine isNewline stream.unread = some (line, rest)) :
    scan maxScanTokenSize stream.unread =
      if line.length ≤ maxScanTokenSize then .token (dropCR line.dropLast) rest else .tooLong := by
  rw [scan, cut]

/-- Behind a blank line things are as quiet as in front of it. -/
theorem quiet_pass_iff {line rest : Bytes}
    (cut : cutLine isNewline stream.unread = some (line, rest))
    (short : line.length ≤ maxScanTokenSize) (blank : isVisible (dropCR line.dropLast) = false) :
    Quiet (stream.pass rest .scan) ↔ Quiet stream := by
  have length := length_dropLast_of_cutLine cut
  constructor
  · rintro ⟨runs, others, tail⟩
    refine ⟨runs, ?_, ?_⟩
    · rw [terminated_of_cutLine cut]
      exact List.forall_mem_cons.mpr ⟨⟨by omega, blank⟩, others⟩
    · rwa [unterminated_of_cutLine cut]
  · rintro ⟨runs, others, tail⟩
    rw [terminated_of_cutLine cut] at others
    rw [unterminated_of_cutLine cut] at tail
    exact ⟨runs, (List.forall_mem_cons.mp others).2, tail⟩

theorem not_quiet_of_visible {line rest : Bytes}
    (cut : cutLine isNewline stream.unread = some (line, rest))
    (visible : isVisible (dropCR line.dropLast) = true) : ¬ Quiet stream := by
  intro quiet
  have first := quiet.blank line.dropLast (by rw [terminated_of_cutLine cut]; exact .head _)
  rw [visible] at first
  exact absurd first.2 nofun

theorem not_quiet_of_long {line rest : Bytes}
    (cut : cutLine isNewline stream.unread = some (line, rest))
    (long : ¬ line.length ≤ maxScanTokenSize) : ¬ Quiet stream := by
  intro quiet
  have first := quiet.blank line.dropLast (by rw [terminated_of_cutLine cut]; exact .head _)
  have length := length_dropLast_of_cutLine cut
  omega

end Quiet

/-! ## Leaving the loop -/

section Leaving

variable {stream : LogStream}

/-- A goroutine that has something to send sees that it is told to stop. -/
theorem canLeave_of_not_scan (elsewhere : stream.pc ≠ .scan) : worker.CanLeave stream := by
  apply Worker.canLeave_of_leaves
  change stream.leaves true = true
  unfold leaves
  split
  next => contradiction
  all_goals rfl

theorem canLeave_scan_iff (scanning : stream.pc = .scan) :
    worker.CanLeave stream ↔ ∃ next, stream.readLogs true = some next ∧ worker.CanLeave next := by
  have stays : worker.leaves true stream = false := by
    change stream.leaves true = false
    rw [leaves, scanning]
  rw [Worker.canLeave_iff stays]
  exact ⟨fun ⟨_, next, moved, rest⟩ => ⟨next, moved, rest⟩,
    fun ⟨next, moved, rest⟩ => ⟨(), next, moved, rest⟩⟩

theorem readLogs_of_ready (scanning : stream.pc = .scan) (ready : stream.awaits = false)
    (told : Bool) :
    stream.readLogs told =
      match scan maxScanTokenSize stream.unread with
      | .token line rest => some (stream.pass rest (if isVisible line then .send line else .scan))
      | .tooLong => some { stream with pc := .report }
      | .done => some { stream with pc := .done } := by
  simp [readLogs, scanning, ready]

/-- The scanner stops at a line that is too long. -/
theorem canLeave_of_tooLong (scanning : stream.pc = .scan) (ready : stream.awaits = false)
    (long : scan maxScanTokenSize stream.unread = .tooLong) : worker.CanLeave stream := by
  rw [canLeave_scan_iff scanning, readLogs_of_ready scanning ready, long]
  exact ⟨_, rfl, canLeave_of_not_scan nofun⟩

/-- The scanner finds a token. -/
theorem canLeave_token_iff (scanning : stream.pc = .scan) (ready : stream.awaits = false)
    {line rest : Bytes} (token : scan maxScanTokenSize stream.unread = .token line rest) :
    worker.CanLeave stream ↔
      (isVisible line = false → worker.CanLeave (stream.pass rest .scan)) := by
  rw [canLeave_scan_iff scanning, readLogs_of_ready scanning ready, token]
  cases visible : isVisible line with
  | false => simp [visible]
  | true =>
      have leaving : worker.CanLeave (stream.pass rest (.send line)) := canLeave_of_not_scan nofun
      simp [visible, leaving]

theorem not_awaits_of_ended (ended : stream.ended = true) : stream.awaits = false := by
  simp [awaits, ended]

theorem not_awaits_of_cutLine {line rest : Bytes}
    (cut : cutLine isNewline stream.unread = some (line, rest)) : stream.awaits = false := by
  simp [awaits, cut]

/-- Behind the end of the output there is nothing to wait for. -/
theorem canLeave_of_ended (ended : stream.ended = true) : worker.CanLeave stream := by
  induction size : stream.unread.length using Nat.strongRecOn generalizing stream with
  | ind _ ih =>
      by_cases scanning : stream.pc = .scan
      · have ready := not_awaits_of_ended ended
        have finds := finds_scan maxScanTokenSize stream.unread
        cases found : scan maxScanTokenSize stream.unread with
        | token line rest =>
            rw [canLeave_token_iff scanning ready found]
            intro _
            rw [found] at finds
            cases finds with
            | token _ _ shorter => exact ih rest.length (size ▸ shorter) ended rfl
        | tooLong => exact canLeave_of_tooLong scanning ready found
        | done =>
            rw [canLeave_scan_iff scanning, readLogs_of_ready scanning ready, found]
            exact ⟨_, rfl, canLeave_of_not_scan nofun⟩
      · exact canLeave_of_not_scan scanning

/-- Without a complete line the scanner waits, or has too much of one. -/
theorem canLeave_iff_of_cutLine_eq_none (scanning : stream.pc = .scan)
    (runs : stream.ended = false) (cut : cutLine isNewline stream.unread = none) :
    worker.CanLeave stream ↔ ¬ Quiet stream := by
  by_cases short : stream.unread.length < maxScanTokenSize
  · have waits : stream.awaits = true := awaits_iff.mpr ⟨runs, cut, short⟩
    have quiet : Quiet stream := by
      refine ⟨runs, ?_, ?_⟩
      · rw [terminated_of_cutLine_eq_none cut]
        exact nofun
      · rwa [unterminated_of_cutLine_eq_none cut]
    rw [canLeave_scan_iff scanning]
    simp [readLogs, scanning, waits, quiet]
  · have ready : stream.awaits = false := by simp [awaits, short]
    have given : stream.unread ≠ [] := by
      rintro empty
      rw [empty] at short
      exact short (by decide)
    have long : scan maxScanTokenSize stream.unread = .tooLong := by
      rw [scan, cut]
      exact (if_neg given).trans (if_neg short)
    have loud : ¬ Quiet stream := by
      intro quiet
      rw [← unterminated_of_cutLine_eq_none cut] at short
      exact short quiet.short
    exact ⟨fun _ => loud, fun _ => canLeave_of_tooLong scanning ready long⟩

/-- A goroutine that scans comes back to `stopCh` exactly if there is something to scan other
than short blank lines. -/
theorem canLeave_iff_not_quiet (scanning : stream.pc = .scan) :
    worker.CanLeave stream ↔ ¬ Quiet stream := by
  cases ended : stream.ended with
  | true =>
      have loud : ¬ Quiet stream := by
        intro quiet
        rw [quiet.runs] at ended
        contradiction
      exact ⟨fun _ => loud, fun _ => canLeave_of_ended ended⟩
  | false =>
      induction size : stream.unread.length using Nat.strongRecOn generalizing stream with
      | ind _ ih =>
          rcases cut : cutLine isNewline stream.unread with _ | ⟨line, rest⟩
          · exact canLeave_iff_of_cutLine_eq_none scanning ended cut
          · have ready := not_awaits_of_cutLine cut
            have found := scan_of_cutLine cut
            by_cases short : line.length ≤ maxScanTokenSize
            · rw [if_pos short] at found
              rw [canLeave_token_iff scanning ready found]
              cases visible : isVisible (dropCR line.dropLast) with
              | true => simp [not_quiet_of_visible cut visible]
              | false =>
                  have later : worker.CanLeave (stream.pass rest .scan) ↔
                      ¬ Quiet (stream.pass rest .scan) :=
                    ih rest.length (size ▸ length_of_cutLine cut) rfl ended rfl
                  rw [later, quiet_pass_iff cut short visible]
                  simp
            · rw [if_neg short] at found
              exact ⟨fun _ => not_quiet_of_long cut short,
                fun _ => canLeave_of_tooLong scanning ready found⟩

end Leaving

/-! ## Stopping -/

/-- Once `Stop` waits for the goroutine, it can return without further output of the command
exactly if the goroutine is not looking for a line among short blank ones. -/
theorem stop_returns_iff {schedule : List System.Action} {system : System}
    (ran : run (Stopping.step worker) (Stopping.start start) schedule = some system)
    (waiting : system.stopper = .waiting) :
    Stopping.CanReturn worker system ↔
      ¬ (system.worker = .looping ∧ system.state.pc = .scan ∧ system.state.Quiet) := by
  rw [Stopping.canReturn_iff (Stopping.ordered_of_run ran) waiting]
  by_cases scanning : system.state.pc = .scan
  · rw [canLeave_iff_not_quiet scanning]
    simp [scanning]
  · simp [scanning, canLeave_of_not_scan scanning]

/-- While the log is silent, `Stop` waits. -/
theorem stop_returns_iff_silent :
    ∃ system, run (Stopping.step worker) (Stopping.start start) [.stop, .stop] = some system ∧
      system.stopper = .waiting ∧ ¬ Stopping.CanReturn worker system := by
  obtain ⟨system, ran, waiting, looping, scanning, unread, runs⟩ : ∃ system : System,
      run (Stopping.step worker) (Stopping.start start) [.stop, .stop] = some system ∧
        system.stopper = .waiting ∧ system.worker = .looping ∧ system.state.pc = .scan ∧
        system.state.unread = [] ∧ system.state.ended = false :=
    ⟨_, rfl, rfl, rfl, rfl, rfl, rfl⟩
  have quiet : system.state.Quiet := by
    refine ⟨runs, ?_, ?_⟩
    · rw [unread]
      exact nofun
    · rw [unread]
      decide
  refine ⟨system, ran, waiting, ?_⟩
  rw [stop_returns_iff ran waiting]
  exact fun loud => loud ⟨looping, scanning, quiet⟩

/-! ## What is sent -/

/-- How far the sending has come. -/
def Progress (stream : LogStream) : Prop :=
  match stream.pc with
  | .scan => stream.lines.sent = forwarded (segments isNewline stream.passed)
  | .send line => ∃ earlier segment, segments isNewline stream.passed = earlier ++ [segment] ∧
      forwarded [segment] = [line] ∧ stream.lines.sent = forwarded earlier
  | .report => stream.lines.sent = forwarded (segments isNewline stream.passed)
  | .done => stream.lines.sent = forwarded (segments isNewline stream.passed) ∨
      stream.lines.sent = forwarded (segments isNewline stream.passed) ++ [errorMsg]

/-- What holds of a goroutine that has started. -/
structure Sound (stream : LogStream) : Prop where
  /-- The scanner has passed whole lines only, or all there is. -/
  whole : Closed isNewline stream.passed ∨ stream.ended = true ∧ stream.unread = []
  progress : Progress stream

theorem sound_start : Sound start where
  whole := .inl closed_nil
  progress := rfl

theorem forwarded_append (lines others : List Bytes) :
    forwarded (lines ++ others) = forwarded lines ++ forwarded others := by
  simp only [forwarded, List.map_append, List.filter_append]

theorem closed_of_cutLine {text line rest : Bytes}
    (cut : cutLine isNewline text = some (line, rest)) : Closed isNewline line := by
  obtain ⟨_, segment, last, rfl, ends, _⟩ := cutLine_eq_some_iff.mp cut
  exact closed_iff.mpr (.inr ⟨segment, last, rfl, ends⟩)

section Sending

variable {stream next : LogStream}

/-- A token is one more segment that was passed. -/
theorem Sound.pass (sound : Sound stream) (ready : stream.awaits = false) {line rest : Bytes}
    (token : scan maxScanTokenSize stream.unread = .token line rest) (pc : ReadLogsPc) :
    (Closed isNewline (stream.pass rest pc).passed ∨ stream.ended = true ∧ rest = []) ∧
      ∃ segment, line = dropCR segment ∧
        segments isNewline (stream.pass rest pc).passed =
          segments isNewline stream.passed ++ [segment] := by
  rcases cut : cutLine isNewline stream.unread with _ | ⟨front, behind⟩
  · rw [scan, cut] at token
    have given : stream.unread ≠ [] := by
      intro empty
      simp [empty] at token
    have closed : Closed isNewline stream.passed :=
      sound.whole.resolve_right fun finished => given finished.2
    dsimp only at token
    rw [if_neg given] at token
    split at token
    next short =>
      cases token
      have ended : stream.ended = true := by
        cases runs : stream.ended with
        | true => rfl
        | false => rw [awaits_iff.mpr ⟨runs, cut, short⟩] at ready; contradiction
      refine ⟨.inr ⟨ended, rfl⟩, stream.unread, rfl, ?_⟩
      have all : (stream.pass [] pc).passed = stream.passed ++ stream.unread := by
        simp [LogStream.pass]
      rw [all, segments_append closed, segments_of_cutLine_eq_none cut, if_neg given]
    next => contradiction
  · rw [scan_of_cutLine cut] at token
    split at token
    next short =>
      cases token
      obtain ⟨parts, _⟩ := cutLine_eq_some_iff.mp cut
      have closed : Closed isNewline stream.passed := by
        refine sound.whole.resolve_right fun finished => ?_
        rw [finished.2] at cut
        contradiction
      have all : (stream.pass rest pc).passed = stream.passed ++ front := by
        simp [LogStream.pass, parts]
      rw [all]
      refine ⟨.inl (closed_append closed (closed_of_cutLine cut)), front.dropLast, rfl, ?_⟩
      have alone : cutLine isNewline front = some (front, []) := by
        obtain ⟨_, line⟩ := cutLine_eq_some_iff.mp cut
        exact cutLine_eq_some_iff.mpr ⟨(List.append_nil _).symm, line⟩
      rw [segments_append closed, segments_of_cutLine alone]
      rfl
    next => contradiction

theorem Sound.readLogs (sound : Sound stream) {told : Bool}
    (moved : stream.readLogs told = some next) : Sound next := by
  obtain ⟨whole, progress⟩ := sound
  unfold Progress at progress
  unfold LogStream.readLogs at moved
  split at moved
  next scanning =>
    rw [scanning] at progress
    split at moved
    next => contradiction
    next ready =>
      split at moved
      next line rest token =>
        cases moved
        have sound : Sound stream := ⟨whole, by simpa only [Progress, scanning] using progress⟩
        obtain ⟨kept, segment, rfl, more⟩ := sound.pass (Bool.eq_false_iff.mpr ready) token
          (if isVisible line then .send line else .scan)
        refine ⟨kept, ?_⟩
        by_cases visible : isVisible (dropCR segment) = true
        · rw [if_pos visible] at more ⊢
          exact ⟨_, segment, more, forwarded_cons_of_visible visible, progress⟩
        · rw [if_neg visible] at more ⊢
          have blank : forwarded [segment] = [] :=
            forwarded_cons_of_blank (Bool.eq_false_iff.mpr visible)
          change stream.lines.sent = forwarded _
          rw [more, forwarded_append, blank, List.append_nil]
          exact progress
      next =>
        cases moved
        exact ⟨whole, progress⟩
      next =>
        cases moved
        exact ⟨whole, .inl progress⟩
  next line position =>
    rw [position] at progress
    obtain ⟨lines, sent, rfl⟩ := Option.map_eq_some_iff.mp moved
    obtain ⟨earlier, segment, all, last, before⟩ := progress
    refine ⟨whole, ?_⟩
    change lines.sent = _
    rw [Channel.sent_send sent, all, forwarded_append, last, before]
  next position =>
    rw [position] at progress
    split at moved
    next => contradiction
    next =>
      cases moved
      refine ⟨whole, ?_⟩
      rcases stream.lines.sent_trySend errorMsg with sent | sent
      · exact .inr (sent.trans (congrArg (· ++ [errorMsg]) progress))
      · exact .inl (sent.trans progress)
  next => contradiction

theorem Sound.environment (sound : Sound stream) {event : Event}
    (moved : stream.environment event = some next) : Sound next := by
  obtain ⟨whole, progress⟩ := sound
  cases event with
  | write output =>
      simp only [LogStream.environment] at moved
      split at moved
      next => contradiction
      next runs =>
        cases moved
        exact ⟨.inl (whole.resolve_right fun finished => runs finished.1), progress⟩
  | exit =>
      cases moved
      exact ⟨whole.imp_right fun finished => ⟨rfl, finished.2⟩, progress⟩
  | receive =>
      obtain ⟨lines, received, rfl⟩ := Option.map_eq_some_iff.mp moved
      refine ⟨whole, ?_⟩
      simpa only [Progress, Channel.sent_receive received] using progress

theorem Sound.terminate (sound : Sound stream) : Sound stream.terminate :=
  ⟨sound.whole.imp_right fun finished => ⟨rfl, finished.2⟩, sound.progress⟩

/-- The lines that were passed are the first ones of those that were written. -/
theorem Sound.segments_passed (sound : Sound stream) :
    segments isNewline stream.passed <+: segments isNewline stream.written := by
  rcases sound.whole with closed | ⟨_, empty⟩
  · rw [written, segments_append closed]
    exact List.prefix_append _ _
  · rw [written, empty, List.append_nil]

end Sending

/-- Whenever the command writes, whoever receives and whenever the reader is stopped: the
channel was sent the lines of a front part of the output that are not blank, in their order,
and at most the text of an error behind them. -/
theorem sent_front {schedule : List System.Action} {system : System}
    (ran : run (Stopping.step worker) (Stopping.start start) schedule = some system) :
    ∃ lines, lines <+: segments isNewline system.state.written ∧
      (system.state.lines.sent = forwarded lines ∨
        system.state.lines.sent = forwarded lines ++ [errorMsg]) := by
  have sound : Sound system.state :=
    Stopping.invariant_of_worker (fun _ _ _ _ sound moved => sound.readLogs moved)
      (fun _ sound => sound.terminate) (fun _ _ _ sound moved => sound.environment moved)
      sound_start ran
  have front := sound.segments_passed
  have progress := sound.progress
  unfold Progress at progress
  split at progress
  next => exact ⟨_, front, .inl progress⟩
  next =>
    obtain ⟨earlier, segment, all, _, sent⟩ := progress
    rw [all] at front
    exact ⟨earlier, (List.prefix_append _ _).trans front, .inl sent⟩
  next => exact ⟨_, front, .inl progress⟩
  next => exact ⟨_, front, progress⟩

/-- A reader that is stopped while it has the second line at hand. -/
theorem sent_front_interrupted :
    ∃ system lines, run (Stopping.step worker) (Stopping.start start)
        [.environment (.write (bytes "a\n\nb\nc\n")), .work (), .work (), .work (), .work (),
          .stop, .stop, .leave] = some system ∧
      lines <+: segments isNewline system.state.written ∧
      (system.state.lines.sent = forwarded lines ∨
        system.state.lines.sent = forwarded lines ++ [errorMsg]) := by
  obtain ⟨system, ran⟩ : ∃ system, run (Stopping.step worker) (Stopping.start start)
      [.environment (.write (bytes "a\n\nb\nc\n")), .work (), .work (), .work (), .work (),
        .stop, .stop, .leave] = some system :=
    Option.isSome_iff_exists.mp (by decide)
  obtain ⟨lines, front, sent⟩ := sent_front ran
  exact ⟨system, lines, ran, front, sent⟩

/-! ## The reader alone -/

/-- What is left of the goroutine and the command when the command has ended. -/
def alone (stream : LogStream) : MacOSLogReader where
  unread := stream.unread
  pc := stream.pc
  lines := stream.lines.held
  sent := stream.lines.sent

/-- The command has ended. -/
structure Ended (stream : LogStream) : Prop where
  ended : stream.ended = true
  capacity : stream.lines.capacity = macOSLinesCapacity

section Alone

variable {stream next : LogStream}

theorem readLogs_alone (finished : Ended stream) :
    (stream.readLogs false).map alone = stream.alone.readLogs := by
  obtain ⟨ended, capacity⟩ := finished
  cases position : stream.pc with
  | scan =>
      rw [readLogs_of_ready position (not_awaits_of_ended ended)]
      simp only [MacOSLogReader.readLogs, alone, position]
      cases scan maxScanTokenSize stream.unread with
      | token line rest => cases visible : isVisible line <;> simp [alone, pass, visible]
      | tooLong => rfl
      | done => rfl
  | send line =>
      by_cases room : stream.lines.held.length < macOSLinesCapacity <;>
        simp [readLogs, MacOSLogReader.readLogs, MacOSLogReader.hasRoom, MacOSLogReader.put, alone,
          position, Channel.send, Channel.sent, capacity, room]
  | report =>
      by_cases room : stream.lines.held.length < macOSLinesCapacity <;>
        simp [readLogs, MacOSLogReader.readLogs, MacOSLogReader.hasRoom, MacOSLogReader.put, alone,
          position, Channel.trySend, Channel.send, Channel.sent, capacity, room]
  | done => simp only [readLogs, MacOSLogReader.readLogs, alone, position, Option.map_none]

theorem receive_alone (stream : LogStream) :
    (stream.environment .receive).map alone = stream.alone.step .receive := by
  simp only [environment, Channel.receive, MacOSLogReader.step, alone]
  cases held : stream.lines.held <;> simp [alone, Channel.sent, held]

theorem Ended.readLogs (finished : Ended stream) {told : Bool}
    (moved : stream.readLogs told = some next) : Ended next := by
  unfold LogStream.readLogs at moved
  split at moved
  next =>
    split at moved
    next => contradiction
    next => split at moved <;> (cases moved; exact ⟨finished.ended, finished.capacity⟩)
  next =>
    obtain ⟨lines, sent, rfl⟩ := Option.map_eq_some_iff.mp moved
    exact ⟨finished.ended, (Channel.capacity_send sent).trans finished.capacity⟩
  next =>
    split at moved
    next => contradiction
    next =>
      cases moved
      exact ⟨finished.ended, (Channel.capacity_trySend _ _).trans finished.capacity⟩
  next => contradiction

theorem Ended.receive (finished : Ended stream)
    (moved : stream.environment .receive = some next) : Ended next := by
  obtain ⟨lines, received, rfl⟩ := Option.map_eq_some_iff.mp moved
  exact ⟨finished.ended, (Channel.capacity_receive received).trans finished.capacity⟩

end Alone

/-- Nobody stops the reader, and the command has ended. -/
structure Undisturbed (system : System) : Prop where
  looping : system.worker = .looping
  unstopped : system.stopCh = false
  ended : system.state.Ended

/-- The steps of the reader alone. -/
def act : MacOSLogReader.Action → System.Action
  | .readLogs => .work ()
  | .receive => .environment .receive

/-- Such a step moves the goroutine and the command only. -/
theorem Undisturbed.step_eq {system : System} (undisturbed : Undisturbed system)
    (action : MacOSLogReader.Action) :
    Stopping.step worker system (act action) =
      (match action with
      | .readLogs => system.state.readLogs false
      | .receive => system.state.environment .receive).map fun state => { system with state } := by
  cases action with
  | readLogs => simp only [act, Stopping.step, undisturbed.looping, undisturbed.unstopped, worker,
      if_true]
  | receive => rfl

theorem Undisturbed.step {system after : System} {action : MacOSLogReader.Action}
    (undisturbed : Undisturbed system)
    (taken : Stopping.step worker system (act action) = some after) : Undisturbed after := by
  rw [undisturbed.step_eq] at taken
  obtain ⟨state, moved, rfl⟩ := Option.map_eq_some_iff.mp taken
  refine ⟨undisturbed.looping, undisturbed.unstopped, ?_⟩
  cases action with
  | readLogs => exact undisturbed.ended.readLogs moved
  | receive => exact undisturbed.ended.receive moved

/-- A command that writes its output and ends, with a reader that nobody stops, is the reader
alone. -/
theorem run_alone (output : Bytes) (schedule : List MacOSLogReader.Action) :
    (run (Stopping.step worker) (Stopping.start start)
        ([.environment (.write output), .environment .exit] ++ schedule.map act)).map
        (fun system => system.state.alone) =
      run MacOSLogReader.step (MacOSLogReader.start output) schedule := by
  have initial : Undisturbed { Stopping.start start with
      state := { start with unread := output, ended := true } } := ⟨rfl, rfl, rfl, rfl⟩
  have shows : ∀ ⦃system⦄, Undisturbed system → ∀ action,
      (Stopping.step worker system (act action)).map (fun system => system.state.alone) =
        system.state.alone.step action := by
    intro system undisturbed action
    rw [undisturbed.step_eq, Option.map_map]
    cases action with
    | readLogs => exact readLogs_alone undisturbed.ended
    | receive => exact receive_alone system.state
  rw [run_append]
  exact map_run (fun _ _ _ undisturbed => undisturbed.step) shows initial schedule

end LogStream

end Tailpost.Reader
