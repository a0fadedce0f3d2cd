import Tailpost.Container.ContainerReader
import Tailpost.Reader.Blocking

/-!
# A container reader that cannot be stopped

The tail goroutine of a container reader looks at `stopCh` at the top of its loop and
when it sends a line, but not while it reads.  A `Read` of a stream that stays open and
has nothing more to deliver does not return before the context expires.  So once the
container is silent, the goroutine of a reader whose `stopCh` is closed gets stuck,
unless the channel is filled up by the lines in front of the silence.
-/

namespace Tailpost.Container

open Tailpost.Text
open Tailpost.Transition

/-! ## Steps next to a silent container -/

/-- Without new lines, a `Read` returns bytes that are there already, or the error of a
stream that has ended or whose context has expired. -/
def ContainerReader.Answers (log : Log) (reader : ContainerReader) : TailStep → Prop
  | .read count none => reader.stream.chunk log count ≠ []
  | .read _ (some _) => reader.stream.ended = true ∨ reader.expired = true
  | _ => True

instance (log : Log) (reader : ContainerReader) (action : TailStep) :
    Decidable (reader.Answers log action) :=
  match action with
  | .read count none => inferInstanceAs (Decidable (reader.stream.chunk log count ≠ []))
  | .read _ (some _) =>
      inferInstanceAs (Decidable (reader.stream.ended = true ∨ reader.expired = true))
  | .select => isTrue trivial
  | .streamFail => isTrue trivial
  | .streamOk => isTrue trivial
  | .line => isTrue trivial
  | .put => isTrue trivial
  | .abort => isTrue trivial
  | .lookup _ => isTrue trivial

/-- A step of the tail goroutine while nobody receives a line and none is logged. -/
def System.tailStep (system : System) (action : TailStep) : Option System :=
  if system.reader.Answers system.log action then system.step (.tail action) else none

/-- `stoppedCh` is closed. -/
def System.Stopped (system : System) : Prop :=
  system.reader.pc = .returned

namespace ContainerReader

/-- The lines that can be read before the stream falls silent. -/
def due (log : Log) (reader : ContainerReader) : Nat :=
  (reader.buffer ++ reader.stream.unread log).countP Stamp.isNewline

/-- The stream stays open. -/
def Open (reader : ContainerReader) : Prop :=
  reader.expired = false ∧ reader.stream.ended = false

instance (reader : ContainerReader) : Decidable reader.Open :=
  inferInstanceAs (Decidable (_ ∧ _))

/-- How many lines the goroutine sends before it waits for a silent stream; `none` where it
does not come to wait. -/
def backlog (log : Log) (reader : ContainerReader) : Option Nat :=
  match reader.pc with
  | .connect =>
      if reader.expired then none
      else some (((Stream.connect log).unread log).countP Stamp.isNewline)
  | .readLine => if reader.Open then some (reader.due log) else none
  | .send _ => if reader.Open then some (reader.due log + 1) else none
  | _ => none

/-- The lines in front of the silence do not fit on the channel. -/
def Overflows (log : Log) (reader : ContainerReader) : Prop :=
  ∀ count, reader.backlog log = some count → linesCapacity < reader.lines.length + count

section Backlog

variable {log : Log} {reader : ContainerReader} {count : Nat}

theorem backlog_connect_iff (position : reader.pc = .connect) :
    reader.backlog log = some count ↔ reader.expired = false ∧
      ((Stream.connect log).unread log).countP Stamp.isNewline = count := by
  simp [backlog, position]

theorem backlog_readLine_iff (position : reader.pc = .readLine) :
    reader.backlog log = some count ↔ reader.Open ∧ reader.due log = count := by
  simp [backlog, position]

theorem backlog_send_iff {line : List Stamp} (position : reader.pc = .send line) :
    reader.backlog log = some count ↔ reader.Open ∧ reader.due log + 1 = count := by
  simp [backlog, position]

end Backlog

end ContainerReader

theorem Stream.allows_of_live {stream : Stream} {count : Nat} {error : Option ReadError}
    (live : stream.ended = false) : stream.Allows count error := by
  intro ended
  rw [live] at ended
  contradiction

/-- A `Read` of one byte delivers it. -/
theorem Stream.chunk_one_ne_nil {stream : Stream} {log : Log} (unread : stream.unread log ≠ []) :
    stream.chunk log 1 ≠ [] := by
  simpa [Stream.chunk, LogLineReader.chunkSize] using unread

/-! ## The condition is kept -/

/-- A reader that runs, and whose channel is not overfull. -/
structure ContainerReader.Runs (reader : ContainerReader) : Prop where
  started : reader.pc ≠ .idle
  bounded : reader.lines.length ≤ linesCapacity

/-- `stopCh` is closed, and the goroutine does not come to wait for a silent stream. -/
structure System.Stops (system : System) : Prop where
  stopCh : system.reader.stopCh = true
  runs : system.reader.Runs
  overflows : system.reader.Overflows system.log

section Steps

variable {log : Log} {podExists : Bool} {reader after : ContainerReader} {action : TailStep}

theorem room_of_put (step : reader.tailContainer log podExists .put = some after) :
    reader.lines.length < linesCapacity := by
  unfold ContainerReader.tailContainer at step
  split at step <;> simp_all

theorem runs_of_tailContainer (runs : reader.Runs)
    (step : reader.tailContainer log podExists action = some after) : after.Runs := by
  obtain ⟨started, bounded⟩ := runs
  cases moves_of_tailContainer step with
  | put _ =>
      have room := room_of_put step
      exact ⟨Pc.noConfusion, by simpa using Nat.succ_le_of_lt room⟩
  | _ => exact ⟨by simp, bounded⟩

/-- A step of the goroutine leaves the lines that are still to be sent as many as they are. -/
theorem overflows_of_tailContainer (stopped : reader.stopCh = true)
    (overflows : reader.Overflows log)
    (step : reader.tailContainer log podExists action = some after) : after.Overflows log := by
  have idle (none : after.backlog log = none) : after.Overflows log := by
    intro count some
    rw [none] at some
    contradiction
  cases moves_of_tailContainer step with
  | exit => exact idle rfl
  | round _ running =>
      rw [stopped] at running
      contradiction
  | streamFail => exact idle rfl
  | streamOk position =>
      intro count same
      obtain ⟨isOpen, due⟩ := (ContainerReader.backlog_readLine_iff rfl).mp same
      exact overflows count ((ContainerReader.backlog_connect_iff position).mpr ⟨isOpen.1, due⟩)
  | line position found =>
      intro count same
      obtain ⟨isOpen, due⟩ := (ContainerReader.backlog_send_iff rfl).mp same
      have cut := countP_of_cutLine (cutLine_append (reader.stream.unread log) found)
      exact overflows count ((ContainerReader.backlog_readLine_iff position).mpr
        ⟨isOpen, cut.trans due⟩)
  | more position live =>
      intro count same
      obtain ⟨isOpen, due⟩ := (ContainerReader.backlog_readLine_iff rfl).mp same
      rw [ContainerReader.due, List.append_assoc, Stream.chunk_append_unread] at due
      exact overflows count ((ContainerReader.backlog_readLine_iff position).mpr
        ⟨⟨isOpen.1, live⟩, due⟩)
  | fragment =>
      intro count same
      obtain ⟨⟨_, live⟩, _⟩ := (ContainerReader.backlog_send_iff rfl).mp same
      simp [Stream.advance] at live
  | failed => exact idle rfl
  | put position =>
      intro count same
      obtain ⟨isOpen, due⟩ := (ContainerReader.backlog_readLine_iff rfl).mp same
      have fits := overflows (count + 1) ((ContainerReader.backlog_send_iff position).mpr
        ⟨isOpen, congrArg Nat.succ due⟩)
      rw [List.length_append, List.length_singleton]
      omega
  | abort => exact idle rfl
  | gone => exact idle rfl
  | found => exact idle rfl

theorem stopCh_of_tailContainer (step : reader.tailContainer log podExists action = some after) :
    after.stopCh = reader.stopCh := by
  cases moves_of_tailContainer step <;> rfl

end Steps

section Systems

variable {system after : System} {action : TailStep}

theorem tailStep_eq_some_iff :
    system.tailStep action = some after ↔ system.reader.Answers system.log action ∧
      ∃ reader, system.reader.tailContainer system.log system.podExists action = some reader ∧
        after = { system with reader } := by
  unfold System.tailStep
  constructor
  · intro step
    split at step
    next answers =>
      obtain ⟨reader, moved, rfl⟩ := Option.map_eq_some_iff.mp step
      exact ⟨answers, reader, moved, rfl⟩
    next => contradiction
  · rintro ⟨answers, reader, moved, rfl⟩
    rw [if_pos answers]
    exact Option.map_eq_some_iff.mpr ⟨reader, moved, rfl⟩

theorem stops_of_tailStep (stops : system.Stops) (step : system.tailStep action = some after) :
    after.Stops := by
  obtain ⟨_, reader, moved, rfl⟩ := tailStep_eq_some_iff.mp step
  constructor
  · exact (stopCh_of_tailContainer moved).trans stops.stopCh
  · exact runs_of_tailContainer stops.runs moved
  · exact overflows_of_tailContainer stops.stopCh stops.overflows moved

/-! ## Enabled steps -/

theorem live_of_tailContainer {reader : ContainerReader}
    (moved : system.reader.tailContainer system.log system.podExists action = some reader)
    (answers : system.reader.Answers system.log action) :
    Live System.tailStep System.Stopped system :=
  Or.inr ⟨action, _, tailStep_eq_some_iff.mpr ⟨answers, reader, moved, rfl⟩⟩

/-- A `Read` that returns lets the goroutine go on. -/
theorem live_of_read {count : Nat} {error : Option ReadError}
    (position : system.reader.pc = .readLine)
    (uncut : cutLine Stamp.isNewline system.reader.buffer = none)
    (answers : system.reader.Answers system.log (.read count error))
    (allows : system.reader.stream.Allows count error) :
    Live System.tailStep System.Stopped system := by
  have enabled : ∃ reader, system.reader.tailContainer system.log system.podExists
      (.read count error) = some reader := by
    simp only [ContainerReader.tailContainer, position, uncut]
    rw [if_pos ⟨rfl, allows⟩]
    split
    · exact ⟨_, rfl⟩
    · exact ⟨_, rfl⟩
    · exact ⟨_, rfl⟩
  obtain ⟨reader, moved⟩ := enabled
  exact live_of_tailContainer moved answers

/-- What lies ahead of a goroutine that waits for a silent stream. -/
structure Silent (system : System) : Prop where
  position : system.reader.pc = .readLine
  isOpen : system.reader.Open
  uncut : cutLine Stamp.isNewline system.reader.buffer = none
  unread : system.reader.stream.unread system.log = []

theorem live_or_silent (position : system.reader.pc = .readLine) :
    Live System.tailStep System.Stopped system ∨ Silent system := by
  cases found : cutLine Stamp.isNewline system.reader.buffer with
  | some cut =>
      have returns : system.reader.tailContainer system.log system.podExists .line =
          some { system.reader with buffer := cut.2, pc := .send cut.1 } := by
        simp [ContainerReader.tailContainer, position, found]
      exact Or.inl (live_of_tailContainer returns trivial)
  | none =>
      cases ended : system.reader.stream.ended with
      | true =>
          left
          have answers : system.reader.Answers system.log (.read 0 (some .eof)) := Or.inl ended
          exact live_of_read position found answers fun _ => ⟨rfl, rfl⟩
      | false =>
          cases expired : system.reader.expired with
          | true =>
              left
              have answers : system.reader.Answers system.log (.read 0 (some .other)) :=
                Or.inr expired
              exact live_of_read position found answers (Stream.allows_of_live ended)
          | false =>
              by_cases unread : system.reader.stream.unread system.log = []
              · exact Or.inr ⟨position, ⟨expired, ended⟩, found, unread⟩
              · left
                have answers : system.reader.Answers system.log (.read 1 none) :=
                  Stream.chunk_one_ne_nil unread
                exact live_of_read position found answers (Stream.allows_of_live ended)

theorem not_live_of_silent (silent : Silent system) :
    ¬ Live System.tailStep System.Stopped system := by
  rintro (stopped | ⟨action, after, step⟩)
  · rw [System.Stopped, silent.position] at stopped
    contradiction
  · obtain ⟨answers, reader, moved, rfl⟩ := tailStep_eq_some_iff.mp step
    have position := silent.position
    cases action with
    | line => simp [ContainerReader.tailContainer, position, silent.uncut] at moved
    | read count error =>
        cases error with
        | none => exact answers (by simp [Stream.chunk, silent.unread])
        | some error =>
            rcases answers with ended | expired
            · rw [silent.isOpen.2] at ended
              contradiction
            · rw [silent.isOpen.1] at expired
              contradiction
    | _ => simp [ContainerReader.tailContainer, position] at moved

theorem live_of_stops (stops : system.Stops) : Live System.tailStep System.Stopped system := by
  cases position : system.reader.pc with
  | idle => exact absurd position stops.runs.started
  | loop =>
      have exits : system.reader.tailContainer system.log system.podExists .select =
          some { system.reader with pc := .returned } := by
        simp [ContainerReader.tailContainer, position, stops.stopCh]
      exact live_of_tailContainer exits trivial
  | connect =>
      have fails : system.reader.tailContainer system.log system.podExists .streamFail =
          some { system.reader with pc := .loop } := by
        simp [ContainerReader.tailContainer, position]
      exact live_of_tailContainer fails trivial
  | readLine =>
      rcases live_or_silent position with live | silent
      · exact live
      · -- the channel would hold more than it can
        have none : system.reader.due system.log = 0 := by
          rw [ContainerReader.due, silent.unread, List.append_nil]
          exact countP_of_cutLine_eq_none silent.uncut
        have overfull := stops.overflows 0
          ((ContainerReader.backlog_readLine_iff position).mpr ⟨silent.isOpen, none⟩)
        exact absurd stops.runs.bounded (Nat.not_le.mpr overfull)
  | send line =>
      have aborts : system.reader.tailContainer system.log system.podExists .abort =
          some { system.reader with pc := .returned } := by
        simp [ContainerReader.tailContainer, position, stops.stopCh]
      exact live_of_tailContainer aborts trivial
  | lookup =>
      have returns : system.reader.tailContainer system.log system.podExists (.lookup true) =
          some { system.reader with pc := .returned } := by
        simp [ContainerReader.tailContainer, position]
      exact live_of_tailContainer returns trivial
  | returned => exact Or.inl position

/-! ## The way into the silence -/

theorem tailStep_streamOk (position : system.reader.pc = .connect)
    (live : system.reader.expired = false) :
    system.tailStep .streamOk = some { system with reader := { system.reader with
      stream := .connect system.log
      buffer := []
      pc := .readLine
      first := system.reader.first.or (some system.log.length) } } := by
  apply tailStep_eq_some_iff.mpr
  refine ⟨trivial, _, ?_, rfl⟩
  simp only [ContainerReader.tailContainer, position, live]
  rfl

theorem tailStep_line {line rest : List Stamp} (position : system.reader.pc = .readLine)
    (found : cutLine Stamp.isNewline system.reader.buffer = some (line, rest)) :
    system.tailStep .line =
      some { system with reader := { system.reader with buffer := rest, pc := .send line } } :=
  tailStep_eq_some_iff.mpr ⟨trivial, _,
    by simp only [ContainerReader.tailContainer, position, found, Option.map_some], rfl⟩

theorem tailStep_put {line : List Stamp} (position : system.reader.pc = .send line)
    (room : system.reader.lines.length < linesCapacity) :
    system.tailStep .put = some { system with reader := { system.reader with
      lines := system.reader.lines ++ [contents line]
      pc := .readLine
      emitted := system.reader.emitted ++ [line] } } :=
  tailStep_eq_some_iff.mpr ⟨trivial, _,
    by simp only [ContainerReader.tailContainer, position, room, if_true], rfl⟩

theorem tailStep_read (position : system.reader.pc = .readLine)
    (live : system.reader.stream.ended = false)
    (uncut : cutLine Stamp.isNewline system.reader.buffer = none)
    {count : Nat} (delivers : system.reader.stream.chunk system.log count ≠ []) :
    system.tailStep (.read count none) = some { system with reader := { system.reader with
      stream := system.reader.stream.advance system.log count none
      buffer := system.reader.buffer ++ system.reader.stream.chunk system.log count } } := by
  apply tailStep_eq_some_iff.mpr
  refine ⟨delivers, _, ?_, rfl⟩
  simp only [ContainerReader.tailContainer, position, uncut]
  rw [if_pos ⟨rfl, Stream.allows_of_live live⟩]
  rfl

/-- The bytes that were not sent, with those that were not read counted twice. -/
def System.remaining (system : System) : Nat :=
  2 * (system.reader.stream.unread system.log).length + system.reader.buffer.length

/-- A goroutine that reads from an open stream ends up waiting for it, if the lines in front
of the silence fit on the channel. -/
theorem not_neverStuck_of_readLine (size : Nat) (bounded : system.remaining < size)
    (position : system.reader.pc = .readLine) (isOpen : system.reader.Open)
    (fits : system.reader.lines.length + system.reader.due system.log ≤ linesCapacity) :
    ¬ NeverStuck System.tailStep System.Stopped system := by
  -- a step takes bytes from the stream, or a line from the buffer to the channel
  induction size generalizing system with
  | zero => exact absurd bounded (Nat.not_lt_zero _)
  | succ size inductionHypothesis =>
    intro never
    unfold System.remaining at bounded
    cases found : cutLine Stamp.isNewline system.reader.buffer with
    | some cut =>
        obtain ⟨line, rest⟩ := cut
        have cut := countP_of_cutLine
          (cutLine_append (system.reader.stream.unread system.log) found)
        have shorter := length_of_cutLine found
        rw [ContainerReader.due, cut] at fits
        have sending := never.step (tailStep_line position found)
        apply absurd (sending.step (tailStep_put rfl (by dsimp only; omega)))
        apply inductionHypothesis
        · simp only [System.remaining]
          omega
        · rfl
        · exact isOpen
        · simp only [ContainerReader.due, List.length_append, List.length_singleton]
          omega
    | none =>
        by_cases unread : system.reader.stream.unread system.log = []
        · exact not_live_of_silent ⟨position, isOpen, found, unread⟩ never.live
        · have delivers := Stream.chunk_one_ne_nil unread
          have whole := system.reader.stream.chunk_append_unread system.log 1 none
          have split := congrArg List.length whole
          rw [List.length_append] at split
          have taken := List.length_pos_iff.mpr delivers
          apply absurd (never.step (tailStep_read position isOpen.2 found delivers))
          apply inductionHypothesis
          · simp only [System.remaining, List.length_append]
            omega
          · exact position
          · exact ⟨isOpen.1, by simp [Stream.advance, isOpen.2]⟩
          · simp only [ContainerReader.due, List.append_assoc, whole]
            exact fits

/-- Exactly the lines that do not fit on the channel keep the goroutine of a reader whose
`stopCh` is closed from waiting for a silent stream. -/
theorem neverStuck_iff_overflows (stopped : system.reader.stopCh = true)
    (runs : system.reader.Runs) :
    NeverStuck System.tailStep System.Stopped system ↔
      system.reader.Overflows system.log := by
  constructor
  · intro never count backlog
    by_contra fits
    rw [Nat.not_lt] at fits
    cases position : system.reader.pc with
    | connect =>
        obtain ⟨live, rfl⟩ := (ContainerReader.backlog_connect_iff position).mp backlog
        apply absurd (never.step (tailStep_streamOk position live))
        exact not_neverStuck_of_readLine _ (Nat.lt_succ_self _) rfl ⟨live, rfl⟩ fits
    | readLine =>
        obtain ⟨isOpen, rfl⟩ := (ContainerReader.backlog_readLine_iff position).mp backlog
        exact not_neverStuck_of_readLine _ (Nat.lt_succ_self _) position isOpen fits never
    | send line =>
        obtain ⟨isOpen, rfl⟩ := (ContainerReader.backlog_send_iff position).mp backlog
        have room : (system.reader.lines ++ [contents line]).length +
            system.reader.due system.log ≤ linesCapacity := by
          rw [List.length_append, List.length_singleton]
          omega
        apply absurd (never.step (tailStep_put position (by omega)))
        exact not_neverStuck_of_readLine _ (Nat.lt_succ_self _) rfl isOpen room
    | _ => simp [ContainerReader.backlog, position] at backlog
  · intro overflows
    exact NeverStuck.of_invariant (fun _ _ _ => stops_of_tailStep) (fun _ => live_of_stops)
      ⟨stopped, runs, overflows⟩

end Systems

/-! ## Readers that are stopped -/

theorem runs_of_step {system after : System} {action : Action} (runs : system.reader.Runs)
    (step : system.step action = some after) : after.reader.Runs := by
  obtain ⟨started, bounded⟩ := runs
  rcases System.step_cases step with ⟨_, _, _, rfl⟩ | ⟨move, _, rfl, _, _⟩ |
    ⟨line, rest, _, pending, rfl⟩ | ⟨_, rfl⟩ | ⟨_, rfl⟩ | ⟨_, rfl⟩
  · exact ⟨started, bounded⟩
  · obtain ⟨reader, moved, rfl⟩ := Option.map_eq_some_iff.mp step
    exact runs_of_tailContainer ⟨started, bounded⟩ moved
  · rw [pending] at bounded
    exact ⟨started, Nat.le_of_succ_le bounded⟩
  · exact ⟨started, bounded⟩
  · exact ⟨started, bounded⟩
  · unfold ContainerReader.stop
    split
    · exact ⟨started, bounded⟩
    · exact ⟨started, bounded⟩

/-- Once nobody receives a line and none is logged, the tail goroutine of a reader that is
stopped has returned or can go on, wherever it goes: that of a file reader exactly when the
channel has room or no line is on its way to it, that of a container reader exactly when it
does not read from an open stream whose lines fit on the channel. -/
theorem stopped_neverStuck_iff {file : Reader.System} (fileStopped : file.reader.stopCh = true)
    {log : Log} {reader : ContainerReader} {schedule : List Action} {system : System}
    (started : ContainerReader.newContainerReader.start = .ok reader)
    (ran : run System.step (.create log reader) schedule = some system)
    (stopped : system.reader.stopCh = true) :
    (NeverStuck Reader.System.tailStep Reader.System.Stopped file ↔
        file.reader.Unblocked file.disk) ∧
      (NeverStuck System.tailStep System.Stopped system ↔
        system.reader.Overflows system.log) := by
  constructor
  · exact Reader.neverStuck_iff_unblocked fileStopped
  · cases started
    have runs : system.reader.Runs := by
      apply invariant_of_run_of_forall (fun _ _ _ => runs_of_step) _ ran
      exact ⟨Pc.noConfusion, Nat.zero_le _⟩
    exact neverStuck_iff_overflows stopped runs

/-- A file reader that is stopped with a full channel and a line on its way to it. -/
def fullFileReader (tailer : Reader.FileReader) : Reader.System where
  disk := Reader.Disk.single [120]
  reader := { tailer with
    lines := List.replicate Reader.linesCapacity default
    pc := .send default
    stopCh := true }

/-- The goroutine of a file reader with a full channel gets stuck, and so does that of a
container reader at an open stream that is silent; stopped before they read, both return. -/
theorem stopped_neverStuck_iff_loop :
    ∃ tailer file reader silent system,
      Reader.FileReader.start (Reader.Disk.single [120]) true true = some tailer ∧
      run Reader.System.step ⟨Reader.Disk.single [120], tailer⟩ [.stop] = some file ∧
      ContainerReader.newContainerReader.start = .ok reader ∧
      run System.step (.create .empty reader) [.tail .select, .tail .streamOk, .stop] =
        some silent ∧
      run System.step (.create .empty reader) [.stop] = some system ∧
      ¬ NeverStuck Reader.System.tailStep Reader.System.Stopped (fullFileReader tailer) ∧
      ¬ NeverStuck System.tailStep System.Stopped silent ∧
      NeverStuck Reader.System.tailStep Reader.System.Stopped file ∧
      NeverStuck System.tailStep System.Stopped system := by
  obtain ⟨tailer, file, fileStarted, fileRan, fileStopped, unblocked⟩ : ∃ tailer file,
      Reader.FileReader.start (Reader.Disk.single [120]) true true = some tailer ∧
      run Reader.System.step ⟨Reader.Disk.single [120], tailer⟩ [.stop] = some file ∧
      file.reader.stopCh = true ∧ file.reader.Unblocked file.disk :=
    ⟨_, _, rfl, rfl, rfl, .inr rfl⟩
  obtain ⟨reader, silent, system, started, ranSilent, ran, silentStopped, stopped, fits,
      overflows⟩ : ∃ reader silent system,
      ContainerReader.newContainerReader.start = .ok reader ∧
      run System.step (.create .empty reader) [.tail .select, .tail .streamOk, .stop] =
        some silent ∧
      run System.step (.create .empty reader) [.stop] = some system ∧
      silent.reader.stopCh = true ∧ system.reader.stopCh = true ∧
      ¬ silent.reader.Overflows silent.log ∧ system.reader.Overflows system.log := by
    refine ⟨_, _, _, rfl, rfl, rfl, rfl, rfl, ?_, nofun⟩
    intro overflows
    exact absurd (overflows 0 rfl) (by decide)
  have blocked : ¬ (fullFileReader tailer).reader.Unblocked (fullFileReader tailer).disk := by
    rintro (room | none)
    · simp [fullFileReader] at room
    · contradiction
  have stuck := stopped_neverStuck_iff (rfl : (fullFileReader tailer).reader.stopCh = true)
    started ranSilent silentStopped
  have returns := stopped_neverStuck_iff fileStopped started ran stopped
  exact ⟨tailer, file, reader, silent, system, fileStarted, fileRan, started, ranSilent, ran,
    fun never => blocked (stuck.1.mp never), fun never => fits (stuck.2.mp never),
    returns.1.mpr unblocked, returns.2.mpr overflows⟩

/-- The container has logged nothing; the reader connects and is stopped, and its goroutine
waits for a stream that stays silent. -/
theorem stopped_reader_stuck :
    ∃ reader system, ContainerReader.newContainerReader.start = .ok reader ∧
      run System.step (.create .empty reader) [.tail .select, .tail .streamOk, .stop] =
        some system ∧
      system.reader.stopCh = true ∧ ¬ Live System.tailStep System.Stopped system := by
  refine ⟨_, _, rfl, rfl, rfl, ?_⟩
  exact not_live_of_silent ⟨rfl, ⟨rfl, rfl⟩, rfl, rfl⟩

end Tailpost.Container
