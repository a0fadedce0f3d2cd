import Tailpost.Reader.FileReader

/-!
# A file reader that cannot be stopped

`Stop` closes `stopCh` and waits for the tail goroutine, which looks at `stopCh` only at
the top of its loop.  Once nobody receives from the `Lines` channel, the goroutine comes
there unless it has a line to send, or finds one to send in the file, and the channel is
full.
-/

namespace Tailpost.Reader

open Tailpost.Text
open Tailpost.Transition

/-! ## The line on its way to the channel -/

/-- The bytes of an open file that were not read yet. -/
def Disk.unread (disk : Disk) (file : File) : List Cell :=
  (disk.cells (disk.holds file.inode)).drop file.pos

/-- A `Read` returns the next bytes. -/
theorem Disk.read_append_unread (disk : Disk) (file : File) (count : Nat) :
    disk.read file.inode file.pos count ++
        disk.unread ⟨file.inode, file.pos + (disk.read file.inode file.pos count).length⟩ =
      disk.unread file := by
  simp only [Disk.unread, Disk.read, ← List.drop_drop]
  exact take_append_drop_length _ _

namespace FileReader

/-- The text that `ReadString` is reading from. -/
def ahead (disk : Disk) (reader : FileReader) : List Cell :=
  reader.buffer ++ (reader.file.map disk.unread).getD []

/-- The line that the goroutine sends before it looks at `stopCh` again. -/
def pendingLine (disk : Disk) (reader : FileReader) : Option Line :=
  match reader.pc with
  | .send line => some line
  | .readString =>
      ((readString (reader.ahead disk)).map fun (line, _) => trimNewline line).filter (· ≠ [])
  | _ => none

/-- The channel has room, or there is no line to send. -/
def Unblocked (disk : Disk) (reader : FileReader) : Prop :=
  reader.lines.length < linesCapacity ∨ reader.pendingLine disk = none

section Pending

variable {disk : Disk} {reader : FileReader}

theorem pendingLine_of_send {line : Line} (position : reader.pc = .send line) :
    reader.pendingLine disk = some line := by
  simp only [pendingLine, position]

theorem pendingLine_of_readString {line : Line} {rest : List Cell}
    (position : reader.pc = .readString)
    (found : readString (reader.ahead disk) = some (line, rest)) :
    reader.pendingLine disk = if trimNewline line = [] then none else some (trimNewline line) := by
  simp only [pendingLine, position, found]
  by_cases empty : trimNewline line = [] <;> simp [empty]

/-- Reading ahead does not change what is pending. -/
theorem pendingLine_fill {file : File} (isOpen : reader.file = some file) (count : Nat) :
    pendingLine disk { reader with
        file := some ⟨file.inode, file.pos + (disk.read file.inode file.pos count).length⟩
        buffer := reader.buffer ++ disk.read file.inode file.pos count } =
      reader.pendingLine disk := by
  simp only [pendingLine, ahead, isOpen, Option.map_some, Option.getD_some, List.append_assoc,
    disk.read_append_unread]

/-- A line that was accepted is the one that was pending. -/
theorem pendingLine_accept {line : Line} {rest : List Cell} (position : reader.pc = .readString)
    (found : readString reader.buffer = some (line, rest)) :
    (reader.accept line rest).pendingLine disk = reader.pendingLine disk := by
  rw [pendingLine_of_readString position (cutLine_append _ found)]
  by_cases empty : trimNewline line = [] <;> simp [pendingLine, accept, empty]

end Pending

end FileReader

/-! ## Steps without a consumer -/

/-- A step of the tail goroutine while nobody writes the file or receives a line. -/
def System.tailStep (system : System) (action : TailStep) : Option System :=
  system.step (.tail action)

/-- `stoppedCh` is closed. -/
def System.Stopped (system : System) : Prop :=
  system.reader.pc = .stopped

/-- `stopCh` is closed, and the goroutine can come back to it. -/
structure System.Stops (system : System) : Prop where
  stopCh : system.reader.stopCh = true
  unblocked : system.reader.Unblocked system.disk

section Steps

variable {system after : System} {action : TailStep}

theorem stops_of_tailStep (stops : system.Stops) (step : system.tailStep action = some after) :
    after.Stops := by
  obtain ⟨stopped, unblocked⟩ := stops
  obtain ⟨reader, moved, rfl⟩ := Option.map_eq_some_iff.mp step
  -- behind these steps there is no pending line at all
  have idle (same : reader.stopCh = system.reader.stopCh)
      (none : reader.pendingLine system.disk = none) :
      System.Stops { system with reader } :=
    ⟨same.trans stopped, Or.inr none⟩
  cases moves_of_tailFile moved with
  | exit => exact idle rfl rfl
  | retry position _ =>
      simp only [tailFile, position, stopped, if_true] at moved
      have impossible : Pc.stopped = Pc.reopen := congrArg FileReader.pc (Option.some.inj moved)
      contradiction
  | poll position _ =>
      simp only [tailFile, position, stopped, if_true] at moved
      have impossible : Pc.stopped = Pc.readString :=
        congrArg FileReader.pc (Option.some.inj moved)
      contradiction
  | fill position isOpen _ _ =>
      refine ⟨stopped, unblocked.imp_right fun none => ?_⟩
      exact (FileReader.pendingLine_fill isOpen _).trans none
  | fail => exact idle rfl rfl
  | line position found =>
      refine ⟨stopped, unblocked.imp_right fun none => ?_⟩
      exact (FileReader.pendingLine_accept position found).trans none
  | put => exact idle rfl rfl
  | openFail => exact idle rfl rfl
  | openOk => exact idle rfl rfl
  | statFail => exact idle rfl rfl
  | statOk => exact idle rfl rfl
  | seekFail => exact idle rfl rfl
  | seekOk => exact idle rfl rfl

theorem live_of_tailFile {reader : FileReader}
    (moved : tailFile system.disk system.reader action = some reader) :
    Live System.tailStep System.Stopped system :=
  Or.inr ⟨action, { system with reader }, Option.map_eq_some_iff.mpr ⟨reader, moved, rfl⟩⟩

theorem live_of_stops (stops : system.Stops) : Live System.tailStep System.Stopped system := by
  cases position : system.reader.pc with
  | loop =>
      have exits : tailFile system.disk system.reader .select =
          some { system.reader with file := none, pc := .stopped } := by
        simp only [tailFile, position, stops.stopCh, if_true]
      exact live_of_tailFile exits
  | readString =>
      cases found : readString system.reader.buffer with
      | none =>
          have fails : tailFile system.disk system.reader .fail =
              some { system.reader with buffer := [], pc := .reopen } := by
            simp [tailFile, position, found]
          exact live_of_tailFile fails
      | some cut =>
          have returns : tailFile system.disk system.reader .line =
              some (system.reader.accept cut.1 cut.2) := by
            simp [tailFile, position, found]
          exact live_of_tailFile returns
  | send line =>
      have pending := @FileReader.pendingLine_of_send system.disk system.reader line position
      have room : system.reader.lines.length < linesCapacity :=
        stops.unblocked.resolve_right (by simp [pending])
      have puts : tailFile system.disk system.reader .put = some { system.reader with
          lines := system.reader.lines ++ [line]
          pc := .loop
          emitted := system.reader.emitted ++ [line] } := by
        simp only [tailFile, position, room, if_true]
      exact live_of_tailFile puts
  | reopen =>
      have fails : tailFile system.disk system.reader .openFail = some system.reader.giveUp := by
        simp only [tailFile, position]
      exact live_of_tailFile fails
  | stat =>
      have fails : tailFile system.disk system.reader .statFail = some system.reader.giveUp := by
        simp only [tailFile, position]
      exact live_of_tailFile fails
  | seek =>
      have fails : tailFile system.disk system.reader .seekFail = some system.reader.giveUp := by
        simp only [tailFile, position]
      exact live_of_tailFile fails
  | stopped => exact Or.inl position

/-- A goroutine that has a line to send blocks. -/
theorem not_live_of_send {line : Line} (position : system.reader.pc = .send line)
    (full : linesCapacity ≤ system.reader.lines.length) :
    ¬ Live System.tailStep System.Stopped system := by
  rintro (stopped | ⟨action, after, step⟩)
  · rw [System.Stopped, position] at stopped
    contradiction
  · obtain ⟨reader, moved, rfl⟩ := Option.map_eq_some_iff.mp step
    cases moves_of_tailFile moved with
    | put _ room => exact absurd room (Nat.not_lt.mpr full)
    | _ => simp_all

/-- So does one that has read a line. -/
theorem not_neverStuck_of_buffered {line : Line} {rest : List Cell}
    (position : system.reader.pc = .readString)
    (found : readString system.reader.buffer = some (line, rest)) (given : trimNewline line ≠ [])
    (full : linesCapacity ≤ system.reader.lines.length) :
    ¬ NeverStuck System.tailStep System.Stopped system := by
  intro never
  have accepts : system.tailStep .line =
      some { system with reader := system.reader.accept line rest } := by
    simp [System.tailStep, System.step, tailFile, position, found]
  exact absurd (never.step accepts).live (not_live_of_send (if_neg given) full)

/-- And one that can read a line. -/
theorem not_neverStuck_of_ahead {line : Line} {rest : List Cell}
    (position : system.reader.pc = .readString)
    (found : readString (system.reader.ahead system.disk) = some (line, rest))
    (given : trimNewline line ≠ []) (full : linesCapacity ≤ system.reader.lines.length) :
    ¬ NeverStuck System.tailStep System.Stopped system := by
  cases buffered : readString system.reader.buffer with
  | some cut =>
      have same := cutLine_append ((system.reader.file.map system.disk.unread).getD []) buffered
      cases found.symm.trans same
      exact not_neverStuck_of_buffered position buffered given full
  | none =>
      cases opened : system.reader.file with
      | none =>
          rw [FileReader.ahead, opened] at found
          simp only [Option.map_none, Option.getD_none, List.append_nil] at found
          rw [buffered] at found
          contradiction
      | some file =>
          rw [FileReader.ahead, opened, Option.map_some, Option.getD_some] at found
          have whole : system.disk.read file.inode file.pos (system.disk.unread file).length =
              system.disk.unread file :=
            List.take_length
          have unread : system.disk.unread file ≠ [] := by
            intro empty
            rw [empty, List.append_nil, buffered] at found
            contradiction
          intro never
          have fills : system.tailStep (.fill (system.disk.unread file).length) =
              some { system with reader := { system.reader with
                file := some ⟨file.inode, file.pos + (system.disk.unread file).length⟩
                buffer := system.reader.buffer ++ system.disk.unread file } } := by
            simp [System.tailStep, System.step, tailFile, position, opened, buffered, whole, unread]
          exact absurd (never.step fills)
            (not_neverStuck_of_buffered position found given full)

end Steps

/-- Once nobody receives lines or writes the file, the goroutine of a reader whose `stopCh`
is closed is never stuck exactly when the channel has room or no line is on its way. -/
theorem neverStuck_iff_unblocked {system : System} (stopped : system.reader.stopCh = true) :
    NeverStuck System.tailStep System.Stopped system ↔
      system.reader.Unblocked system.disk := by
  constructor
  · intro never
    by_contra blocked
    rw [FileReader.Unblocked, not_or, Nat.not_lt] at blocked
    obtain ⟨full, pending⟩ := blocked
    cases position : system.reader.pc with
    | send line => exact not_live_of_send position full never.live
    | readString =>
        cases found : readString (system.reader.ahead system.disk) with
        | none => exact pending (by simp only [FileReader.pendingLine, position, found]; rfl)
        | some cut =>
            rw [FileReader.pendingLine_of_readString position found] at pending
            have given : trimNewline cut.1 ≠ [] := fun empty => pending (if_pos empty)
            exact not_neverStuck_of_ahead position found given full never
    | _ => exact pending (by simp only [FileReader.pendingLine, position])
  · intro unblocked
    exact NeverStuck.of_invariant (fun _ _ _ => stops_of_tailStep) (fun _ => live_of_stops)
      ⟨stopped, unblocked⟩

end Tailpost.Reader
