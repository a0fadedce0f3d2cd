import Tailpost.Reader.FileReader

/-!
# Exactly-once tailing of one generation

While the reader follows one generation, `offset` only moves past complete
lines, whatever was read ahead and thrown away in between.  The invariant says
that the lines put on the channel are the lines between the position where the
reader took the generation up and `offset`, and that `bufio.Reader` holds
exactly the bytes from `offset` to the position of the descriptor.
-/

namespace Tailpost.Reader

open Tailpost.Text
open Tailpost.Transition

/-! ## Bytes of a generation -/

@[simp]
theorem Disk.length_cells (disk : Disk) (generation : Nat) :
    (disk.cells generation).length = (disk.contents generation).length := by
  simp [Disk.cells]

theorem Disk.generation_of_mem_cells {disk : Disk} {generation : Nat} {cell : Cell}
    (member : cell ∈ disk.cells generation) : cell.generation = generation := by
  obtain ⟨byte, _, rfl⟩ := List.mem_map.mp member
  rfl

/-- Every event extends or keeps the bytes of a generation in use. -/
theorem Disk.cells_apply {disk after : Disk} {event : DiskEvent} {generation : Nat}
    (used : generation < disk.generations) (applied : disk.apply event = some after) :
    ∃ more, after.cells generation = disk.cells generation ++ more := by
  obtain ⟨more, extended⟩ := Disk.contents_apply used applied
  exact ⟨more.map (Cell.mk generation), by simp [Disk.cells, extended]⟩

/-- A `Read` returns the part of the generation behind the descriptor's
position. -/
theorem Disk.read_eq_part (disk : Disk) (inode pos count : Nat) :
    disk.read inode pos count =
      part (disk.cells (disk.holds inode)) pos
        (pos + (disk.read inode pos count).length) :=
  take_drop_eq_part _ _ _

/-- A `Read` does not get past the end of the file. -/
theorem Disk.pos_add_length_read_le {disk : Disk} {inode pos : Nat}
    (posLe : pos ≤ disk.size inode) (count : Nat) :
    pos + (disk.read inode pos count).length ≤ disk.size inode := by
  simp only [Disk.read, Disk.size, List.length_take, List.length_drop,
    Disk.length_cells] at posLe ⊢
  omega

/-! ## Lines that `ReadString` returns -/

theorem readString_eq_some {buffer rest : List Cell} {line : Line}
    (found : readString buffer = some (line, rest)) :
    buffer = line ++ rest ∧ ∃ text terminator, line = text ++ [terminator] ∧
      terminator.isNewline = true ∧ ∀ cell ∈ text, cell.isNewline = false :=
  cutLine_eq_some_iff.mp found

theorem trimNewline_concat {text : Line} {terminator : Cell}
    (ends : terminator.isNewline = true) : trimNewline (text ++ [terminator]) = text := by
  simp [trimNewline, ends]

/-! ## The invariant -/

/-- The program counters at which `bufio.Reader` is in use. -/
def Pc.Reads : Pc → Prop
  | .loop | .readString | .send _ => True
  | _ => False

/-- The reader follows the generation that `inode` holds.  It took the
generation up at position `base`, after the lines `earlier` were emitted. -/
structure Current (inode generation base : Nat) (earlier : List Line)
    (disk : Disk) (reader : FileReader) : Prop where
  used : inode < disk.inodes
  holds : disk.holds inode = generation
  source : reader.source = generation
  descriptor : ∀ file ∈ reader.file, file.inode = inode
  base_le : base ≤ reader.offset
  offset_le : reader.offset ≤ (disk.cells generation).length
  closed : Closed Cell.isNewline (part (disk.cells generation) base reader.offset)
  delivered : reader.emitted ++ reader.inFlight =
    earlier ++ lines Cell.isNewline (part (disk.cells generation) base reader.offset)
  opened : reader.pc = .readString → ∃ file, reader.file = some file
  ahead : reader.pc.Reads → ∀ file ∈ reader.file,
    reader.offset ≤ file.pos ∧ file.pos ≤ (disk.cells generation).length ∧
      reader.buffer = part (disk.cells generation) reader.offset file.pos

namespace Current

variable {inode generation base : Nat} {earlier : List Line}

theorem generation_lt {disk : Disk} {reader : FileReader}
    (current : Current inode generation base earlier disk reader) :
    generation < disk.generations := by
  rw [← current.holds]
  exact disk.holds_lt inode current.used

/-- Events other than a truncation leave the invariant alone: appended bytes
lie behind everything the reader has looked at. -/
theorem disk {before after : Disk} {reader : FileReader} {event : DiskEvent}
    (current : Current inode generation base earlier before reader)
    (kept : event ≠ .truncate) (applied : before.apply event = some after) :
    Current inode generation base earlier after reader := by
  obtain ⟨more, extended⟩ := Disk.cells_apply current.generation_lt applied
  have longer : (before.cells generation).length ≤ (after.cells generation).length := by
    simp [extended]
  have parts {low high : Nat} (highLe : high ≤ (before.cells generation).length) :
      part (after.cells generation) low high =
        part (before.cells generation) low high := by
    rw [extended, part_append highLe]
  constructor
  case used => exact current.used.trans_le (Disk.counters_le_apply applied).1
  case holds => exact (Disk.holds_apply current.used kept applied).trans current.holds
  case source => exact current.source
  case descriptor => exact current.descriptor
  case base_le => exact current.base_le
  case offset_le => exact current.offset_le.trans longer
  case closed =>
    rw [parts current.offset_le]
    exact current.closed
  case delivered =>
    rw [parts current.offset_le]
    exact current.delivered
  case opened => exact current.opened
  case ahead =>
    intro reads file isOpen
    obtain ⟨offsetLe, posLe, buffered⟩ := current.ahead reads file isOpen
    refine ⟨offsetLe, posLe.trans longer, ?_⟩
    rw [parts posLe]
    exact buffered

variable {disk : Disk} {reader : FileReader}

/-- A `Read` extends the read-ahead up to the new position of the descriptor. -/
theorem fill (current : Current inode generation base earlier disk reader)
    {file : File} (atRead : reader.pc = .readString)
    (isOpen : reader.file = some file) (count : Nat) :
    Current inode generation base earlier disk
      { reader with
        file := some ⟨file.inode,
          file.pos + (disk.read file.inode file.pos count).length⟩
        buffer := reader.buffer ++ disk.read file.inode file.pos count } := by
  have onInode : file.inode = inode := current.descriptor file isOpen
  have onGeneration : disk.holds file.inode = generation := by
    rw [onInode, current.holds]
  obtain ⟨offsetLe, posLe, buffered⟩ :=
    current.ahead (by rw [atRead]; trivial) file isOpen
  have inFile : file.pos + (disk.read file.inode file.pos count).length ≤
      disk.size file.inode :=
    Disk.pos_add_length_read_le (by simpa [Disk.size, onGeneration] using posLe) count
  have bytes := disk.read_eq_part file.inode file.pos count
  rw [onGeneration] at bytes
  refine { current with descriptor := ?_, opened := ?_, ahead := ?_ }
  · rintro other ⟨⟩
    exact onInode
  · intro _
    exact ⟨_, rfl⟩
  · rintro _ other ⟨⟩
    refine ⟨offsetLe.trans (Nat.le_add_right _ _), ?_, ?_⟩
    · simpa [Disk.size, onGeneration] using inFile
    · calc
        reader.buffer ++ disk.read file.inode file.pos count =
            part (disk.cells generation) reader.offset file.pos ++
              part (disk.cells generation) file.pos
                (file.pos + (disk.read file.inode file.pos count).length) := by
          rw [buffered, ← bytes]
        _ = _ := part_append_part _ offsetLe (Nat.le_add_right _ _)

/-- A line that `ReadString` returns starts at `offset`, so accepting it moves
`offset` to the byte behind its newline. -/
theorem accept (current : Current inode generation base earlier disk reader)
    {line : Line} {rest : List Cell} (atRead : reader.pc = .readString)
    (found : readString reader.buffer = some (line, rest)) :
    Current inode generation base earlier disk (reader.accept line rest) := by
  rcases current.opened atRead with ⟨file, isOpen⟩
  rcases current.ahead (by rw [atRead]; trivial) file isOpen with
    ⟨offsetLe, posLe, buffered⟩
  rcases readString_eq_some found with ⟨split, text, terminator, rfl, ends, inside⟩
  rcases part_eq_append posLe (buffered.symm.trans split) with ⟨lineEq, restEq⟩
  have lengths := congrArg List.length (buffered.symm.trans split)
  rw [length_part posLe, List.length_append] at lengths
  have inRange : reader.offset + (text ++ [terminator]).length ≤ file.pos := by omega
  have grown : part (disk.cells generation) base
        (reader.offset + (text ++ [terminator]).length) =
      part (disk.cells generation) base reader.offset ++ (text ++ [terminator]) := by
    conv_rhs => rw [lineEq]
    exact (part_append_part _ current.base_le (Nat.le_add_right _ _)).symm
  have idle : reader.inFlight = [] := by
    simp [FileReader.inFlight, atRead]
  have delivered := current.delivered
  rw [idle, List.append_nil] at delivered
  constructor
  case used => exact current.used
  case holds => exact current.holds
  case source => exact current.source
  case descriptor => exact current.descriptor
  case base_le => exact Nat.le_add_right_of_le current.base_le
  case offset_le => exact inRange.trans posLe
  case closed =>
    show Closed Cell.isNewline (part (disk.cells generation) base
      (reader.offset + (text ++ [terminator]).length))
    rw [grown]
    exact closed_append current.closed
      (closed_iff.mpr (Or.inr ⟨text, terminator, rfl, ends⟩))
  case delivered =>
    show reader.emitted ++ (reader.accept (text ++ [terminator]) rest).inFlight =
      earlier ++ lines Cell.isNewline (part (disk.cells generation) base
        (reader.offset + (text ++ [terminator]).length))
    -- an empty line moves `offset` but is neither sent nor a line of the part
    rw [grown, lines_append current.closed, lines_concat inside ends,
      FileReader.inFlight_accept, trimNewline_concat ends, delivered, List.append_assoc]
  case opened =>
    intro sends
    exact ⟨file, isOpen⟩
  case ahead =>
    intro _ other otherOpen
    have same : file = other := Option.some.inj (isOpen.symm.trans otherOpen)
    subst same
    exact ⟨inRange, posLe, restEq⟩

/-- Outside the read loop the invariant does not depend on what was read
ahead. -/
theorem leave (current : Current inode generation base earlier disk reader)
    (idle : reader.inFlight = []) {file : Option File} {buffer : List Cell} {pc : Pc}
    (descriptor : ∀ opened ∈ file, opened.inode = inode)
    (outside : ¬ pc.Reads ∨ pc = .loop ∧ file = none) :
    Current inode generation base earlier disk { reader with file, buffer, pc } := by
  have idleAfter : FileReader.inFlight { reader with file, buffer, pc } = [] := by
    cases pc <;> simp_all [FileReader.inFlight, Pc.Reads]
  refine { current with descriptor, delivered := ?_, opened := ?_, ahead := ?_ }
  · have delivered := current.delivered
    rw [idle] at delivered
    rw [idleAfter]
    exact delivered
  · rintro rfl
    simp [Pc.Reads] at outside
  · intro reads opened isOpen
    rcases outside with notReads | ⟨_, rfl⟩
    · exact absurd reads notReads
    · contradiction

/-- Every step of the tail goroutine keeps the invariant, as long as `os.Open`
opens the same inode again. -/
theorem tail (current : Current inode generation base earlier disk reader)
    {action : TailStep} {after : FileReader}
    (reopens : action = .openOk → disk.path = some inode)
    (moves : Moves disk reader action after) :
    Current inode generation base earlier disk after := by
  cases moves with
  | exit atLoop _ =>
      exact current.leave (by simp [FileReader.inFlight, atLoop]) (by simp)
        (Or.inl (by simp [Pc.Reads]))
  | retry atLoop closed =>
      exact current.leave (by simp [FileReader.inFlight, atLoop]) current.descriptor
        (Or.inl (by simp [Pc.Reads]))
  | @poll file atLoop isOpen =>
      refine { current with delivered := ?_, opened := ?_, ahead := ?_ }
      · simpa [FileReader.inFlight, atLoop] using current.delivered
      · intro _
        exact ⟨file, isOpen⟩
      · intro _
        exact current.ahead (by rw [atLoop]; trivial)
  | fill atRead isOpen _ _ => exact current.fill atRead isOpen _
  | fail atRead _ =>
      exact current.leave (by simp [FileReader.inFlight, atRead]) current.descriptor
        (Or.inl (by simp [Pc.Reads]))
  | line atRead found => exact current.accept atRead found
  | @put line atSend _ =>
      refine { current with delivered := ?_, opened := ?_, ahead := ?_ }
      · simpa [FileReader.inFlight, atSend] using current.delivered
      · intro reads
        contradiction
      · intro _
        exact current.ahead (by rw [atSend]; trivial)
  | openFail atReopen =>
      exact current.leave (by simp [FileReader.inFlight, atReopen]) (by simp)
        (Or.inr ⟨rfl, rfl⟩)
  | @openOk other atReopen named =>
      have same : other = inode := Option.some.inj (named.symm.trans (reopens rfl))
      exact current.leave (by simp [FileReader.inFlight, atReopen]) (by simp [same])
        (Or.inl (by simp [Pc.Reads]))
  | statFail atStat =>
      exact current.leave (by simp [FileReader.inFlight, atStat]) (by simp)
        (Or.inr ⟨rfl, rfl⟩)
  | @statOk file atStat isOpen =>
      have onGeneration : disk.holds file.inode = generation := by
        rw [current.descriptor file isOpen, current.holds]
      -- the file has at least `offset` bytes, so it is not taken for a new one
      have large : ¬ disk.size file.inode < reader.offset := by
        rw [Disk.size, onGeneration, ← Disk.length_cells]
        exact Nat.not_lt.mpr current.offset_le
      have unchanged : reader.checkSize (disk.size file.inode) (disk.holds file.inode) =
          { reader with pc := .seek } := by
        simp [FileReader.checkSize, large, onGeneration, current.source]
      rw [unchanged]
      exact current.leave (by simp [FileReader.inFlight, atStat]) current.descriptor
        (Or.inl (by simp [Pc.Reads]))
  | seekFail atSeek =>
      exact current.leave (by simp [FileReader.inFlight, atSeek]) (by simp)
        (Or.inr ⟨rfl, rfl⟩)
  | @seekOk file atSeek isOpen =>
      refine { current with descriptor := ?_, delivered := ?_, opened := ?_, ahead := ?_ }
      · rintro opened ⟨⟩
        exact current.descriptor file isOpen
      · simpa [FileReader.inFlight, atSeek] using current.delivered
      · intro reads
        contradiction
      · rintro _ opened ⟨⟩
        exact ⟨Nat.le_refl _, current.offset_le, (part_self _ _).symm⟩

/-- Every step of the system keeps the invariant, unless it truncates the file
or makes the reader open another one. -/
theorem step {system after : System} {action : Action}
    (current : Current inode generation base earlier system.disk system.reader)
    (kept : action ≠ .disk .truncate)
    (reopens : action = .tail .openOk → system.disk.path = some inode)
    (step : system.step action = some after) :
    Current inode generation base earlier after.disk after.reader := by
  rcases System.step_cases step with
    ⟨event, disk, rfl, applied, rfl⟩ | ⟨move, reader, rfl, moves, rfl⟩ |
      ⟨line, rest, rfl, _, rfl⟩ | ⟨rfl, rfl⟩
  · exact current.disk (fun truncates => kept (congrArg Action.disk truncates)) applied
  · exact current.tail (fun opens => reopens (congrArg Action.tail opens)) moves
  · exact { current with }
  · exact { current with }

end Current

/-! ## Runs over a file that is only appended to -/

/-- Appending does not change what the path names. -/
theorem path_step {system after : System} {action : Action}
    (appendOnly : action.AppendOnly) (step : system.step action = some after) :
    after.disk.path = system.disk.path := by
  rcases System.step_cases step with
    ⟨event, disk, rfl, applied, rfl⟩ | ⟨move, reader, rfl, moves, rfl⟩ |
      ⟨line, rest, rfl, _, rfl⟩ | ⟨rfl, rfl⟩
  · rcases Disk.apply_cases applied with
      ⟨inode, bytes, rfl, _, rfl⟩ | ⟨rfl, rfl⟩ | ⟨rfl, _, rfl⟩ | ⟨inode, rfl, _, rfl⟩
    · rfl
    all_goals contradiction
  · rfl
  · rfl
  · rfl

/-- While the path's file is only appended to, the reader keeps following
it. -/
theorem current_run {inode generation base : Nat} {earlier : List Line}
    {system final : System} {schedule : List Action}
    (named : system.disk.path = some inode)
    (current : Current inode generation base earlier system.disk system.reader)
    (appendOnly : ∀ action ∈ schedule, action.AppendOnly)
    (ran : run System.step system schedule = some final) :
    final.disk.path = some inode ∧
      Current inode generation base earlier final.disk final.reader := by
  have preserved : ∀ ⦃before : System⦄ ⦃action : Action⦄ ⦃after : System⦄,
      before.disk.path = some inode ∧
        Current inode generation base earlier before.disk before.reader →
      action.AppendOnly → before.step action = some after →
      after.disk.path = some inode ∧
        Current inode generation base earlier after.disk after.reader := by
    rintro before action after ⟨named, current⟩ appendOnly step
    refine ⟨(path_step appendOnly step).trans named, current.step ?_ ?_ step⟩
    · rintro rfl
      exact appendOnly
    · intro _
      exact named
  exact invariant_of_run preserved ⟨named, current⟩
    (meets_of_forall_mem system appendOnly) ran

/-- A successful `Start` follows the file from its end on. -/
theorem current_start {disk : Disk} {opens seeks : Bool} {reader : FileReader}
    (started : FileReader.start disk opens seeks = some reader) :
    ∃ inode, disk.path = some inode ∧ reader.offset = disk.size inode ∧
      Current inode (disk.holds inode) reader.offset [] disk reader := by
  rcases FileReader.start_eq_some started with ⟨inode, named, rfl⟩
  refine ⟨inode, named, rfl, ?_⟩
  constructor
  case used => exact disk.path_lt inode named
  case offset_le => simp [Disk.size]
  case closed => simp
  case delivered => simp [FileReader.newFileReader, FileReader.inFlight]
  case opened => simp [FileReader.newFileReader]
  case ahead =>
    rintro _ file ⟨⟩
    exact ⟨Nat.le_refl _, by simp [Disk.size], (part_self _ _).symm⟩
  all_goals simp

/-- The lines of a part of a generation, as texts. -/
theorem text_lines_part (disk : Disk) (generation low high : Nat) :
    (lines Cell.isNewline (part (disk.cells generation) low high)).map Line.text =
      lines isNewline (part (disk.contents generation) low high) := by
  rw [Disk.cells, part_map, lines_map, List.map_map]
  have recovered : Line.text ∘ List.map (Cell.mk generation) = id := by
    funext text
    simp [Line.text, Function.comp_def]
  rw [recovered, List.map_id]
  rfl

/-- Stamping bytes does not change where a text is closed. -/
theorem closed_contents {disk : Disk} {generation low high : Nat}
    (closed : Closed Cell.isNewline (part (disk.cells generation) low high)) :
    Closed isNewline (part (disk.contents generation) low high) := by
  rw [Disk.cells, part_map, closed_map] at closed
  exact closed

/-- Exactly-once tailing.  Start the reader on a file and let the file only be
appended to, while system calls fail or hit end of file at any moment.  The
lines put on the channel, together with the one that left `readLine` and waits
for room, are the nonempty newline-terminated segments between the end of the
file at the start and `offset`; and `offset` is that end or lies right behind
a newline of the file. -/
theorem tailFile_exactlyOnce {disk : Disk} {opens seeks : Bool} {reader : FileReader}
    {schedule : List Action} {final : System}
    (started : FileReader.start disk opens seeks = some reader)
    (appendOnly : ∀ action ∈ schedule, action.AppendOnly)
    (ran : run System.step ⟨disk, reader⟩ schedule = some final) :
    ∃ initial content, disk.fileAtPath = some initial ∧
      final.disk.fileAtPath = some content ∧
      (final.reader.emitted ++ final.reader.inFlight).map Line.text =
        lines isNewline (part content initial.length final.reader.offset) ∧
      initial.length ≤ final.reader.offset ∧
      final.reader.offset ≤ content.length ∧
      (final.reader.offset = initial.length ∨
        content[final.reader.offset - 1]? = some newline) := by
  rcases current_start started with ⟨inode, named, startsAt, current⟩
  rcases current_run named current appendOnly ran with ⟨namedFinal, currentFinal⟩
  have initialLength : (disk.contents (disk.holds inode)).length = reader.offset :=
    startsAt.symm
  refine ⟨disk.contents (disk.holds inode), final.disk.contents (disk.holds inode),
    by simp [Disk.fileAtPath, named],
    by simp [Disk.fileAtPath, namedFinal, currentFinal.holds], ?_, ?_, ?_, ?_⟩
  · rw [currentFinal.delivered, List.nil_append, text_lines_part, initialLength]
  · rw [initialLength]
    exact currentFinal.base_le
  · simpa using currentFinal.offset_le
  · rw [initialLength]
    rcases closed_part currentFinal.base_le (by simpa using currentFinal.offset_le)
      (closed_contents currentFinal.closed) with unmoved | ⟨last, lastAt, ends⟩
    · exact Or.inl unmoved
    · have lastEq : last = newline := by
        simpa [isNewline] using ends
      rw [lastAt, lastEq]
      exact Or.inr rfl

/-- A line written in two pieces, the first of which is read ahead, dropped at
end of file, and read again after a reopen. -/
theorem tailFile_exactlyOnce_twoPieces :
    ∃ reader final content,
      FileReader.start (Disk.single [120]) true true = some reader ∧
      run System.step ⟨Disk.single [120], reader⟩
        [.disk (.append 0 [97, 98]), .tail .select, .tail (.fill 4096), .tail .fail,
          .disk (.append 0 [99, 10, 10, 100]), .tail .openOk, .tail .statOk,
          .tail .seekOk, .tail .select, .tail (.fill 4096), .tail .line, .tail .put] =
        some final ∧
      final.disk.fileAtPath = some content ∧
      (final.reader.emitted ++ final.reader.inFlight).map Line.text =
        lines isNewline (part content 1 final.reader.offset) ∧
      final.reader.emitted.map Line.text = [[97, 98, 99]] ∧
      content[final.reader.offset - 1]? = some newline := by
  rcases tailFile_exactlyOnce
    (rfl : FileReader.start (Disk.single [120]) true true = some _)
    (by simp [Action.AppendOnly])
    (rfl : run System.step ⟨Disk.single [120], _⟩
      [.disk (.append 0 [97, 98]), .tail .select, .tail (.fill 4096), .tail .fail,
        .disk (.append 0 [99, 10, 10, 100]), .tail .openOk, .tail .statOk,
        .tail .seekOk, .tail .select, .tail (.fill 4096), .tail .line, .tail .put] =
      some _) with ⟨initial, content, initialEq, contentEq, delivered, _, _, _⟩
  cases initialEq
  cases contentEq
  exact ⟨_, _, _, rfl, rfl, rfl, delivered, rfl, rfl⟩

end Tailpost.Reader
