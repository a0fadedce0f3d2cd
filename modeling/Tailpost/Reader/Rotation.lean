import Tailpost.Reader.Tailing

/-!
# Rotation

`reopen` compares the size of the file it opened with `offset` and with nothing
else.  A generation the reader has not looked at yet is taken up at its first
byte exactly when it is shorter than `offset`, or when `offset` is zero; and
bytes behind `offset` in a file that was renamed away are given up as soon as
`os.Open` finds another file at the path.

Both halves rest on where the bytes of the reader come from: only a `Read`
brings bytes in, and only a successful `Stat` changes the generation in which
`offset` counts.
-/

namespace Tailpost.Reader

open Tailpost.Text
open Tailpost.Transition

/-! ## Where the bytes of the reader come from -/

/-- Every byte that the reader buffers, is about to emit, or has emitted. -/
def FileReader.cells (reader : FileReader) : List Cell :=
  reader.buffer ++ (reader.inFlight ++ reader.emitted).flatten

section Moves

variable {disk : Disk} {reader after : FileReader} {action : TailStep}

/-- Bytes enter the reader through `Read` only. -/
theorem mem_cells_of_moves (moves : Moves disk reader action after) {cell : Cell}
    (member : cell ∈ after.cells) :
    cell ∈ reader.cells ∨ ∃ file count, action = .fill count ∧
      reader.file = some file ∧ cell.generation = disk.holds file.inode := by
  cases moves with
  | @fill file count atRead isOpen _ _ =>
      simp only [FileReader.cells, FileReader.inFlight, atRead, List.append_assoc,
        List.mem_append] at member ⊢
      rcases member with buffered | read | emitted
      · exact Or.inl (Or.inl buffered)
      · have stamped := Disk.generation_of_mem_cells
          (List.mem_of_mem_drop (List.mem_of_mem_take read))
        exact Or.inr ⟨file, count, rfl, isOpen, stamped⟩
      · exact Or.inl (Or.inr emitted)
  | @line line rest atRead found =>
      left
      rcases readString_eq_some found with ⟨split, text, terminator, rfl, ends, _⟩
      simp only [FileReader.cells, FileReader.inFlight_accept, trimNewline_concat ends,
        List.flatten_append, List.mem_append] at member ⊢
      rcases member with inRest | inText | emitted
      · left
        rw [split]
        exact List.mem_append_right _ inRest
      · left
        split at inText
        · contradiction
        · rw [split]
          simp_all
      · exact Or.inr (Or.inr emitted)
  | put atSend _ =>
      left
      simpa [FileReader.cells, FileReader.inFlight, atSend, or_comm, or_assoc,
        or_left_comm] using member
  | exit position _ | retry position _ | poll position _ | fail position _
  | openFail position | openOk position _ | statFail position | statOk position _
  | seekFail position | seekOk position _ =>
      left
      simp_all [FileReader.cells, FileReader.inFlight, FileReader.giveUp,
        FileReader.checkSize]

/-- The generation in which `offset` counts changes at `Stat` only. -/
theorem source_of_moves (moves : Moves disk reader action after) :
    after.source = reader.source ∨ ∃ file, action = .statOk ∧
      reader.file = some file ∧ after.source = disk.holds file.inode := by
  cases moves with
  | @statOk file _ isOpen => exact Or.inr ⟨file, rfl, isOpen, rfl⟩
  | _ => exact Or.inl rfl

/-- A descriptor stays on its inode until `os.Open` opens what the path
names. -/
theorem inode_of_moves (moves : Moves disk reader action after) {file : File}
    (isOpen : after.file = some file) :
    (∃ previous, reader.file = some previous ∧ previous.inode = file.inode) ∨
      action = .openOk ∧ disk.path = some file.inode := by
  cases moves with
  | exit | openFail | statFail | seekFail => contradiction
  | @fill previous _ _ wasOpen _ _ | @seekOk previous _ wasOpen =>
      cases isOpen
      exact Or.inl ⟨previous, wasOpen, rfl⟩
  | openOk _ named =>
      cases isOpen
      exact Or.inr ⟨rfl, named⟩
  | _ => exact Or.inl ⟨file, isOpen, rfl⟩

end Moves

/-- The reader draws on allowed generations only. -/
structure Draws (allowed : Nat → Prop) (reader : FileReader) : Prop where
  source : allowed reader.source
  cells : ∀ cell ∈ reader.cells, allowed cell.generation

/-- The reader keeps drawing on allowed generations as long as its system calls
meet no other. -/
theorem Draws.moves {allowed : Nat → Prop} {disk : Disk} {reader after : FileReader}
    {action : TailStep} (draws : Draws allowed reader)
    (moves : Moves disk reader action after)
    (meets : ∀ file, reader.file = some file →
      (∃ count, action = .fill count) ∨ action = .statOk →
      allowed (disk.holds file.inode)) :
    Draws allowed after := by
  constructor
  · rcases source_of_moves moves with same | ⟨file, stats, isOpen, same⟩
    · rw [same]
      exact draws.source
    · rw [same]
      exact meets file isOpen (Or.inr stats)
  · intro cell member
    rcases mem_cells_of_moves moves member with old | ⟨file, count, fills, isOpen, same⟩
    · exact draws.cells cell old
    · rw [same]
      exact meets file isOpen (Or.inl ⟨count, fills⟩)

/-- The reader knows nothing but files and generations in use. -/
structure Known (disk : Disk) (reader : FileReader) : Prop where
  descriptor : ∀ file ∈ reader.file, file.inode < disk.inodes
  draws : Draws (· < disk.generations) reader

/-- A descriptor refers to an inode in use, whatever happens. -/
theorem descriptor_step {system after : System} {action : Action}
    (descriptor : ∀ file ∈ system.reader.file, file.inode < system.disk.inodes)
    (step : system.step action = some after) :
    ∀ file ∈ after.reader.file, file.inode < after.disk.inodes := by
  intro file isOpen
  rcases System.step_cases step with
    ⟨event, disk, rfl, applied, rfl⟩ | ⟨move, reader, rfl, moves, rfl⟩ |
      ⟨line, rest, rfl, _, rfl⟩ | ⟨rfl, rfl⟩
  · exact (descriptor file isOpen).trans_le (Disk.counters_le_apply applied).1
  · rcases inode_of_moves moves isOpen with ⟨previous, wasOpen, same⟩ | ⟨_, named⟩
    · rw [← same]
      exact descriptor previous wasOpen
    · exact system.disk.path_lt file.inode named
  · exact descriptor file isOpen
  · exact descriptor file isOpen

theorem known_step {system after : System} {action : Action}
    (known : Known system.disk system.reader) (step : system.step action = some after) :
    Known after.disk after.reader := by
  have descriptor := descriptor_step known.descriptor step
  rcases System.step_cases step with
    ⟨event, disk, rfl, applied, rfl⟩ | ⟨move, reader, rfl, moves, rfl⟩ |
      ⟨line, rest, rfl, _, rfl⟩ | ⟨rfl, rfl⟩
  · have grown := (Disk.counters_le_apply applied).2
    exact ⟨descriptor, known.draws.source.trans_le grown,
      fun cell member => (known.draws.cells cell member).trans_le grown⟩
  · refine ⟨descriptor, known.draws.moves moves ?_⟩
    intro file isOpen _
    exact system.disk.holds_lt file.inode (known.descriptor file isOpen)
  · exact ⟨descriptor, known.draws.source, known.draws.cells⟩
  · exact ⟨descriptor, known.draws.source, known.draws.cells⟩

theorem known_start {disk : Disk} {opens seeks : Bool} {reader : FileReader}
    (started : FileReader.start disk opens seeks = some reader) : Known disk reader := by
  rcases FileReader.start_eq_some started with ⟨inode, named, rfl⟩
  have used := disk.path_lt inode named
  constructor
  · rintro file ⟨⟩
    exact used
  · exact ⟨disk.holds_lt inode used, by
      simp [FileReader.cells, FileReader.newFileReader, FileReader.inFlight]⟩

/-! ## Lines of one generation -/

/-- The lines that contain a byte of a generation. -/
def linesFrom (generation : Nat) (emitted : List Line) : List Line :=
  emitted.filter fun line => line.any fun cell => cell.generation == generation

theorem linesFrom_append (generation : Nat) (first second : List Line) :
    linesFrom generation (first ++ second) =
      linesFrom generation first ++ linesFrom generation second :=
  List.filter_append ..

theorem linesFrom_eq_nil {generation : Nat} {emitted : List Line}
    (other : ∀ line ∈ emitted, ∀ cell ∈ line, cell.generation ≠ generation) :
    linesFrom generation emitted = [] := by
  rw [linesFrom, List.filter_eq_nil_iff]
  intro line member
  simpa using other line member

/-- All lines of a part of a generation contain a byte of it. -/
theorem linesFrom_lines_part (disk : Disk) (generation low high : Nat) :
    linesFrom generation
        (lines Cell.isNewline (part (disk.cells generation) low high)) =
      lines Cell.isNewline (part (disk.cells generation) low high) := by
  rw [linesFrom, List.filter_eq_self]
  intro line member
  rcases of_mem_lines member with ⟨nonempty, inPart⟩
  rcases List.exists_mem_of_ne_nil line nonempty with ⟨cell, inside⟩
  have stamped := Disk.generation_of_mem_cells
    (List.mem_of_mem_take (List.mem_of_mem_drop (inPart cell inside)))
  exact List.any_eq_true.mpr ⟨cell, inside, by simpa using stamped⟩

/-- A reader that draws on other generations emitted no line of this one. -/
theorem Draws.linesFrom_emitted {generation : Nat} {reader : FileReader}
    (draws : Draws (· ≠ generation) reader) :
    linesFrom generation reader.emitted = [] := by
  apply linesFrom_eq_nil
  intro line member cell inside
  apply draws.cells
  exact List.mem_append_right _
    (List.mem_flatten_of_mem (List.mem_append_right _ member) inside)

/-! ## New content at the path -/

/-- The system call of a step does not mix two generations: a `Read` gets bytes
of the generation in which `offset` counts, and a `Stat` that meets another
generation finds it shorter than `offset`, unless `offset` is zero. -/
def Aligned (system : System) : Action → Prop
  | .tail (.fill _) => ∀ file ∈ system.reader.file,
      system.disk.holds file.inode = system.reader.source
  | .tail .statOk => ∀ file ∈ system.reader.file,
      system.disk.holds file.inode = system.reader.source ∨
        system.disk.size file.inode < system.reader.offset ∨ system.reader.offset = 0
  | _ => True

instance (system : System) : DecidablePred (Aligned system)
  | .tail (.fill _) => inferInstanceAs (Decidable (∀ file ∈ system.reader.file, _))
  | .tail .statOk => inferInstanceAs (Decidable (∀ file ∈ system.reader.file, _))
  | .disk _ | .receive | .stop | .tail .select | .tail .fail | .tail .line | .tail .put
  | .tail .openFail | .tail .openOk | .tail .statFail | .tail .seekFail
  | .tail .seekOk => isTrue trivial

/-- The lines emitted from a generation at the path are a front part of its
lines; and once `offset` counts in it they are the lines before `offset`. -/
def ReadsFromStart (generation : Nat) (system : System) : Prop :=
  ∃ content, system.disk.fileAtPath = some content ∧
    (linesFrom generation system.reader.emitted).map Line.text <+:
      lines isNewline content ∧
    (system.reader.source = generation →
      (linesFrom generation
          (system.reader.emitted ++ system.reader.inFlight)).map Line.text =
        lines isNewline (part content 0 system.reader.offset))

/-- Since the rotation the reader has not looked at the new generation, or it
follows it from its first byte on. -/
structure Rotated (inode generation : Nat) (system : System) : Prop where
  path : system.disk.path = some inode
  holds : system.disk.holds inode = generation
  descriptor : ∀ file ∈ system.reader.file, file.inode < system.disk.inodes
  stage : Draws (· ≠ generation) system.reader ∨
    ∃ earlier, linesFrom generation earlier = [] ∧
      Current inode generation 0 earlier system.disk system.reader

/-- A `Stat` that takes `offset` back to zero takes the generation up at its
first byte. -/
theorem current_of_checkSize {disk : Disk} {reader : FileReader} {file : File}
    (used : file.inode < disk.inodes) (isOpen : reader.file = some file)
    (fresh : disk.size file.inode < reader.offset ∨ reader.offset = 0) :
    Current file.inode (disk.holds file.inode) 0 reader.emitted disk
      (reader.checkSize (disk.size file.inode) (disk.holds file.inode)) := by
  have restarted : (reader.checkSize (disk.size file.inode)
      (disk.holds file.inode)).offset = 0 := by
    rcases fresh with smaller | zero
    · simp [FileReader.checkSize, smaller]
    · simp [FileReader.checkSize, zero]
  constructor
  case used => exact used
  case descriptor =>
    intro opened member
    cases isOpen.symm.trans member
    rfl
  case base_le => exact Nat.zero_le _
  case offset_le =>
    rw [restarted]
    exact Nat.zero_le _
  case closed => simp [restarted]
  case delivered =>
    rw [restarted]
    simp [FileReader.checkSize, FileReader.inFlight]
  case opened =>
    intro reads
    contradiction
  case ahead =>
    intro reads
    contradiction
  all_goals rfl

/-- One aligned step of a system whose files are only appended to. -/
theorem rotated_step {inode generation : Nat} {system after : System} {action : Action}
    (rotated : Rotated inode generation system) (appendOnly : action.AppendOnly)
    (aligned : Aligned system action) (step : system.step action = some after) :
    Rotated inode generation after := by
  have used := system.disk.path_lt inode rotated.path
  have kept : action ≠ .disk .truncate := by
    rintro rfl
    exact appendOnly
  have descriptor := descriptor_step rotated.descriptor step
  have path := (path_step appendOnly step).trans rotated.path
  rcases rotated.stage with draws | ⟨earlier, before, current⟩
  case inr =>
    have followed := current.step kept (fun _ => rotated.path) step
    exact ⟨path, followed.holds, descriptor, Or.inr ⟨earlier, before, followed⟩⟩
  case inl =>
    rcases System.step_cases step with
      ⟨event, disk, rfl, applied, rfl⟩ | ⟨move, reader, rfl, moves, rfl⟩ |
        ⟨line, rest, rfl, _, rfl⟩ | ⟨rfl, rfl⟩
    · have holds := Disk.holds_apply used (fun cut => kept (congrArg _ cut)) applied
      exact ⟨path, holds.trans rotated.holds, descriptor, Or.inl draws⟩
    · refine ⟨path, rotated.holds, descriptor, ?_⟩
      -- only a `Stat` can meet the new generation
      by_cases met : move = .statOk ∧ ∃ file, system.reader.file = some file ∧
          system.disk.holds file.inode = generation
      · rcases met with ⟨rfl, file, isOpen, onGeneration⟩
        have fileUsed := rotated.descriptor file isOpen
        have same : file.inode = inode := system.disk.holds_inj _ fileUsed _ used
          (onGeneration.trans rotated.holds.symm)
        have fresh : system.disk.size file.inode < system.reader.offset ∨
            system.reader.offset = 0 := by
          rcases aligned file isOpen with atSource | fresh
          · exact absurd (atSource.symm.trans onGeneration) draws.source
          · exact fresh
        cases moves with
        | @statOk opened _ isOpened =>
            cases isOpen.symm.trans isOpened
            have current := current_of_checkSize fileUsed isOpen fresh
            rw [onGeneration, same] at current
            rw [onGeneration, same]
            exact Or.inr ⟨_, draws.linesFrom_emitted, current⟩
      · left
        apply draws.moves moves
        rintro file isOpen (⟨count, rfl⟩ | rfl) onGeneration
        · exact draws.source ((aligned file isOpen).symm.trans onGeneration)
        · exact met ⟨rfl, file, isOpen, onGeneration⟩
    · exact ⟨path, rotated.holds, descriptor, Or.inl ⟨draws.source, draws.cells⟩⟩
    · exact ⟨path, rotated.holds, descriptor, Or.inl ⟨draws.source, draws.cells⟩⟩

/-- The reader has not looked at content that just appeared. -/
theorem rotated_of_rotates {system after : System} {event : DiskEvent}
    (known : Known system.disk system.reader) (rotates : event.Rotates)
    (step : system.step (.disk event) = some after) :
    ∃ inode, Rotated inode system.disk.generations after := by
  have descriptor := descriptor_step known.descriptor step
  rcases Option.map_eq_some_iff.mp step with ⟨disk, applied, rfl⟩
  rcases Disk.rotates_apply rotates applied with ⟨inode, path, holds⟩
  exact ⟨inode, path, holds, descriptor, Or.inl ⟨known.draws.source.ne,
    fun cell member => (known.draws.cells cell member).ne⟩⟩

theorem Rotated.readsFromStart {inode generation : Nat} {system : System}
    (rotated : Rotated inode generation system) : ReadsFromStart generation system := by
  have content : system.disk.fileAtPath = some (system.disk.contents generation) := by
    simp [Disk.fileAtPath, rotated.path, rotated.holds]
  refine ⟨system.disk.contents generation, content, ?_⟩
  rcases rotated.stage with draws | ⟨earlier, before, current⟩
  · rw [draws.linesFrom_emitted]
    exact ⟨List.nil_prefix, fun met => absurd met draws.source⟩
  · have read : (linesFrom generation
        (system.reader.emitted ++ system.reader.inFlight)).map Line.text =
        lines isNewline (part (system.disk.contents generation) 0
          system.reader.offset) := by
      rw [current.delivered, linesFrom_append, before, List.nil_append,
        linesFrom_lines_part, text_lines_part]
    constructor
    · have front : (linesFrom generation system.reader.emitted).map Line.text <+:
          lines isNewline (part (system.disk.contents generation) 0
            system.reader.offset) := by
        rw [← read, linesFrom_append, List.map_append]
        exact List.prefix_append _ _
      have whole := lines_drop (Nat.zero_le _) (by simpa using current.offset_le)
        (closed_contents current.closed)
      rw [List.drop_zero] at whole
      rw [whole]
      exact front.trans (List.prefix_append _ _)
    · intro _
      exact read

/-- Let new content appear at the path at any moment of any run, and let the
files only be appended to afterwards.  As long as every system call is aligned,
the lines emitted from the new content are those from its first byte on. -/
theorem readsFromStart_of_aligned {disk : Disk} {opens seeks : Bool}
    {reader : FileReader} {before after : List Action} {event : DiskEvent}
    {system rotated final : System}
    (started : FileReader.start disk opens seeks = some reader)
    (ranBefore : run System.step ⟨disk, reader⟩ before = some system)
    (rotates : event.Rotates) (occurs : system.step (.disk event) = some rotated)
    (appendOnly : ∀ action ∈ after, action.AppendOnly)
    (aligned : Meets System.step Aligned rotated after)
    (ranAfter : run System.step rotated after = some final) :
    ReadsFromStart system.disk.generations final := by
  have known : Known system.disk system.reader := by
    have preserved : ∀ ⦃state : System⦄ ⦃action : Action⦄ ⦃next : System⦄,
        Known state.disk state.reader → state.step action = some next →
        Known next.disk next.reader := fun _ _ _ => known_step
    exact invariant_of_run_of_forall preserved (known_start started) ranBefore
  rcases rotated_of_rotates known rotates occurs with ⟨inode, initially⟩
  have rotatedFinal : Rotated inode system.disk.generations final :=
    invariant_of_run (fun _ _ _ holds meets step => rotated_step holds meets.1 meets.2 step)
      initially ((meets_of_forall_mem rotated appendOnly).and aligned) ranAfter
  exact rotatedFinal.readsFromStart

/-- The old file had four bytes; the new one has two when `Stat` first sees
it. -/
theorem readsFromStart_of_aligned_shorter :
    ∃ reader system rotated final,
      FileReader.start (Disk.single [120, 10, 121, 10]) true true = some reader ∧
      run System.step ⟨Disk.single [120, 10, 121, 10], reader⟩
        [.tail .select, .tail .fail, .disk .rename] = some system ∧
      system.step (.disk .create) = some rotated ∧
      run System.step rotated
        [.disk (.append 1 [97, 10]), .tail .openOk, .tail .statOk, .tail .seekOk,
          .tail .select, .tail (.fill 4096), .tail .line, .tail .put] = some final ∧
      (linesFrom system.disk.generations final.reader.emitted).map Line.text = [[97]] ∧
      ReadsFromStart system.disk.generations final := by
  refine ⟨_, _, _, _, rfl, rfl, rfl, rfl, rfl, ?_⟩
  exact @readsFromStart_of_aligned (Disk.single [120, 10, 121, 10]) true true _
    [.tail .select, .tail .fail, .disk .rename]
    [.disk (.append 1 [97, 10]), .tail .openOk, .tail .statOk, .tail .seekOk,
      .tail .select, .tail (.fill 4096), .tail .line, .tail .put]
    .create _ _ _ rfl rfl trivial rfl (by simp [Action.AppendOnly]) (by decide) rfl

/-- The old file had one byte and the new one has three when `Stat` first sees
it, so `reopen` seeks into the middle of the first line of the new file. -/
theorem rotation_emits_fragment :
    ∃ reader system rotated final,
      FileReader.start (Disk.single [120]) true true = some reader ∧
      run System.step ⟨Disk.single [120], reader⟩
        [.tail .select, .tail .fail, .disk .rename] = some system ∧
      system.step (.disk .create) = some rotated ∧
      run System.step rotated
        [.disk (.append 1 [97, 98, 10]), .tail .openOk, .tail .statOk, .tail .seekOk,
          .tail .select, .tail (.fill 4096), .tail .line, .tail .put] = some final ∧
      final.reader.emitted.map Line.text = [[98]] ∧
      ¬ ReadsFromStart system.disk.generations final := by
  refine ⟨_, _, _, _, rfl, rfl, rfl, rfl, rfl, ?_⟩
  rintro ⟨content, contentEq, front, _⟩
  cases contentEq
  revert front
  decide

/-! ## The tail of the old file -/

/-- Steps around rotations by allowed: nobody writes to a file that was renamed
away, and nobody truncates. -/
def Renaming (system : System) : Action → Prop
  | .disk (.append inode _) => system.disk.path = some inode
  | .disk .truncate => False
  | _ => True

/-- The reader opens no file but the one at an inode. -/
def Follows (inode : Nat) (system : System) (action : Action) : Prop :=
  Renaming system action ∧ (action = .tail .openOk → system.disk.path = some inode)

instance (system : System) : DecidablePred (Renaming system)
  | .disk (.append inode _) => inferInstanceAs (Decidable (system.disk.path = some inode))
  | .disk .truncate => isFalse id
  | .disk .rename | .disk .create | .tail _ | .receive | .stop => isTrue trivial

instance (inode : Nat) (system : System) (action : Action) :
    Decidable (Follows inode system action) :=
  inferInstanceAs (Decidable (_ ∧ _))

/-- Every line that a generation has behind `base` was emitted. -/
def EmittedFrom (generation base : Nat) (system : System) : Prop :=
  (linesFrom generation system.reader.emitted).map Line.text =
    lines isNewline ((system.disk.contents generation).drop base)

instance (generation base : Nat) (system : System) :
    Decidable (EmittedFrom generation base system) :=
  inferInstanceAs (Decidable (_ = _))

/-- The reader dropped the generation of an inode that was renamed away: its
bytes and the lines emitted from it do not change any more. -/
structure Left (inode generation : Nat) (bytes : List UInt8) (old : List Line)
    (system : System) : Prop where
  used : inode < system.disk.inodes
  holds : system.disk.holds inode = generation
  contents : system.disk.contents generation = bytes
  unnamed : system.disk.path ≠ some inode
  inUse : ∀ file ∈ system.reader.file, file.inode < system.disk.inodes
  elsewhere : ∀ file ∈ system.reader.file, file.inode ≠ inode
  emitted : linesFrom generation system.reader.emitted = old
  waiting : ∀ line ∈ system.reader.inFlight, ∀ cell ∈ line, cell.generation ≠ generation
  ahead : system.reader.pc.Reads → (system.reader.pc = .loop → system.reader.file ≠ none) →
    ∀ cell ∈ system.reader.buffer, cell.generation ≠ generation

namespace Left

variable {inode generation : Nat} {bytes : List UInt8} {old : List Line}

/-- Writes go to the file at the path, so a file that was renamed away keeps its
bytes. -/
theorem disk {system : System} (left : Left inode generation bytes old system)
    {event : DiskEvent} {after : Disk} (allowed : Renaming system (.disk event))
    (applied : system.disk.apply event = some after)
    (inUse : ∀ file ∈ system.reader.file, file.inode < after.inodes) :
    Left inode generation bytes old { system with disk := after } := by
  have generationUsed : generation < system.disk.generations := by
    rw [← left.holds]
    exact system.disk.holds_lt inode left.used
  have used := left.used.trans_le (Disk.counters_le_apply applied).1
  rcases Disk.apply_cases applied with
    ⟨written, _, rfl, writtenUsed, rfl⟩ | ⟨rfl, rfl⟩ | ⟨rfl, _, rfl⟩ | ⟨_, rfl, _, rfl⟩
  · have other : generation ≠ system.disk.holds written := by
      intro same
      have written_eq := system.disk.holds_inj inode left.used written writtenUsed
        (left.holds.trans same)
      exact left.unnamed (written_eq ▸ allowed)
    exact { left with
      contents := (Function.update_of_ne other _ _).trans left.contents }
  · exact { left with
      unnamed := by simp [Disk.rename] }
  · have fresh : some system.disk.inodes ≠ some inode := by
      intro same
      exact left.used.ne (Option.some.inj same).symm
    exact { left with
      used, inUse
      holds := (Function.update_of_ne left.used.ne _ _).trans left.holds
      contents := (Function.update_of_ne generationUsed.ne _ _).trans left.contents
      unnamed := fresh }
  · contradiction

/-- The tail goroutine does not come back to the file. -/
theorem tail {system : System} (left : Left inode generation bytes old system)
    {action : TailStep} {after : FileReader}
    (moves : Moves system.disk system.reader action after)
    (inUse : ∀ file ∈ after.file, file.inode < system.disk.inodes) :
    Left inode generation bytes old { system with reader := after } := by
  have elsewhere : ∀ file ∈ after.file, file.inode ≠ inode := by
    intro file isOpen
    rcases inode_of_moves moves isOpen with ⟨previous, wasOpen, same⟩ | ⟨_, named⟩
    · rw [← same]
      exact left.elsewhere previous wasOpen
    · intro same
      exact left.unnamed (same ▸ named)
  cases moves with
  | poll atLoop isOpen =>
      refine { left with inUse, elsewhere, waiting := ?_, ahead := ?_ }
      · simp [FileReader.inFlight]
      · intro _ _
        exact left.ahead (by simp [atLoop, Pc.Reads]) (by simp [isOpen])
  | @fill file _ atRead isOpen _ _ =>
      have other : system.disk.holds file.inode ≠ generation := by
        intro same
        exact left.elsewhere file isOpen (system.disk.holds_inj _ (left.inUse file isOpen) _
          left.used (same.trans left.holds.symm))
      refine { left with inUse, elsewhere, ahead := ?_ }
      intro _ _ cell member
      rcases List.mem_append.mp member with buffered | read
      · exact left.ahead (by simp [atRead, Pc.Reads]) (by simp [atRead]) cell buffered
      · rw [Disk.generation_of_mem_cells (List.mem_of_mem_drop (List.mem_of_mem_take read))]
        exact other
  | @line line rest atRead found =>
      have clean := left.ahead (by simp [atRead, Pc.Reads]) (by simp [atRead])
      rcases readString_eq_some found with ⟨split, text, terminator, rfl, ends, _⟩
      rw [split] at clean
      refine { left with inUse, elsewhere, waiting := ?_, ahead := ?_ }
      · rw [FileReader.inFlight_accept, trimNewline_concat ends]
        intro line member cell inside
        split at member
        · contradiction
        · cases List.mem_singleton.mp member
          exact clean cell (by simp [inside])
      · intro _ _ cell member
        exact clean cell (List.mem_append_right _ member)
  | @put line atSend _ =>
      have clean := left.waiting line (by simp [FileReader.inFlight, atSend])
      refine { left with inUse, elsewhere, emitted := ?_, waiting := ?_, ahead := ?_ }
      · have none : linesFrom generation [line] = [] := linesFrom_eq_nil (by simpa using clean)
        rw [linesFrom_append, none, List.append_nil]
        exact left.emitted
      · simp [FileReader.inFlight]
      · intro _ _
        exact left.ahead (by simp [atSend, Pc.Reads]) (by simp [atSend])
  | exit | retry | fail | openOk | statOk =>
      refine { left with inUse, elsewhere, waiting := ?_, ahead := ?_ }
      · simp [FileReader.inFlight, FileReader.checkSize]
      · intro reads
        contradiction
  | openFail | statFail | seekFail =>
      refine { left with inUse, elsewhere, waiting := ?_, ahead := ?_ }
      · simp [FileReader.inFlight, FileReader.giveUp]
      · intro _ opened
        exact absurd rfl (opened rfl)
  | seekOk =>
      refine { left with inUse, elsewhere, waiting := ?_, ahead := ?_ }
      · simp [FileReader.inFlight]
      · simp

theorem step {system after : System} {action : Action}
    (left : Left inode generation bytes old system) (allowed : Renaming system action)
    (step : system.step action = some after) : Left inode generation bytes old after := by
  have inUse := descriptor_step left.inUse step
  rcases System.step_cases step with
    ⟨event, disk, rfl, applied, rfl⟩ | ⟨move, reader, rfl, moves, rfl⟩ |
      ⟨line, rest, rfl, _, rfl⟩ | ⟨rfl, rfl⟩
  · exact left.disk allowed applied inUse
  · exact left.tail moves inUse
  · exact { left with }
  · exact { left with }

end Left

/-- Opening another file than the one it follows, the reader drops the rest of
the old one. -/
theorem left_of_openOk {inode generation base : Nat} {system after : System}
    (current : Current inode generation base [] system.disk system.reader)
    (replaced : system.disk.path ≠ some inode)
    (step : system.step (.tail .openOk) = some after) :
    Left inode generation (system.disk.contents generation)
      (lines Cell.isNewline (part (system.disk.cells generation) base system.reader.offset))
      after := by
  have inUse : ∀ file ∈ after.reader.file, file.inode < after.disk.inodes := by
    apply descriptor_step _ step
    intro file isOpen
    rw [current.descriptor file isOpen]
    exact current.used
  rcases Option.map_eq_some_iff.mp step with ⟨reader, moved, rfl⟩
  cases moves_of_tailFile moved with
  | @openOk other atReopen named =>
      have delivered := current.delivered
      simp only [FileReader.inFlight, atReopen, List.append_nil, List.nil_append] at delivered
      constructor
      case used => exact current.used
      case holds => exact current.holds
      case unnamed => exact replaced
      case inUse => exact inUse
      case elsewhere =>
        rintro file ⟨⟩ same
        exact replaced (same ▸ named)
      case emitted => rw [delivered, linesFrom_lines_part]
      case waiting => simp [FileReader.inFlight]
      case ahead =>
        intro reads
        contradiction
      case contents => rfl

/-- Follow a file while it is renamed and another one is created at the path, up
to the moment at which the reader opens the other one.  From then on the lines
of the old file are all emitted exactly when the old file had no complete line
left behind `offset` at that moment. -/
theorem emittedFrom_iff_no_line_left {disk : Disk} {opens seeks : Bool}
    {reader : FileReader} {before after : List Action} {inode : Nat}
    {system opened final : System}
    (started : FileReader.start disk opens seeks = some reader)
    (named : disk.path = some inode)
    (follows : Meets System.step (Follows inode) ⟨disk, reader⟩ before)
    (ranBefore : run System.step ⟨disk, reader⟩ before = some system)
    (replaced : system.disk.path ≠ some inode)
    (switches : system.step (.tail .openOk) = some opened)
    (allowed : Meets System.step Renaming opened after)
    (ranAfter : run System.step opened after = some final) :
    EmittedFrom (disk.holds inode) reader.offset final ↔
      lines isNewline ((system.disk.contents (disk.holds inode)).drop
        system.reader.offset) = [] := by
  rcases current_start started with ⟨initial, namedInitial, _, initially⟩
  cases named.symm.trans namedInitial
  have current : Current inode (disk.holds inode) reader.offset [] system.disk
      system.reader := by
    have preserved : ∀ ⦃state : System⦄ ⦃action : Action⦄ ⦃next : System⦄,
        Current inode (disk.holds inode) reader.offset [] state.disk state.reader →
        Follows inode state action → state.step action = some next →
        Current inode (disk.holds inode) reader.offset [] next.disk next.reader := by
      intro state action next current follows step
      apply current.step _ follows.2 step
      rintro rfl
      exact follows.1
    exact invariant_of_run preserved initially follows ranBefore
  have left := invariant_of_run (fun _ _ _ holds meets step => Left.step holds meets step)
    (left_of_openOk current replaced switches) allowed ranAfter
  have split := lines_drop current.base_le (by simpa using current.offset_le)
    (closed_contents current.closed)
  rw [EmittedFrom, left.emitted, left.contents, text_lines_part, split]
  constructor
  · intro all
    exact List.self_eq_append_right.mp all
  · intro none
    rw [none, List.append_nil]

/-- A rotation right after the reader caught up with the old file. -/
theorem emittedFrom_iff_no_line_left_caughtUp :
    ∃ reader system opened,
      FileReader.start (Disk.single []) true true = some reader ∧
      run System.step ⟨Disk.single [], reader⟩
        [.disk (.append 0 [97, 10]), .tail .select, .tail (.fill 4096), .tail .line,
          .tail .put, .disk .rename, .disk .create, .tail .select, .tail .fail] =
        some system ∧
      system.step (.tail .openOk) = some opened ∧
      EmittedFrom 0 reader.offset opened := by
  refine ⟨_, _, _, rfl, rfl, rfl, ?_⟩
  exact (@emittedFrom_iff_no_line_left (Disk.single []) true true _
    [.disk (.append 0 [97, 10]), .tail .select, .tail (.fill 4096), .tail .line,
      .tail .put, .disk .rename, .disk .create, .tail .select, .tail .fail] []
    0 _ _ _ rfl rfl (by decide) rfl (by decide) rfl (by decide) rfl).mpr (by decide)

/-- A line is written after the reader hit the end of the file and before the
file is renamed.  The reader opens and reads the new file, and the line is
lost. -/
theorem rotation_loses_line :
    ∃ reader final,
      FileReader.start (Disk.single []) true true = some reader ∧
      run System.step ⟨Disk.single [], reader⟩
        [.tail .select, .tail .fail, .disk (.append 0 [97, 10]), .disk .rename,
          .disk .create, .disk (.append 1 [98, 10]), .tail .openOk, .tail .statOk,
          .tail .seekOk, .tail .select, .tail (.fill 4096), .tail .line, .tail .put] =
        some final ∧
      Meets System.step Renaming ⟨Disk.single [], reader⟩
        [.tail .select, .tail .fail, .disk (.append 0 [97, 10]), .disk .rename,
          .disk .create, .disk (.append 1 [98, 10]), .tail .openOk, .tail .statOk,
          .tail .seekOk, .tail .select, .tail (.fill 4096), .tail .line, .tail .put] ∧
      final.reader.emitted.map Line.text = [[98]] ∧
      ¬ EmittedFrom 0 reader.offset final := by
  refine ⟨_, _, rfl, rfl, by decide, rfl, ?_⟩
  decide

end Tailpost.Reader
