import Tailpost.Reader.Disk
import Tailpost.Transition.Core

/-!
# The file reader

`tailFile` runs in a goroutine of its own.  Its loop polls `stopCh`, calls
`readLine`, and either puts the line on the `Lines` channel or, after an error,
calls `reopen`.  The mutex of the source only separates `Start` from this
goroutine, so the model keeps the goroutine's program counter instead; every
system call is one step, and other processes may touch the files between any
two of them.

`bufio.Reader` is a list of bytes that were read ahead.  A `Read` that returns
bytes extends it; `ReadString` consumes it up to and including the first
newline.  When a `Read` fails while there is no newline in it, `ReadString`
hands its partial data back together with the error.

Two components are not in the source.  `emitted` records what was ever put on
the channel, and `source` is the generation in which `offset` counts.
-/

namespace Tailpost.Reader

open Tailpost.Text
open Tailpost.Transition

/-- A byte together with the generation it was read from. -/
structure Cell where
  generation : Nat
  byte : UInt8
  deriving DecidableEq

/-- Test a stamped byte for the line terminator. -/
def Cell.isNewline (cell : Cell) : Bool :=
  Text.isNewline cell.byte

/-- Text without its trailing newline. -/
abbrev Line :=
  List Cell

/-- The bytes of a line. -/
def Line.text (line : Line) : List UInt8 :=
  line.map Cell.byte

/-- All bytes of a generation, stamped with it. -/
def Disk.cells (disk : Disk) (generation : Nat) : List Cell :=
  (disk.contents generation).map (Cell.mk generation)

/-- At most `count` bytes of an open file from position `pos` on. -/
def Disk.read (disk : Disk) (inode pos count : Nat) : List Cell :=
  ((disk.cells (disk.holds inode)).drop pos).take count

/-- An open descriptor. -/
structure File where
  inode : Nat
  pos : Nat
  deriving DecidableEq

/-- Where the tail goroutine is. -/
inductive Pc
  /-- At the `select` of the loop. -/
  | loop
  /-- In `ReadString`, called by `readLine`. -/
  | readString
  /-- At `r.lines <- line`. -/
  | send (line : Line)
  /-- In `reopen`, before `os.Open`. -/
  | reopen
  /-- In `reopen`, before `Stat`. -/
  | stat
  /-- In `reopen`, before `Seek`. -/
  | seek
  /-- Returned; `stoppedCh` is closed. -/
  | stopped
  deriving DecidableEq

/-- The capacity of the `Lines` channel. -/
def linesCapacity : Nat :=
  1000

/-- The reader with its buffer and the position of its goroutine. -/
structure FileReader where
  file : Option File
  /-- Bytes that `bufio.Reader` holds and `ReadString` has not returned. -/
  buffer : List Cell
  offset : Nat
  lines : List Line
  /-- Whether `stopCh` is closed. -/
  stopCh : Bool
  pc : Pc
  emitted : List Line
  source : Nat
  deriving DecidableEq

/-- `ReadString('\n')` on buffered bytes: the bytes up to and including the
first newline, and the rest. -/
def readString (buffer : List Cell) : Option (Line × List Cell) :=
  cutLine Cell.isNewline buffer

/-- Drop a trailing newline. -/
def trimNewline (line : Line) : Line :=
  match line.getLast? with
  | some last => if last.isNewline then line.dropLast else line
  | none => line

namespace FileReader

/-- The reader that `NewFileReader` returns. -/
def newFileReader : FileReader where
  file := none
  buffer := []
  offset := 0
  lines := []
  stopCh := false
  pc := .loop
  emitted := []
  source := 0

/-- `Start`: open the file, seek to its end, and start the tail goroutine.  The
two flags say whether the system calls succeed. -/
def start (disk : Disk) (opens seeks : Bool) : Option FileReader :=
  match disk.path with
  | none => none
  | some inode =>
      if opens && seeks then
        some { newFileReader with
          file := some ⟨inode, disk.size inode⟩
          offset := disk.size inode
          source := disk.holds inode }
      else
        none

/-- A reader that started holds an open file at its end. -/
theorem start_eq_some {disk : Disk} {opens seeks : Bool} {reader : FileReader}
    (started : start disk opens seeks = some reader) :
    ∃ inode, disk.path = some inode ∧
      reader = { newFileReader with
        file := some ⟨inode, disk.size inode⟩
        offset := disk.size inode
        source := disk.holds inode } := by
  unfold start at started
  split at started
  next => contradiction
  next inode named =>
    split at started
    next =>
      cases started
      exact ⟨inode, named, rfl⟩
    next => contradiction

/-- What `readLine` and the loop do with a line that `ReadString` returned. -/
def accept (reader : FileReader) (line : Line) (rest : List Cell) : FileReader :=
  let text := trimNewline line
  { reader with
    buffer := rest
    offset := reader.offset + line.length
    pc := if text = [] then .loop else .send text }

/-- `reopen` gives up until the loop calls it again. -/
def giveUp (reader : FileReader) : FileReader :=
  { reader with file := none, pc := .loop }

/-- The size check of `reopen` on a file that `Stat` succeeded on. -/
def checkSize (reader : FileReader) (size generation : Nat) : FileReader :=
  { reader with
    offset := if size < reader.offset then 0 else reader.offset
    pc := .seek
    source := generation }

/-- A line that left `readLine` and is not on the channel yet. -/
def inFlight (reader : FileReader) : List Line :=
  match reader.pc with
  | .send line => [line]
  | _ => []

/-- An accepted line is in flight unless it is empty. -/
theorem inFlight_accept (reader : FileReader) (line : Line) (rest : List Cell) :
    (reader.accept line rest).inFlight =
      if trimNewline line = [] then [] else [trimNewline line] := by
  by_cases empty : trimNewline line = [] <;> simp [inFlight, accept, empty]

end FileReader

/-- Steps of the tail goroutine, by what the system calls return. -/
inductive TailStep
  | select
  /-- A `Read` for `count` bytes returns some. -/
  | fill (count : Nat)
  /-- A `Read` returns an error or end of file. -/
  | fail
  | line
  | put
  | openFail
  | openOk
  | statFail
  | statOk
  | seekFail
  | seekOk
  deriving DecidableEq

/-- One step of `tailFile`, with `readLine` and `reopen` inlined. -/
def tailFile (disk : Disk) (reader : FileReader) (action : TailStep) :
    Option FileReader :=
  match reader.pc, action with
  | .loop, .select =>
      if reader.stopCh then
        some { reader with file := none, pc := .stopped }
      else if reader.file.isNone then
        some { reader with pc := .reopen }
      else
        some { reader with pc := .readString }
  | .readString, .fill count =>
      reader.file.bind fun file =>
        let bytes := disk.read file.inode file.pos count
        if (readString reader.buffer).isNone ∧ bytes ≠ [] then
          some { reader with
            file := some ⟨file.inode, file.pos + bytes.length⟩
            buffer := reader.buffer ++ bytes }
        else
          none
  | .readString, .fail =>
      if (readString reader.buffer).isNone then
        some { reader with buffer := [], pc := .reopen }
      else
        none
  | .readString, .line =>
      (readString reader.buffer).map fun (line, rest) => reader.accept line rest
  | .send line, .put =>
      if reader.lines.length < linesCapacity then
        some { reader with
          lines := reader.lines ++ [line]
          pc := .loop
          emitted := reader.emitted ++ [line] }
      else
        none
  | .reopen, .openFail => some reader.giveUp
  | .reopen, .openOk =>
      disk.path.map fun inode =>
        { reader with file := some ⟨inode, 0⟩, pc := .stat }
  | .stat, .statFail => some reader.giveUp
  | .stat, .statOk =>
      reader.file.map fun file =>
        reader.checkSize (disk.size file.inode) (disk.holds file.inode)
  | .seek, .seekFail => some reader.giveUp
  | .seek, .seekOk =>
      reader.file.map fun file =>
        { reader with
          file := some ⟨file.inode, reader.offset⟩
          buffer := []
          pc := .loop }
  | _, _ => none

/-! ## What one step of the goroutine can do -/

/-- The enabled steps of `tailFile`, one constructor for each outcome of a
system call. -/
inductive Moves (disk : Disk) (reader : FileReader) : TailStep → FileReader → Prop
  | exit : reader.pc = .loop → reader.stopCh = true →
      Moves disk reader .select { reader with file := none, pc := .stopped }
  | retry : reader.pc = .loop → reader.file = none →
      Moves disk reader .select { reader with pc := .reopen }
  | poll {file : File} : reader.pc = .loop → reader.file = some file →
      Moves disk reader .select { reader with pc := .readString }
  | fill {file : File} {count : Nat} : reader.pc = .readString →
      reader.file = some file → readString reader.buffer = none →
      disk.read file.inode file.pos count ≠ [] →
      Moves disk reader (.fill count)
        { reader with
          file := some ⟨file.inode,
            file.pos + (disk.read file.inode file.pos count).length⟩
          buffer := reader.buffer ++ disk.read file.inode file.pos count }
  | fail : reader.pc = .readString → readString reader.buffer = none →
      Moves disk reader .fail { reader with buffer := [], pc := .reopen }
  | line {line : Line} {rest : List Cell} : reader.pc = .readString →
      readString reader.buffer = some (line, rest) →
      Moves disk reader .line (reader.accept line rest)
  | put {line : Line} : reader.pc = .send line → reader.lines.length < linesCapacity →
      Moves disk reader .put
        { reader with
          lines := reader.lines ++ [line]
          pc := .loop
          emitted := reader.emitted ++ [line] }
  | openFail : reader.pc = .reopen → Moves disk reader .openFail reader.giveUp
  | openOk {inode : Nat} : reader.pc = .reopen → disk.path = some inode →
      Moves disk reader .openOk { reader with file := some ⟨inode, 0⟩, pc := .stat }
  | statFail : reader.pc = .stat → Moves disk reader .statFail reader.giveUp
  | statOk {file : File} : reader.pc = .stat → reader.file = some file →
      Moves disk reader .statOk
        (reader.checkSize (disk.size file.inode) (disk.holds file.inode))
  | seekFail : reader.pc = .seek → Moves disk reader .seekFail reader.giveUp
  | seekOk {file : File} : reader.pc = .seek → reader.file = some file →
      Moves disk reader .seekOk
        { reader with
          file := some ⟨file.inode, reader.offset⟩
          buffer := []
          pc := .loop }

/-- Every step of the executable goroutine is one of the enabled steps. -/
theorem moves_of_tailFile {disk : Disk} {reader after : FileReader}
    {action : TailStep} (step : tailFile disk reader action = some after) :
    Moves disk reader action after := by
  unfold tailFile at step
  split at step
  case h_1 atLoop =>
    split at step
    next stopped =>
      cases step
      exact .exit atLoop stopped
    next =>
      split at step
      next closed =>
        cases step
        exact .retry atLoop (Option.isNone_iff_eq_none.mp closed)
      next opened =>
        cases step
        obtain ⟨file, isOpen⟩ : ∃ file, reader.file = some file :=
          Option.ne_none_iff_exists'.mp (by simpa using opened)
        exact .poll atLoop isOpen
  case h_2 count atRead =>
    obtain ⟨file, isOpen, filled⟩ := Option.bind_eq_some_iff.mp step
    dsimp only at filled
    split at filled
    next enabled =>
      cases filled
      exact .fill atRead isOpen (Option.isNone_iff_eq_none.mp enabled.1) enabled.2
    next => contradiction
  case h_3 atRead =>
    split at step
    next unterminated =>
      cases step
      exact .fail atRead (Option.isNone_iff_eq_none.mp unterminated)
    next => contradiction
  case h_4 atRead =>
    obtain ⟨⟨line, rest⟩, found, rfl⟩ := Option.map_eq_some_iff.mp step
    exact .line atRead found
  case h_5 line atSend =>
    split at step
    next room =>
      cases step
      exact .put atSend room
    next => contradiction
  case h_6 atReopen =>
    cases step
    exact .openFail atReopen
  case h_7 atReopen =>
    obtain ⟨inode, named, rfl⟩ := Option.map_eq_some_iff.mp step
    exact .openOk atReopen named
  case h_8 atStat =>
    cases step
    exact .statFail atStat
  case h_9 atStat =>
    obtain ⟨file, isOpen, rfl⟩ := Option.map_eq_some_iff.mp step
    exact .statOk atStat isOpen
  case h_10 atSeek =>
    cases step
    exact .seekFail atSeek
  case h_11 atSeek =>
    obtain ⟨file, isOpen, rfl⟩ := Option.map_eq_some_iff.mp step
    exact .seekOk atSeek isOpen
  case h_12 => contradiction

/-! ## The reader among other processes -/

/-- Who moves next. -/
inductive Action
  | disk (event : DiskEvent)
  | tail (action : TailStep)
  /-- The consumer receives from the `Lines` channel. -/
  | receive
  /-- `Stop` closes `stopCh`. -/
  | stop
  deriving DecidableEq

/-- The files are only appended to. -/
def Action.AppendOnly : Action → Prop
  | .disk (.append _ _) => True
  | .disk _ => False
  | _ => True

/-- The reader and the files it reads. -/
structure System where
  disk : Disk
  reader : FileReader

/-- One step of the reader, its consumer, or the processes that write the
files. -/
def System.step (system : System) : Action → Option System
  | .disk event => (system.disk.apply event).map fun disk => { system with disk }
  | .tail action =>
      (tailFile system.disk system.reader action).map fun reader =>
        { system with reader }
  | .receive =>
      match system.reader.lines with
      | [] => none
      | _ :: rest => some { system with reader := { system.reader with lines := rest } }
  | .stop =>
      if system.reader.stopCh then
        none
      else
        some { system with reader := { system.reader with stopCh := true } }

/-- What one step of the system can do. -/
theorem System.step_cases {system after : System} {action : Action}
    (step : system.step action = some after) :
    (∃ event disk, action = .disk event ∧ system.disk.apply event = some disk ∧
        after = { system with disk }) ∨
      (∃ move reader, action = .tail move ∧
        Moves system.disk system.reader move reader ∧ after = { system with reader }) ∨
      (∃ line rest, action = .receive ∧ system.reader.lines = line :: rest ∧
        after = { system with reader := { system.reader with lines := rest } }) ∨
      (action = .stop ∧
        after = { system with reader := { system.reader with stopCh := true } }) := by
  cases action with
  | disk event =>
      rcases Option.map_eq_some_iff.mp step with ⟨disk, applied, rfl⟩
      exact Or.inl ⟨event, disk, rfl, applied, rfl⟩
  | tail move =>
      rcases Option.map_eq_some_iff.mp step with ⟨reader, moved, rfl⟩
      exact Or.inr (Or.inl ⟨move, reader, rfl, moves_of_tailFile moved, rfl⟩)
  | receive =>
      simp only [System.step] at step
      split at step
      next => contradiction
      next line rest available =>
        cases step
        exact Or.inr (Or.inr (Or.inl ⟨line, rest, rfl, available, rfl⟩))
  | stop =>
      simp only [System.step] at step
      split at step
      next => contradiction
      next =>
        cases step
        exact Or.inr (Or.inr (Or.inr ⟨rfl, rfl⟩))

end Tailpost.Reader
