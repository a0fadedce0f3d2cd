import Tailpost.Container.LogLineReader
import Tailpost.Transition.Core

/-!
# The container reader

`tailContainer` opens a stream of the pod's log with `TailLines` 10 and `Follow`,
reads it line by line through `LogLineReader`, and puts every line on the
`Lines` channel.  When the stream ends or fails it looks the pod up, under the
context of the stream, and starts over.

The endpoint is assumed to return the last ten lines logged at connection time
and every later line, in pieces of any size, until the stream ends.  Every byte
is stamped with the line of the log it belongs to, so that a line put on the
channel can be told from another one with the same text.

Two components of the reader are not in the source: `emitted` records what was
ever put on the channel, each line with the newline that ended it, and `first`
is the length of the log at the first connection.
-/

namespace Tailpost.Container

open Tailpost.Text
open Tailpost.Transition

/-! ## The log of the container -/

/-- A text without a newline. -/
def Clean (text : List UInt8) : Prop :=
  ∀ byte ∈ text, isNewline byte = false

-- over the bytes of the text, not over all bytes there are
instance (text : List UInt8) : Decidable (Clean text) :=
  List.decidableBAll (isNewline · = false) text

/-- The lines a container has logged, without their newlines. -/
structure Log where
  lines : List (List UInt8)
  clean : ∀ text ∈ lines, Clean text

/-- A byte and the line of the log it belongs to. -/
structure Stamp where
  line : Nat
  byte : UInt8
  deriving DecidableEq

/-- Test a stamped byte for the line terminator. -/
def Stamp.isNewline (stamp : Stamp) : Bool :=
  Text.isNewline stamp.byte

namespace Log

/-- A new log. -/
def empty : Log where
  lines := []
  clean := by simp

/-- The container logs a line. -/
def append (log : Log) (text : List UInt8) (clean : Clean text) : Log where
  lines := log.lines ++ [text]
  clean := by
    intro line member
    rcases List.mem_append.mp member with old | new
    · exact log.clean line old
    · rw [List.mem_singleton.mp new]
      exact clean

/-- How many lines were logged. -/
def length (log : Log) : Nat :=
  log.lines.length

/-- The bytes of one line, with its newline. -/
def line (log : Log) (index : Nat) : List Stamp :=
  (log.lines.getD index []).map (Stamp.mk index) ++ [⟨index, newline⟩]

/-- The lines logged from one on. -/
def linesFrom (log : Log) (start : Nat) : List (List Stamp) :=
  (List.range' start (log.length - start)).map log.line

/-- The bytes of the log from one of its lines on. -/
def bytes (log : Log) (start : Nat) : List Stamp :=
  (log.linesFrom start).flatten

end Log

/-! ## Log streams -/

/-- `TailLines` of the log request. -/
def tailLines : Nat :=
  10

/-- An open log stream. -/
structure Stream where
  /-- The line it starts with. -/
  start : Nat
  /-- How many bytes were read from it. -/
  pos : Nat
  /-- Whether a `Read` has returned an error. -/
  ended : Bool
  deriving DecidableEq

namespace Stream

/-- The stream of a connection made now. -/
def connect (log : Log) : Stream :=
  ⟨log.length - tailLines, 0, false⟩

/-- What the stream has not delivered yet. -/
def unread (stream : Stream) (log : Log) : List Stamp :=
  (log.bytes stream.start).drop stream.pos

/-- The bytes of a `Read` that delivers at most `count` of them. -/
def chunk (stream : Stream) (log : Log) (count : Nat) : List Stamp :=
  (stream.unread log).take (min count LogLineReader.chunkSize)

/-- A stream that has ended delivers nothing more. -/
def Allows (stream : Stream) (count : Nat) (error : Option ReadError) : Prop :=
  stream.ended = true → count = 0 ∧ error = some .eof

instance (stream : Stream) (count : Nat) (error : Option ReadError) :
    Decidable (stream.Allows count error) :=
  inferInstanceAs (Decidable (_ → _))

/-- The stream behind a `Read`. -/
def advance (stream : Stream) (log : Log) (count : Nat) (error : Option ReadError) : Stream :=
  ⟨stream.start, stream.pos + (stream.chunk log count).length,
    stream.ended || error.isSome⟩

/-- What a `Read` delivers is no longer unread. -/
theorem chunk_append_unread (stream : Stream) (log : Log) (count : Nat)
    (error : Option ReadError) :
    stream.chunk log count ++ (stream.advance log count error).unread log =
      stream.unread log := by
  simp only [unread, chunk, advance, ← List.drop_drop]
  exact Text.take_append_drop_length _ _

end Stream

/-! ## The reader -/

/-- The capacity of the `Lines` channel. -/
def linesCapacity : Nat :=
  1000

/-- Where the tail goroutine is. -/
inductive Pc
  /-- `Start` has not been called. -/
  | idle
  /-- At the `select` at the top of the loop. -/
  | loop
  /-- Before `req.Stream(ctx)`. -/
  | connect
  /-- In `ReadLine`. -/
  | readLine
  /-- At the `select` that sends a line. -/
  | send (line : List Stamp)
  /-- Before the pod lookup. -/
  | lookup
  /-- `stoppedCh` is closed. -/
  | returned
  deriving DecidableEq

/-- The reader with its stream and the position of its goroutine. -/
structure ContainerReader where
  stream : Stream
  /-- The buffer of the `LogLineReader`. -/
  buffer : List Stamp
  /-- Whether the 24-hour context of this round has expired. -/
  expired : Bool
  lines : List (List UInt8)
  stopCh : Bool
  isRunning : Bool
  pc : Pc
  emitted : List (List Stamp)
  first : Option Nat

/-- What the calls of the goroutine return. -/
inductive TailStep
  | select
  | streamFail
  | streamOk
  /-- The buffer holds a complete line. -/
  | line
  /-- `Read` returns at most `count` bytes, and perhaps an error. -/
  | read (count : Nat) (error : Option ReadError)
  | put
  /-- The `select` that sends a line receives from `stopCh`. -/
  | abort
  /-- The API server answers the pod lookup, or fails to. -/
  | lookup (fails : Bool)
  deriving DecidableEq

/-- What goes on the channel: the bytes in front of the newline. -/
def contents (line : List Stamp) : List UInt8 :=
  (line.takeWhile fun stamp => !stamp.isNewline).map Stamp.byte

namespace ContainerReader

/-- The reader `NewContainerReader` returns. -/
def newContainerReader : ContainerReader where
  stream := ⟨0, 0, false⟩
  buffer := []
  expired := false
  lines := []
  stopCh := false
  isRunning := false
  pc := .idle
  emitted := []
  first := none

/-- `Start` starts the tail goroutine. -/
def start (reader : ContainerReader) : Except String ContainerReader :=
  if reader.isRunning then
    .error "container reader already started"
  else
    .ok { reader with isRunning := true, pc := .loop }

/-- The part of `Stop` before it waits for `stoppedCh`. -/
def stop (reader : ContainerReader) : ContainerReader :=
  if reader.isRunning then { reader with stopCh := true } else reader

/-- One step of `tailContainer`, with `ReadLine` inlined. -/
def tailContainer (log : Log) (podExists : Bool) (reader : ContainerReader)
    (action : TailStep) : Option ContainerReader :=
  match reader.pc, action with
  | .loop, .select =>
      if reader.stopCh then
        some { reader with pc := .returned }
      else
        some { reader with expired := false, pc := .connect }
  | .connect, .streamFail => some { reader with pc := .loop }
  | .connect, .streamOk =>
      -- a request under an expired context fails
      if reader.expired then
        none
      else
        some { reader with
          stream := .connect log
          buffer := []
          pc := .readLine
          first := reader.first.or (some log.length) }
  | .readLine, .line =>
      (cutLine Stamp.isNewline reader.buffer).map fun (line, rest) =>
        { reader with buffer := rest, pc := .send line }
  | .readLine, .read count error =>
      -- `Read` is called when the buffer holds no complete line
      if (cutLine Stamp.isNewline reader.buffer).isNone ∧ reader.stream.Allows count error then
        let stream := reader.stream.advance log count error
        match LogLineReader.receive reader.buffer (reader.stream.chunk log count) error with
        | (.line line, buffer) => some { reader with stream, buffer, pc := .send line }
        | (.failed _, buffer) => some { reader with stream, buffer, pc := .lookup }
        | (.more, buffer) => some { reader with stream, buffer }
      else
        none
  | .send line, .put =>
      if reader.lines.length < linesCapacity then
        some { reader with
          lines := reader.lines ++ [contents line]
          pc := .readLine
          emitted := reader.emitted ++ [line] }
      else
        none
  | .send _, .abort => if reader.stopCh then some { reader with pc := .returned } else none
  | .lookup, .lookup fails =>
      if fails || reader.expired || !podExists then
        some { reader with pc := .returned }
      else
        some { reader with pc := .loop }
  | _, _ => none

end ContainerReader

/-- Who moves next. -/
inductive Action
  /-- The container logs a line. -/
  | log (text : List UInt8)
  | tail (action : TailStep)
  /-- The consumer receives from the `Lines` channel. -/
  | receive
  /-- The context of this round expires. -/
  | expire
  | deletePod
  | stop
  deriving DecidableEq

/-- The reader, the pod, and what the consumer has received. -/
structure System where
  log : Log
  podExists : Bool
  received : List (List UInt8)
  reader : ContainerReader

namespace System

/-- A reader next to a pod that may have logged something already. -/
def create (log : Log) (reader : ContainerReader) : System :=
  ⟨log, true, [], reader⟩

/-- One step of the reader or its environment. -/
def step (system : System) : Action → Option System
  | .log text =>
      if clean : Clean text then
        some { system with log := system.log.append text clean }
      else
        none
  | .tail action =>
      (system.reader.tailContainer system.log system.podExists action).map fun reader =>
        { system with reader }
  | .receive =>
      match system.reader.lines with
      | [] => none
      | line :: rest =>
          some { system with
            received := system.received ++ [line]
            reader := { system.reader with lines := rest } }
  | .expire => some { system with reader := { system.reader with expired := true } }
  | .deletePod => some { system with podExists := false }
  | .stop => some { system with reader := system.reader.stop }

end System

/-! ## What one step can do -/

/-- The enabled steps of the tail goroutine. -/
inductive Moves (log : Log) (podExists : Bool) (reader : ContainerReader) :
    TailStep → ContainerReader → Prop
  | exit : reader.pc = .loop → reader.stopCh = true →
      Moves log podExists reader .select { reader with pc := .returned }
  | round : reader.pc = .loop → reader.stopCh = false →
      Moves log podExists reader .select { reader with expired := false, pc := .connect }
  | streamFail : reader.pc = .connect →
      Moves log podExists reader .streamFail { reader with pc := .loop }
  | streamOk : reader.pc = .connect →
      Moves log podExists reader .streamOk { reader with
        stream := .connect log
        buffer := []
        pc := .readLine
        first := reader.first.or (some log.length) }
  | line {line rest : List Stamp} : reader.pc = .readLine →
      cutLine Stamp.isNewline reader.buffer = some (line, rest) →
      Moves log podExists reader .line { reader with buffer := rest, pc := .send line }
  | more {count : Nat} {error : Option ReadError} : reader.pc = .readLine →
      reader.stream.ended = false →
      Moves log podExists reader (.read count error) { reader with
        stream := reader.stream.advance log count error
        buffer := reader.buffer ++ reader.stream.chunk log count
        pc := .readLine }
  | fragment {count : Nat} : reader.pc = .readLine →
      reader.stream.chunk log count = [] → reader.buffer ≠ [] →
      Moves log podExists reader (.read count (some .eof)) { reader with
        stream := reader.stream.advance log count (some .eof)
        buffer := []
        pc := .send reader.buffer }
  | failed {count : Nat} {error : Option ReadError} {buffer : List Stamp} :
      reader.pc = .readLine →
      Moves log podExists reader (.read count error) { reader with
        stream := reader.stream.advance log count error, buffer, pc := .lookup }
  | put {line : List Stamp} : reader.pc = .send line →
      Moves log podExists reader .put { reader with
        lines := reader.lines ++ [contents line]
        pc := .readLine
        emitted := reader.emitted ++ [line] }
  | abort {line : List Stamp} : reader.pc = .send line → reader.stopCh = true →
      Moves log podExists reader .abort { reader with pc := .returned }
  | gone {fails : Bool} : reader.pc = .lookup →
      fails = true ∨ reader.expired = true ∨ podExists = false →
      Moves log podExists reader (.lookup fails) { reader with pc := .returned }
  | found : reader.pc = .lookup → reader.expired = false → podExists = true →
      Moves log podExists reader (.lookup false) { reader with pc := .loop }

/-- The steps of `ReadLine` around a `Read`. -/
theorem moves_of_read {log : Log} {podExists : Bool} {reader after : ContainerReader}
    {count : Nat} {error : Option ReadError} (position : reader.pc = .readLine)
    (step : reader.tailContainer log podExists (.read count error) = some after) :
    Moves log podExists reader (.read count error) after := by
  simp only [ContainerReader.tailContainer, position] at step
  split at step
  next enabled =>
    split at step
    next line buffer returned =>
      cases step
      rcases LogLineReader.receive_eq_line_iff.mp returned with
        ⟨rfl, empty, nonempty, rfl, rfl⟩
      exact .fragment position empty nonempty
    next error buffer returned =>
      cases step
      exact .failed position
    next buffer returned =>
      cases step
      rcases LogLineReader.receive_eq_more_iff.mp returned with ⟨reason, rfl⟩
      -- a stream that has ended returns no bytes and `io.EOF`
      have live : reader.stream.ended = false := by
        cases ended : reader.stream.ended with
        | false => rfl
        | true =>
            rcases enabled.2 ended with ⟨rfl, rfl⟩
            simp [Stream.chunk] at reason
      exact .more position live
  next => contradiction

/-- Every step of the executable goroutine is one of the enabled steps. -/
theorem moves_of_tailContainer {log : Log} {podExists : Bool}
    {reader after : ContainerReader} {action : TailStep}
    (step : reader.tailContainer log podExists action = some after) :
    Moves log podExists reader action after := by
  have taken := step
  unfold ContainerReader.tailContainer at step
  split at step
  case h_1 position =>
    split at step
    next stopped =>
      cases step
      exact .exit position stopped
    next running =>
      cases step
      exact .round position (by simpa using running)
  case h_2 position =>
    cases step
    exact .streamFail position
  case h_3 position =>
    split at step
    next => contradiction
    next =>
      cases step
      exact .streamOk position
  case h_4 position =>
    rcases Option.map_eq_some_iff.mp step with ⟨⟨line, rest⟩, found, rfl⟩
    exact .line position found
  case h_5 position => exact moves_of_read position taken
  case h_6 line position =>
    split at step
    next =>
      cases step
      exact .put position
    next => contradiction
  case h_7 line position =>
    split at step
    next stopped =>
      cases step
      exact .abort position stopped
    next => contradiction
  case h_8 fails position =>
    split at step
    next failed =>
      cases step
      exact .gone position (by simpa [or_assoc] using failed)
    next succeeded =>
      cases step
      simp only [Bool.or_eq_true, not_or, Bool.not_eq_true, Bool.not_eq_false'] at succeeded
      rcases succeeded with ⟨⟨rfl, live⟩, present⟩
      exact .found position live present
  case h_9 => contradiction

/-- What one step of the system can do. -/
theorem System.step_cases {system after : System} {action : Action}
    (step : system.step action = some after) :
    (∃ text clean, action = .log text ∧
        after = { system with log := system.log.append text clean }) ∨
      (∃ move reader, action = .tail move ∧
        Moves system.log system.podExists system.reader move reader ∧
        after = { system with reader }) ∨
      (∃ line rest, action = .receive ∧ system.reader.lines = line :: rest ∧
        after = { system with
          received := system.received ++ [line]
          reader := { system.reader with lines := rest } }) ∨
      (action = .expire ∧
        after = { system with reader := { system.reader with expired := true } }) ∨
      (action = .deletePod ∧ after = { system with podExists := false }) ∨
      (action = .stop ∧ after = { system with reader := system.reader.stop }) := by
  cases action with
  | log text =>
      simp only [System.step] at step
      split at step
      next clean =>
        cases step
        exact Or.inl ⟨text, clean, rfl, rfl⟩
      next => contradiction
  | tail move =>
      rcases Option.map_eq_some_iff.mp step with ⟨reader, moved, rfl⟩
      exact Or.inr (Or.inl ⟨move, reader, rfl, moves_of_tailContainer moved, rfl⟩)
  | receive =>
      simp only [System.step] at step
      split at step
      next => contradiction
      next line rest pending =>
        cases step
        exact Or.inr (Or.inr (Or.inl ⟨line, rest, rfl, pending, rfl⟩))
  | expire =>
      cases step
      exact Or.inr (Or.inr (Or.inr (Or.inl ⟨rfl, rfl⟩)))
  | deletePod =>
      cases step
      exact Or.inr (Or.inr (Or.inr (Or.inr (Or.inl ⟨rfl, rfl⟩))))
  | stop =>
      cases step
      exact Or.inr (Or.inr (Or.inr (Or.inr (Or.inr ⟨rfl, rfl⟩))))

end Tailpost.Container
