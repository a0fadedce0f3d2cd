import Tailpost.Container.ContainerReader

/-!
# Reconnecting to the log

Every connection starts ten lines before the end of the log, wherever the last
one was left.  The lines logged after the first connection are put on the
channel once and in order as long as each new window starts at the first of
them that has not been put there, and no stream ends inside one of them.  The
argument follows the line the stream delivers next: what is buffered and what
is unread are the log from that line on.
-/

namespace Tailpost.Container

open Tailpost.Text
open Tailpost.Transition

/-! ## The log as bytes -/

namespace Log

variable {log : Log} {text : List UInt8} {clean : Clean text}

@[simp]
theorem length_append : (log.append text clean).length = log.length + 1 := by
  simp [append, length]

theorem line_append {index : Nat} (inside : index < log.length) :
    (log.append text clean).line index = log.line index := by
  unfold length at inside
  simp [line, append, List.getD_eq_getElem?_getD, List.getElem?_append_left inside]

theorem linesFrom_of_length_le {start : Nat} (behind : log.length ≤ start) :
    log.linesFrom start = [] := by
  simp [linesFrom, Nat.sub_eq_zero_of_le behind]

theorem linesFrom_eq_cons {start : Nat} (inside : start < log.length) :
    log.linesFrom start = log.line start :: log.linesFrom (start + 1) := by
  have count : log.length - start = log.length - (start + 1) + 1 := by omega
  simp [linesFrom, count, List.range'_succ]

theorem linesFrom_append {start : Nat} (inside : start ≤ log.length) :
    (log.append text clean).linesFrom start =
      log.linesFrom start ++ [(log.append text clean).line log.length] := by
  have count : log.length + 1 - start = log.length - start + 1 := by omega
  have last : start + (log.length - start) = log.length := by omega
  have same : ∀ index ∈ List.range' start (log.length - start),
      (log.append text clean).line index = log.line index := by
    intro index member
    exact line_append (by have := List.mem_range'_1.mp member; omega)
  rw [linesFrom, length_append, count, List.range'_concat, List.map_append,
    List.map_congr_left same]
  simp [linesFrom, last]

theorem bytes_eq_append {start : Nat} (inside : start < log.length) :
    log.bytes start = log.line start ++ log.bytes (start + 1) := by
  simp [bytes, linesFrom_eq_cons inside]

theorem length_le_of_bytes_eq_nil {start : Nat} (empty : log.bytes start = []) :
    log.length ≤ start := by
  apply Nat.le_of_not_lt
  intro inside
  simp [bytes_eq_append inside, line] at empty

theorem bytes_append {start : Nat} (inside : start ≤ log.length) :
    (log.append text clean).bytes start =
      log.bytes start ++ (log.append text clean).line log.length := by
  simp [bytes, linesFrom_append inside]

/-- The first newline of the bytes is the one that ends their first line. -/
theorem cutLine_bytes {start : Nat} (inside : start < log.length) :
    cutLine Stamp.isNewline (log.bytes start) =
      some (log.line start, log.bytes (start + 1)) := by
  apply cutLine_eq_some_iff.mpr
  refine ⟨bytes_eq_append inside, _, _, rfl, rfl, ?_⟩
  intro stamp member
  rcases List.mem_map.mp member with ⟨byte, found, rfl⟩
  rw [List.getD_eq_getElem?_getD] at found
  unfold length at inside
  rw [List.getElem?_eq_getElem inside] at found
  exact log.clean _ (List.getElem_mem inside) byte found

theorem line_of_mem_line {index : Nat} {stamp : Stamp} (member : stamp ∈ log.line index) :
    stamp.line = index := by
  rcases List.mem_append.mp member with inside | last
  · rcases List.mem_map.mp inside with ⟨byte, _, rfl⟩
    rfl
  · rw [List.mem_singleton.mp last]

end Log

/-! ## What was put on the channel -/

/-- Whether a line holds a byte logged after the first connection. -/
def touches (first : Nat) (line : List Stamp) : Bool :=
  line.any fun stamp => first ≤ stamp.line

/-- The lines put on the channel that were logged after the first connection. -/
def fresh (first : Nat) (emitted : List (List Stamp)) : List (List Stamp) :=
  emitted.filter (touches first)

theorem touches_line {log : Log} {first index : Nat} :
    touches first (log.line index) = decide (first ≤ index) := by
  apply Bool.eq_iff_iff.mpr
  simp only [touches, List.any_eq_true, decide_eq_true_eq]
  constructor
  · rintro ⟨stamp, member, later⟩
    exact Log.line_of_mem_line member ▸ later
  · intro later
    exact ⟨⟨index, newline⟩, by simp [Log.line], later⟩

/-- Each line logged after the first connection was put on the channel at most
once and in order, all of them when the stream is drained, and what the
consumer has received and will receive is their text. -/
structure ExactlyOnce (system : System) : Prop where
  channel : system.received ++ system.reader.lines = system.reader.emitted.map contents
  inOrder : ∀ first, system.reader.first = some first →
    fresh first system.reader.emitted <+: system.log.linesFrom first
  complete : ∀ first, system.reader.first = some first →
    system.reader.pc = .readLine → system.reader.stream.ended = false →
    system.reader.buffer = [] → system.reader.stream.unread system.log = [] →
    fresh first system.reader.emitted = system.log.linesFrom first

/-- The steps that join the streams without a seam: a window opens at the first
line that has still to be put on the channel, and a stream does not end inside
such a line. -/
def Seamless (system : System) : Action → Prop
  | .tail .streamOk => ∀ first ∈ system.reader.first,
      max (system.log.length - tailLines) first =
        first + (fresh first system.reader.emitted).length
  | .tail (.read count (some .eof)) =>
      system.reader.stream.chunk system.log count = [] →
        ∀ first ∈ system.reader.first, touches first system.reader.buffer = false
  | _ => True

instance Seamless.decidable (system : System) :
    (action : Action) → Decidable (Seamless system action)
  | .tail .streamOk =>
      inferInstanceAs (Decidable (∀ first ∈ system.reader.first,
        max (system.log.length - tailLines) first =
          first + (fresh first system.reader.emitted).length))
  | .tail (.read count (some .eof)) =>
      inferInstanceAs (Decidable (system.reader.stream.chunk system.log count = [] →
        ∀ first ∈ system.reader.first, touches first system.reader.buffer = false))
  | .tail (.read _ none) | .tail (.read _ (some .other)) => isTrue trivial
  | .tail .select | .tail .streamFail | .tail .line | .tail .put | .tail .abort
  | .tail (.lookup _) => isTrue trivial
  | .log _ | .receive | .expire | .deletePod | .stop => isTrue trivial

/-! ## The line the stream delivers next -/

/-- Pending bytes and what the stream still delivers are the log from a line
on. -/
structure Follows (log : Log) (stream : Stream) (pending : List Stamp) (next : Nat) : Prop where
  start_le : stream.start ≤ log.length
  pos_le : stream.pos ≤ (log.bytes stream.start).length
  next_le : next ≤ log.length
  rest : pending ++ stream.unread log = log.bytes next

namespace Follows

variable {log : Log} {stream : Stream} {pending : List Stamp} {next : Nat}

theorem connect (log : Log) : Follows log (.connect log) [] (log.length - tailLines) where
  start_le := Nat.sub_le log.length tailLines
  pos_le := Nat.zero_le _
  next_le := Nat.sub_le log.length tailLines
  rest := rfl

theorem append {text : List UInt8} {clean : Clean text}
    (follows : Follows log stream pending next) :
    Follows (log.append text clean) stream pending next where
  start_le := by
    rw [Log.length_append]
    exact Nat.le_succ_of_le follows.start_le
  pos_le := by
    rw [Log.bytes_append follows.start_le, List.length_append]
    exact Nat.le_add_right_of_le follows.pos_le
  next_le := by
    rw [Log.length_append]
    exact Nat.le_succ_of_le follows.next_le
  rest := by
    rw [Stream.unread, Log.bytes_append follows.start_le,
      List.drop_append_of_le_length follows.pos_le, ← List.append_assoc,
      Log.bytes_append follows.next_le, ← follows.rest]
    rfl

theorem read (count : Nat) (error : Option ReadError)
    (follows : Follows log stream pending next) :
    Follows log (stream.advance log count error) (pending ++ stream.chunk log count) next where
  start_le := follows.start_le
  pos_le := by
    have bound : (stream.chunk log count).length ≤ (stream.unread log).length :=
      List.length_take_le' _ _
    rw [Stream.unread, List.length_drop] at bound
    exact Nat.add_le_of_le_sub' follows.pos_le bound
  next_le := follows.next_le
  rest := by
    rw [List.append_assoc, Stream.chunk_append_unread]
    exact follows.rest

/-- The first complete line of the buffer is the line the stream is at. -/
theorem cut {line rest : List Stamp} (follows : Follows log stream pending next)
    (found : cutLine Stamp.isNewline pending = some (line, rest)) :
    next < log.length ∧ line = log.line next ∧ Follows log stream rest (next + 1) := by
  have cut := cutLine_append (stream.unread log) found
  rw [follows.rest] at cut
  have inside : next < log.length := by
    apply Nat.lt_of_not_le
    intro behind
    simp [Log.bytes, Log.linesFrom_of_length_le behind, cutLine] at cut
  rw [Log.cutLine_bytes inside, Option.some.injEq, Prod.mk.injEq] at cut
  exact ⟨inside, cut.1.symm, follows.start_le, follows.pos_le, inside, cut.2.symm⟩

end Follows

/-! ## Progress on the channel -/

/-- The lines on the channel followed by the rest of the log are the lines
logged after the first connection. -/
structure Delivered (log : Log) (emitted : List (List Stamp)) (first : Nat) : Prop where
  bound : first + (fresh first emitted).length ≤ log.length
  seen : fresh first emitted ++ log.linesFrom (first + (fresh first emitted).length) =
    log.linesFrom first

/-- A line is the first one that has not been put on the channel, or was logged
before the first connection. -/
def Due (emitted : List (List Stamp)) (first next : Nat) : Prop :=
  max next first = first + (fresh first emitted).length

theorem fresh_of_not_touches {first : Nat} {emitted : List (List Stamp)} {line : List Stamp}
    (old : touches first line = false) :
    fresh first (emitted ++ [line]) = fresh first emitted := by
  simp [fresh, old]

theorem fresh_of_touches {first : Nat} {emitted : List (List Stamp)} {line : List Stamp}
    (new : touches first line = true) :
    fresh first (emitted ++ [line]) = fresh first emitted ++ [line] := by
  simp [fresh, new]

namespace Delivered

variable {log : Log} {emitted : List (List Stamp)} {first next : Nat}

theorem start (log : Log) : Delivered log [] log.length where
  bound := Nat.le_refl log.length
  seen := rfl

theorem append {text : List UInt8} {clean : Clean text}
    (delivered : Delivered log emitted first) :
    Delivered (log.append text clean) emitted first where
  bound := by
    rw [Log.length_append]
    exact Nat.le_succ_of_le delivered.bound
  seen := by
    rw [Log.linesFrom_append delivered.bound,
      Log.linesFrom_append (Nat.le_trans (Nat.le_add_right _ _) delivered.bound),
      ← List.append_assoc, delivered.seen]

theorem skip {line : List Stamp} (old : touches first line = false)
    (delivered : Delivered log emitted first) : Delivered log (emitted ++ [line]) first where
  bound := by
    rw [fresh_of_not_touches old]
    exact delivered.bound
  seen := by
    rw [fresh_of_not_touches old]
    exact delivered.seen

/-- Putting the line that is due on the channel makes the next one due. -/
theorem put (delivered : Delivered log emitted first) (due : Due emitted first next)
    (inside : next < log.length) :
    Delivered log (emitted ++ [log.line next]) first ∧
      Due (emitted ++ [log.line next]) first (next + 1) := by
  unfold Due at due ⊢
  by_cases later : first ≤ next
  · have new : touches first (log.line next) = true := by simpa [touches_line] using later
    rw [Nat.max_eq_left later] at due
    have count : first + (fresh first (emitted ++ [log.line next])).length = next + 1 := by
      rw [fresh_of_touches new, List.length_append, ← Nat.add_assoc, ← due]
      rfl
    rw [count, Nat.max_eq_left (Nat.le_succ_of_le later)]
    constructor
    · constructor
      · rw [count]
        exact inside
      · rw [count, fresh_of_touches new, List.append_assoc, ← delivered.seen, ← due,
          Log.linesFrom_eq_cons inside]
        rfl
    · rfl
  · have old : touches first (log.line next) = false := by simpa [touches_line] using later
    constructor
    · exact delivered.skip old
    · rw [fresh_of_not_touches old, ← due]
      omega

end Delivered

/-! ## The invariant of a seamless run -/

/-- The positions in which a stream was opened in this round. -/
def Pc.Streaming : Pc → Prop
  | .readLine | .send _ | .lookup => True
  | _ => False

/-- What the goroutine is about to do with the line that is due.  A stream that
has ended inside an earlier line has nothing left. -/
def Awaits (log : Log) (reader : ContainerReader) (first : Nat) : Pc → Prop
  | .readLine =>
      (∃ next, Follows log reader.stream reader.buffer next ∧
        Due reader.emitted first next) ∨
      (reader.stream.ended = true ∧ reader.buffer = [])
  | .send line =>
      (∃ next, next < log.length ∧ line = log.line next ∧
        Follows log reader.stream reader.buffer (next + 1) ∧
        Due reader.emitted first next) ∨
      (reader.stream.ended = true ∧ reader.buffer = [] ∧ touches first line = false)
  | _ => True

/-- What has been emitted agrees with the log, before and after the first
connection. -/
structure Tracks (log : Log) (reader : ContainerReader) : Prop where
  unconnected : reader.first = none → reader.emitted = [] ∧ ¬ reader.pc.Streaming
  connected : ∀ first, reader.first = some first →
    Delivered log reader.emitted first ∧ Awaits log reader first reader.pc

namespace Tracks

variable {log : Log} {podExists : Bool} {reader after : ContainerReader} {first : Nat}

theorem of_some (connected : reader.first = some first)
    (delivered : Delivered log reader.emitted first)
    (awaits : Awaits log reader first reader.pc) : Tracks log reader where
  unconnected := by
    intro missing
    rw [connected] at missing
    contradiction
  connected := by
    intro other same
    cases connected.symm.trans same
    exact ⟨delivered, awaits⟩

theorem exists_first (tracks : Tracks log reader) (streaming : reader.pc.Streaming) :
    ∃ first, reader.first = some first ∧ Delivered log reader.emitted first ∧
      Awaits log reader first reader.pc := by
  cases connected : reader.first with
  | none => exact absurd streaming (tracks.unconnected connected).2
  | some first => exact ⟨first, rfl, tracks.connected first connected⟩

/-- Outside the streaming part nothing is expected of the stream. -/
theorem leave (tracks : Tracks log reader) (sameEmitted : after.emitted = reader.emitted)
    (sameFirst : after.first = reader.first) (outside : ¬ after.pc.Streaming) :
    Tracks log after where
  unconnected := by
    intro missing
    rw [sameEmitted]
    exact ⟨(tracks.unconnected (sameFirst ▸ missing)).1, outside⟩
  connected := by
    intro first connected
    rw [sameEmitted]
    constructor
    · exact (tracks.connected first (sameFirst ▸ connected)).1
    · cases position : after.pc with
      | readLine => exact absurd (position ▸ trivial : after.pc.Streaming) outside
      | send line => exact absurd (position ▸ trivial : after.pc.Streaming) outside
      | _ => trivial

/-- A connection in a seamless run starts with the line that is due. -/
theorem streamOk (tracks : Tracks log reader)
    (seamless : ∀ first ∈ reader.first, Due reader.emitted first (log.length - tailLines)) :
    Tracks log { reader with
      stream := .connect log
      buffer := []
      pc := .readLine
      first := reader.first.or (some log.length) } := by
  cases connected : reader.first with
  | none =>
      have nothing := (tracks.unconnected connected).1
      apply of_some rfl
      · rw [nothing]
        exact Delivered.start log
      · refine Or.inl ⟨_, Follows.connect log, ?_⟩
        rw [nothing]
        exact Nat.max_eq_right (Nat.sub_le log.length tailLines)
  | some first =>
      apply of_some rfl
      · exact (tracks.connected first connected).1
      · exact Or.inl ⟨_, Follows.connect log, seamless first connected⟩

theorem line {line rest : List Stamp} (tracks : Tracks log reader)
    (position : reader.pc = .readLine)
    (found : cutLine Stamp.isNewline reader.buffer = some (line, rest)) :
    Tracks log { reader with buffer := rest, pc := .send line } := by
  rcases tracks.exists_first (position ▸ trivial) with ⟨first, connected, delivered, awaits⟩
  rw [position] at awaits
  rcases awaits with ⟨next, follows, due⟩ | ⟨_, drained⟩
  · rcases follows.cut found with ⟨inside, rfl, follows⟩
    exact of_some connected delivered (Or.inl ⟨next, inside, rfl, follows, due⟩)
  · rw [drained] at found
    contradiction

theorem more {count : Nat} {error : Option ReadError} (tracks : Tracks log reader)
    (position : reader.pc = .readLine) (live : reader.stream.ended = false) :
    Tracks log { reader with
      stream := reader.stream.advance log count error
      buffer := reader.buffer ++ reader.stream.chunk log count
      pc := .readLine } := by
  rcases tracks.exists_first (position ▸ trivial) with ⟨first, connected, delivered, awaits⟩
  rw [position] at awaits
  rcases awaits with ⟨next, follows, due⟩ | ⟨ended, _⟩
  · exact of_some connected delivered (Or.inl ⟨next, follows.read count error, due⟩)
  · rw [live] at ended
    contradiction

theorem put {line : List Stamp} (tracks : Tracks log reader)
    (position : reader.pc = .send line) :
    Tracks log { reader with
      lines := reader.lines ++ [contents line]
      pc := .readLine
      emitted := reader.emitted ++ [line] } := by
  rcases tracks.exists_first (position ▸ trivial) with ⟨first, connected, delivered, awaits⟩
  rw [position] at awaits
  rcases awaits with ⟨next, inside, rfl, follows, due⟩ | ⟨ended, drained, old⟩
  · rcases delivered.put due inside with ⟨delivered, due⟩
    exact of_some connected delivered (Or.inl ⟨next + 1, follows, due⟩)
  · exact of_some connected (delivered.skip old) (Or.inr ⟨ended, drained⟩)

/-- Every seamless step of the goroutine keeps the invariant. -/
theorem moves {system : System} {action : TailStep} {reader : ContainerReader}
    (tracks : Tracks system.log system.reader) (seamless : Seamless system (.tail action))
    (moves : Moves system.log system.podExists system.reader action reader) :
    Tracks system.log reader := by
  cases moves with
  | exit | round | streamFail | abort | gone | found => exact tracks.leave rfl rfl id
  | streamOk => exact tracks.streamOk seamless
  | line position found => exact tracks.line position found
  | more position live => exact tracks.more position live
  | fragment position empty =>
      rcases tracks.exists_first (position ▸ trivial) with ⟨first, connected, delivered, _⟩
      have old := seamless empty first connected
      exact of_some connected delivered (Or.inr ⟨Bool.or_true _, rfl, old⟩)
  | failed position =>
      rcases tracks.exists_first (position ▸ trivial) with ⟨first, connected, delivered, _⟩
      exact of_some connected delivered trivial
  | put position => exact tracks.put position

/-- The invariant survives new lines of the log. -/
theorem append (tracks : Tracks log reader) (text : List UInt8)
    (clean : Clean text) :
    Tracks (log.append text clean) reader where
  unconnected := tracks.unconnected
  connected := by
    intro first connected
    rcases tracks.connected first connected with ⟨delivered, awaits⟩
    constructor
    · exact delivered.append
    · cases position : reader.pc with
      | readLine =>
          rw [position] at awaits
          rcases awaits with ⟨next, follows, due⟩ | drained
          · exact Or.inl ⟨next, follows.append, due⟩
          · exact Or.inr drained
      | send line =>
          rw [position] at awaits
          rcases awaits with ⟨next, inside, rfl, follows, due⟩ | drained
          · refine Or.inl ⟨next, ?_, (Log.line_append inside).symm, follows.append, due⟩
            rw [Log.length_append]
            exact Nat.lt_succ_of_lt inside
          · exact Or.inr drained
      | _ => trivial

end Tracks

/-- What the consumer has received and what waits on the channel is the text of
what was put there. -/
def Conveys (system : System) : Prop :=
  system.received ++ system.reader.lines = system.reader.emitted.map contents

theorem conveys_of_step {system after : System} {action : Action} (conveys : Conveys system)
    (step : system.step action = some after) : Conveys after := by
  unfold Conveys at conveys ⊢
  rcases System.step_cases step with
    ⟨text, clean, rfl, rfl⟩ | ⟨move, reader, rfl, moves, rfl⟩ |
      ⟨line, rest, rfl, pending, rfl⟩ | ⟨rfl, rfl⟩ | ⟨rfl, rfl⟩ | ⟨rfl, rfl⟩
  · exact conveys
  · cases moves with
    | put => simp [← conveys]
    | _ => exact conveys
  · simpa [pending] using conveys
  · exact conveys
  · exact conveys
  · unfold ContainerReader.stop
    split <;> exact conveys

theorem conveys_of_run {log : Log} {reader : ContainerReader} {final : System}
    {schedule : List Action} (started : ContainerReader.newContainerReader.start = .ok reader)
    (ran : run System.step (.create log reader) schedule = some final) : Conveys final := by
  cases started
  have preserved : ∀ ⦃system action after⦄, Conveys system →
      System.step system action = some after → Conveys after :=
    fun _ _ _ conveys step => conveys_of_step conveys step
  have initial : Conveys (.create log { ContainerReader.newContainerReader with
      isRunning := true, pc := .loop }) := rfl
  exact invariant_of_run_of_forall preserved initial ran

theorem tracks_of_step {system after : System} {action : Action}
    (tracks : Tracks system.log system.reader) (seamless : Seamless system action)
    (step : system.step action = some after) : Tracks after.log after.reader := by
  rcases System.step_cases step with
    ⟨text, clean, rfl, rfl⟩ | ⟨move, reader, rfl, moves, rfl⟩ |
      ⟨line, rest, rfl, pending, rfl⟩ | ⟨rfl, rfl⟩ | ⟨rfl, rfl⟩ | ⟨rfl, rfl⟩
  · exact tracks.append text clean
  · exact tracks.moves seamless moves
  · exact ⟨tracks.unconnected, tracks.connected⟩
  · exact ⟨tracks.unconnected, tracks.connected⟩
  · exact tracks
  · unfold ContainerReader.stop
    split <;> exact ⟨tracks.unconnected, tracks.connected⟩

theorem Tracks.exactlyOnce {system : System} (tracks : Tracks system.log system.reader)
    (conveys : Conveys system) : ExactlyOnce system where
  channel := conveys
  inOrder := by
    intro first connected
    exact ⟨_, (tracks.connected first connected).1.seen⟩
  complete := by
    intro first connected position live drained silent
    rcases tracks.connected first connected with ⟨delivered, awaits⟩
    rw [position] at awaits
    rcases awaits with ⟨next, follows, due⟩ | ⟨ended, _⟩
    · have behind := follows.rest
      rw [drained, silent] at behind
      have finished := Log.length_le_of_bytes_eq_nil behind.symm
      have seen := delivered.seen
      rw [← due, Log.linesFrom_of_length_le (Nat.le_trans finished (Nat.le_max_left _ _)),
        List.append_nil] at seen
      exact seen
    · rw [live] at ended
      contradiction

/-- In every run in which each connection opens at the line that is due and no
stream ends inside such a line, the lines logged after the first connection are
put on the channel once, in order and without a gap. -/
theorem tailContainer_exactlyOnce {log : Log} {reader : ContainerReader} {final : System}
    {schedule : List Action} (started : ContainerReader.newContainerReader.start = .ok reader)
    (seamless : Meets System.step Seamless (.create log reader) schedule)
    (ran : run System.step (.create log reader) schedule = some final) :
    ExactlyOnce final := by
  have tracks : Tracks final.log final.reader := by
    apply invariant_of_run (fun _ _ _ => tracks_of_step) _ seamless ran
    cases started
    exact ⟨fun _ => ⟨rfl, id⟩, fun _ connected => nomatch connected⟩
  exact tracks.exactlyOnce (conveys_of_run started ran)

/-- A round that reads one line, and one ten lines later. -/
def twoRounds : List Action :=
  [.tail .select, .tail .streamOk, .log [97], .tail (.read 2 none), .tail .line, .tail .put,
    .tail (.read 0 (some .eof)), .tail (.lookup false)] ++
    List.replicate 10 (.log [98]) ++
    [.tail .select, .tail .streamOk, .tail (.read 2 none), .tail .line, .tail .put]

/-- A line is read and the stream ends; ten lines later the reader connects
again and goes on with the first of them. -/
theorem tailContainer_exactlyOnce_tenLinesLater :
    ∃ reader final, ContainerReader.newContainerReader.start = .ok reader ∧
      run System.step (.create .empty reader) twoRounds = some final ∧
      ExactlyOnce final := by
  refine ⟨_, _, rfl, rfl, ?_⟩
  exact @tailContainer_exactlyOnce .empty _ _ twoRounds rfl (by decide) rfl

/-- Two rounds that see the same line. -/
def sameLineTwice : List Action :=
  [.tail .select, .tail .streamOk, .log [97], .tail (.read 2 none), .tail .line, .tail .put,
    .tail (.read 0 (some .eof)), .tail (.lookup false), .tail .select, .tail .streamOk,
    .tail (.read 2 none), .tail .line, .tail .put]

/-- A line is read and the stream ends; the reader connects again and puts the
same line on the channel once more. -/
theorem reconnect_repeats_line :
    ∃ reader schedule final, ContainerReader.newContainerReader.start = .ok reader ∧
      run System.step (.create .empty reader) schedule = some final ∧
      final.received ++ final.reader.lines = [[97], [97]] ∧ final.log.lines = [[97]] ∧
      final.reader.first = some 0 ∧ ¬ ExactlyOnce final := by
  refine ⟨_, sameLineTwice, _, rfl, rfl, by decide, by decide, by decide, ?_⟩
  intro exactlyOnce
  have ordered := exactlyOnce.inOrder 0 (by decide)
  revert ordered
  decide

end Tailpost.Container
