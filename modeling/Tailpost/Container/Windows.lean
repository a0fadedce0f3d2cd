import Tailpost.Container.Reconnect

/-!
# Windows on the log

Every connection opens a window on the log, ten lines in front of its end, and the lines on the
channel are what was seen through one window after the other.  Windows may overlap, and then
lines are repeated; where they do not meet, lines are missing for good, because no later
connection goes back behind an earlier one.
-/

namespace Tailpost.Container

open Tailpost.Text
open Tailpost.Transition

/-! ## Windows -/

/-- A front part of a line, without its newline. -/
structure PartOf (log : Log) (index : Nat) (text : List Stamp) : Prop where
  front : text <+: log.line index
  clean : ∀ stamp ∈ text, stamp.isNewline = false

/-- What was put on the channel during one connection: lines without a gap between them, and
then perhaps a part of the next line. -/
structure Window where
  start : Nat
  count : Nat
  fragment : List Stamp

namespace Window

/-- The line behind those that were put on the channel. -/
def next (window : Window) : Nat :=
  window.start + window.count

/-- The lines of a window, the fragment at its end included. -/
def lines (log : Log) (window : Window) : List (List Stamp) :=
  (List.range' window.start window.count).map log.line ++
    if window.fragment = [] then [] else [window.fragment]

/-- The window is one on the log. -/
structure Fits (log : Log) (window : Window) : Prop where
  start_le : window.start ≤ log.length - tailLines
  next_le : window.next ≤ log.length
  fragment : window.fragment ≠ [] →
    window.next < log.length ∧ PartOf log window.next window.fragment

variable {log : Log} {window : Window}

theorem lines_append {text : List UInt8} {clean : Clean text} (fits : window.Fits log) :
    window.lines (log.append text clean) = window.lines log := by
  have same : (List.range' window.start window.count).map (log.append text clean).line =
      (List.range' window.start window.count).map log.line := by
    apply List.map_congr_left
    intro index member
    have bound := fits.next_le
    rw [List.mem_range'_1] at member
    exact Log.line_append (Nat.lt_of_lt_of_le member.2 bound)
  rw [lines, same, lines]

theorem Fits.append {text : List UInt8} {clean : Clean text} (fits : window.Fits log) :
    window.Fits (log.append text clean) where
  start_le := by
    rw [Log.length_append]
    exact Nat.le_trans fits.start_le (Nat.sub_le_sub_right (Nat.le_succ _) _)
  next_le := by
    rw [Log.length_append]
    exact Nat.le_succ_of_le fits.next_le
  fragment := by
    intro broken
    obtain ⟨inside, front, free⟩ := fits.fragment broken
    rw [Log.length_append]
    refine ⟨Nat.lt_succ_of_lt inside, ?_, free⟩
    rwa [Log.line_append inside]

theorem lines_succ (whole : window.fragment = []) :
    Window.lines log { window with count := window.count + 1 } =
      window.lines log ++ [log.line window.next] := by
  simp [lines, whole, next, List.range'_concat]

theorem lines_fragment (whole : window.fragment = []) {text : List Stamp} (given : text ≠ []) :
    Window.lines log { window with fragment := text } = window.lines log ++ [text] := by
  simp [lines, whole, given]

/-- The whole lines of a window. -/
theorem mem_lines_of_lt {index : Nat} (first : window.start ≤ index) (last : index < window.next) :
    log.line index ∈ window.lines log := by
  apply List.mem_append_left
  exact List.mem_map_of_mem (List.mem_range'_1.mpr ⟨first, last⟩)

end Window

/-- The lines are what was seen through the windows, one after the other, and no window opens
behind a later one. -/
structure Seen (log : Log) (emitted : List (List Stamp)) (windows : List Window) : Prop where
  lines : emitted = windows.flatMap (Window.lines log)
  fits : ∀ window ∈ windows, window.Fits log
  sorted : (windows.map Window.start).Pairwise (· ≤ ·)

theorem Seen.append {log : Log} {emitted : List (List Stamp)} {windows : List Window}
    (seen : Seen log emitted windows) (text : List UInt8) (clean : Clean text) :
    Seen (log.append text clean) emitted windows where
  lines := by
    rw [seen.lines]
    simp only [List.flatMap]
    congr 1
    apply List.map_congr_left
    intro window member
    exact (Window.lines_append (seen.fits window member)).symm
  fits := fun window member => (seen.fits window member).append
  sorted := seen.sorted

/-! ## The current window -/

/-- What the goroutine does next with the window of its stream. -/
def Proceeds (log : Log) (reader : ContainerReader) (window : Window) : Pc → Prop
  | .readLine =>
      (window.fragment = [] ∧ Follows log reader.stream reader.buffer window.next) ∨
      (reader.stream.ended = true ∧ reader.buffer = [])
  | .send line =>
      window.fragment = [] ∧ window.next < log.length ∧
        ((line = log.line window.next ∧
            Follows log reader.stream reader.buffer (window.next + 1)) ∨
          (line ≠ [] ∧ PartOf log window.next line ∧ reader.stream.ended = true ∧
            reader.buffer = []))
  | _ => True

/-- The windows of a reader, the last of them being that of its stream. -/
structure Shows (log : Log) (reader : ContainerReader) (earlier : List Window)
    (window : Window) : Prop where
  seen : Seen log reader.emitted (earlier ++ [window])
  start : window.start = reader.stream.start
  proceeds : Proceeds log reader window reader.pc

/-- What holds of a reader that was started and has connected a number of times. -/
structure Windowed (connections : Nat) (log : Log) (reader : ContainerReader) : Prop where
  unconnected : reader.first = none →
    connections = 0 ∧ reader.emitted = [] ∧ ¬ reader.pc.Streaming
  connected : reader.first ≠ none →
    ∃ earlier window, earlier.length + 1 = connections ∧ Shows log reader earlier window

/-- A `Read` is made for want of a complete line. -/
theorem cutLine_of_read {log : Log} {podExists : Bool} {reader after : ContainerReader}
    {count : Nat} {error : Option ReadError}
    (taken : reader.tailContainer log podExists (.read count error) = some after) :
    cutLine Stamp.isNewline reader.buffer = none := by
  unfold ContainerReader.tailContainer at taken
  split at taken
  case h_5 =>
    split at taken
    next enabled => simpa using enabled.1
    next => contradiction
  all_goals contradiction

theorem Log.newline_mem_line (log : Log) (index : Nat) :
    (⟨index, newline⟩ : Stamp) ∈ log.line index := by
  simp [Log.line]

/-- What is left in the buffer at the end of a stream is a part of a line. -/
theorem Follows.partOf {log : Log} {stream : Stream} {pending : List Stamp} {next : Nat}
    (follows : Follows log stream pending next) (given : pending ≠ [])
    (cut : cutLine Stamp.isNewline pending = none) :
    next < log.length ∧ PartOf log next pending := by
  have inside : next < log.length := by
    apply Nat.lt_of_not_le
    intro behind
    have rest := follows.rest
    rw [Log.bytes, Log.linesFrom_of_length_le behind] at rest
    exact given (List.append_eq_nil_iff.mp rest).1
  have clean : ∀ stamp ∈ pending, stamp.isNewline = false := by
    simpa [List.countP_eq_zero] using countP_of_cutLine_eq_none cut
  refine ⟨inside, ?_, clean⟩
  have bytes : pending ++ stream.unread log = log.line next ++ log.bytes (next + 1) :=
    follows.rest.trans (Log.bytes_eq_append inside)
  rcases List.prefix_or_prefix_of_prefix ⟨_, bytes⟩ (List.prefix_append _ _) with front | back
  · exact front
  · -- the newline of the line would be in the buffer
    have ended := log.newline_mem_line next
    exact Bool.noConfusion (clean _ (back.subset ended))

namespace Shows

variable {log : Log} {reader after : ContainerReader} {earlier : List Window} {window : Window}

theorem fits (shows : Shows log reader earlier window) : window.Fits log :=
  shows.seen.fits window (List.mem_append_right _ List.mem_cons_self)

/-- Another line on the channel. -/
theorem extend (shows : Shows log reader earlier window) {larger : Window} {line : List Stamp}
    (lines : larger.lines log = window.lines log ++ [line]) (start : larger.start = window.start)
    (fits : larger.Fits log) (emitted : after.emitted = reader.emitted ++ [line])
    (stream : after.stream.start = reader.stream.start)
    (proceeds : Proceeds log after larger after.pc) : Shows log after earlier larger where
  seen := by
    refine ⟨?_, ?_, ?_⟩
    · rw [emitted, shows.seen.lines]
      simp [lines]
    · intro other member
      rcases List.mem_append.mp member with old | new
      · exact shows.seen.fits other (List.mem_append_left _ old)
      · exact List.mem_singleton.mp new ▸ fits
    · simpa [start] using shows.seen.sorted
  start := by rw [start, shows.start, stream]
  proceeds := proceeds

/-- The goroutine goes on with the same windows. -/
theorem proceed (shows : Shows log reader earlier window)
    (emitted : after.emitted = reader.emitted)
    (stream : after.stream.start = reader.stream.start)
    (proceeds : Proceeds log after window after.pc) : Shows log after earlier window :=
  ⟨emitted ▸ shows.seen, shows.start.trans stream.symm, proceeds⟩

/-- A connection opens the next window. -/
theorem connect {windows : List Window} (seen : Seen log after.emitted windows)
    (stream : after.stream = .connect log) (buffer : after.buffer = [])
    (position : after.pc = .readLine) :
    Shows log after windows ⟨log.length - tailLines, 0, []⟩ where
  seen := by
    refine ⟨?_, ?_, ?_⟩
    · rw [seen.lines]
      simp [Window.lines]
    · intro other member
      rcases List.mem_append.mp member with old | new
      · exact seen.fits other old
      · rw [List.mem_singleton.mp new]
        exact ⟨Nat.le_refl _, Nat.sub_le _ _, fun broken => absurd rfl broken⟩
    · rw [List.map_append, List.pairwise_append]
      refine ⟨seen.sorted, List.pairwise_singleton _ _, ?_⟩
      intro start member last new
      obtain ⟨other, old, rfl⟩ := List.mem_map.mp member
      cases List.mem_singleton.mp new
      exact (seen.fits other old).start_le
  start := by rw [stream]; rfl
  proceeds := by
    rw [position]
    refine .inl ⟨rfl, ?_⟩
    rw [stream, buffer]
    exact Follows.connect log

/-- The log grows. -/
theorem append (shows : Shows log reader earlier window) (text : List UInt8)
    (clean : Clean text) : Shows (log.append text clean) reader earlier window where
  seen := shows.seen.append text clean
  start := shows.start
  proceeds := by
    have proceeds := shows.proceeds
    cases position : reader.pc with
    | readLine =>
        rw [position] at proceeds
        rcases proceeds with ⟨whole, follows⟩ | drained
        · exact .inl ⟨whole, follows.append⟩
        · exact .inr drained
    | send line =>
        rw [position] at proceeds
        obtain ⟨whole, inside, ⟨rfl, follows⟩ | ⟨given, part, drained⟩⟩ := proceeds
        · refine ⟨whole, ?_, .inl ⟨(Log.line_append inside).symm, follows.append⟩⟩
          rw [Log.length_append]
          exact Nat.lt_succ_of_lt inside
        · refine ⟨whole, ?_, .inr ⟨given, ⟨?_, part.clean⟩, drained⟩⟩
          · rw [Log.length_append]
            exact Nat.lt_succ_of_lt inside
          · rw [Log.line_append inside]
            exact part.front
    | _ => trivial

/-- A line goes on the channel. -/
theorem put (shows : Shows log reader earlier window) {line : List Stamp}
    (position : reader.pc = .send line) :
    ∃ larger, Shows log { reader with
      lines := reader.lines ++ [contents line]
      pc := .readLine
      emitted := reader.emitted ++ [line] } earlier larger := by
  have fits := shows.fits
  have proceeds := shows.proceeds
  rw [position] at proceeds
  obtain ⟨whole, inside, ⟨rfl, follows⟩ | ⟨given, part, drained⟩⟩ := proceeds
  · refine ⟨{ window with count := window.count + 1 },
      shows.extend (Window.lines_succ whole) rfl ⟨fits.start_le, inside, ?_⟩ rfl rfl
        (.inl ⟨whole, follows⟩)⟩
    intro broken
    exact absurd whole broken
  · exact ⟨{ window with fragment := line },
      shows.extend (Window.lines_fragment whole given) rfl
        ⟨fits.start_le, fits.next_le, fun _ => ⟨inside, part⟩⟩ rfl rfl (.inr drained)⟩

end Shows

/-- A stream is opened. -/
def connects : Action → Bool
  | .tail .streamOk => true
  | _ => false

namespace Windowed

variable {connections : Nat} {log : Log} {podExists : Bool} {reader after : ContainerReader}

theorem exists_shows (windowed : Windowed connections log reader)
    (streaming : reader.pc.Streaming) :
    reader.first ≠ none ∧
      ∃ earlier window, earlier.length + 1 = connections ∧ Shows log reader earlier window := by
  have connected : reader.first ≠ none := fun missing =>
    (windowed.unconnected missing).2.2 streaming
  exact ⟨connected, windowed.connected connected⟩

theorem of_shows {earlier : List Window} {window : Window} (connected : reader.first ≠ none)
    (count : earlier.length + 1 = connections) (shows : Shows log reader earlier window) :
    Windowed connections log reader :=
  ⟨fun missing => absurd missing connected, fun _ => ⟨earlier, window, count, shows⟩⟩

/-- The goroutine turns away from the stream. -/
theorem leave (windowed : Windowed connections log reader)
    (emitted : after.emitted = reader.emitted) (first : after.first = reader.first)
    (stream : after.stream = reader.stream) (outside : ¬ after.pc.Streaming) :
    Windowed connections log after where
  unconnected := by
    intro missing
    rw [emitted]
    obtain ⟨none, empty, _⟩ := windowed.unconnected (first ▸ missing)
    exact ⟨none, empty, outside⟩
  connected := by
    intro connected
    obtain ⟨earlier, window, count, shows⟩ := windowed.connected (first ▸ connected)
    refine ⟨earlier, window, count, shows.proceed emitted (congrArg Stream.start stream) ?_⟩
    cases position : after.pc with
    | readLine => exact absurd (position ▸ trivial : after.pc.Streaming) outside
    | send line => exact absurd (position ▸ trivial : after.pc.Streaming) outside
    | _ => trivial

theorem exists_seen (windowed : Windowed connections log reader) :
    ∃ windows, windows.length = connections ∧ Seen log reader.emitted windows := by
  cases connected : reader.first with
  | none =>
      obtain ⟨none, empty, _⟩ := windowed.unconnected connected
      rw [none, empty]
      exact ⟨[], rfl, rfl, nofun, .nil⟩
  | some first =>
      obtain ⟨earlier, window, count, shows⟩ := windowed.connected (by rw [connected]; exact nofun)
      exact ⟨_, by simpa using count, shows.seen⟩

theorem streamOk (windowed : Windowed connections log reader) :
    Windowed (connections + 1) log { reader with
      stream := .connect log
      buffer := []
      pc := .readLine
      first := reader.first.or (some log.length) } := by
  obtain ⟨windows, count, seen⟩ := windowed.exists_seen
  refine of_shows ?_ (congrArg (· + 1) count) (Shows.connect seen rfl rfl rfl)
  cases reader.first <;> exact nofun

theorem line {line rest : List Stamp} (windowed : Windowed connections log reader)
    (position : reader.pc = .readLine)
    (found : cutLine Stamp.isNewline reader.buffer = some (line, rest)) :
    Windowed connections log { reader with buffer := rest, pc := .send line } := by
  obtain ⟨connected, earlier, window, count, shows⟩ := windowed.exists_shows (position ▸ trivial)
  have proceeds := shows.proceeds
  rw [position] at proceeds
  rcases proceeds with ⟨whole, follows⟩ | ⟨_, drained⟩
  · obtain ⟨inside, same, behind⟩ := follows.cut found
    exact of_shows connected count (shows.proceed rfl rfl ⟨whole, inside, .inl ⟨same, behind⟩⟩)
  · rw [drained] at found
    contradiction

theorem more {count : Nat} {error : Option ReadError} (windowed : Windowed connections log reader)
    (position : reader.pc = .readLine) (live : reader.stream.ended = false) :
    Windowed connections log { reader with
      stream := reader.stream.advance log count error
      buffer := reader.buffer ++ reader.stream.chunk log count
      pc := .readLine } := by
  obtain ⟨connected, earlier, window, counted, shows⟩ := windowed.exists_shows (position ▸ trivial)
  have proceeds := shows.proceeds
  rw [position] at proceeds
  rcases proceeds with ⟨whole, follows⟩ | ⟨ended, _⟩
  · have behind := follows.read count error
    exact of_shows connected counted (shows.proceed rfl rfl (.inl ⟨whole, behind⟩))
  · rw [live] at ended
    contradiction

/-- The stream ends inside a line. -/
theorem fragment {count : Nat} (windowed : Windowed connections log reader)
    (position : reader.pc = .readLine) (given : reader.buffer ≠ [])
    (cut : cutLine Stamp.isNewline reader.buffer = none) :
    Windowed connections log { reader with
      stream := reader.stream.advance log count (some .eof)
      buffer := []
      pc := .send reader.buffer } := by
  obtain ⟨connected, earlier, window, counted, shows⟩ := windowed.exists_shows (position ▸ trivial)
  have proceeds := shows.proceeds
  rw [position] at proceeds
  rcases proceeds with ⟨whole, follows⟩ | ⟨_, drained⟩
  · obtain ⟨inside, part⟩ := follows.partOf given cut
    exact of_shows connected counted
      (shows.proceed rfl rfl ⟨whole, inside, .inr ⟨given, part, Bool.or_true _, rfl⟩⟩)
  · contradiction

theorem put {line : List Stamp} (windowed : Windowed connections log reader)
    (position : reader.pc = .send line) :
    Windowed connections log { reader with
      lines := reader.lines ++ [contents line]
      pc := .readLine
      emitted := reader.emitted ++ [line] } := by
  obtain ⟨connected, earlier, window, counted, shows⟩ := windowed.exists_shows (position ▸ trivial)
  obtain ⟨larger, shows⟩ := shows.put position
  exact of_shows connected counted shows

theorem tailContainer {action : TailStep} (windowed : Windowed connections log reader)
    (taken : reader.tailContainer log podExists action = some after) :
    Windowed (connections + (connects (.tail action)).toNat) log after := by
  cases moves_of_tailContainer taken with
  | exit | round | streamFail | abort | gone | found => exact windowed.leave rfl rfl rfl id
  | streamOk => exact windowed.streamOk
  | line position found => exact windowed.line position found
  | more position live => exact windowed.more position live
  | fragment position _ given => exact windowed.fragment position given (cutLine_of_read taken)
  | failed position =>
      obtain ⟨connected, _, _, counted, shows⟩ := windowed.exists_shows (position ▸ trivial)
      exact of_shows connected counted (shows.proceed rfl rfl trivial)
  | put position => exact windowed.put position

theorem append (windowed : Windowed connections log reader) (text : List UInt8)
    (clean : Clean text) : Windowed connections (log.append text clean) reader where
  unconnected := windowed.unconnected
  connected := by
    intro connected
    obtain ⟨earlier, window, counted, shows⟩ := windowed.connected connected
    exact ⟨earlier, window, counted, shows.append text clean⟩

/-- A change of what the goroutine does not look at in its stream. -/
theorem frame (windowed : Windowed connections log reader)
    (emitted : after.emitted = reader.emitted) (first : after.first = reader.first)
    (stream : after.stream = reader.stream)
    (buffer : after.buffer = reader.buffer) (position : after.pc = reader.pc) :
    Windowed connections log after where
  unconnected := by
    rw [first, emitted, position]
    exact windowed.unconnected
  connected := by
    rw [first]
    intro connected
    obtain ⟨earlier, window, counted, shows⟩ := windowed.connected connected
    refine ⟨earlier, window, counted, shows.proceed emitted (congrArg Stream.start stream) ?_⟩
    rw [position]
    have proceeds := shows.proceeds
    unfold Proceeds at proceeds ⊢
    rwa [stream, buffer]

end Windowed

theorem windowed_of_step {connections : Nat} {system after : System} {action : Action}
    (windowed : Windowed connections system.log system.reader)
    (step : system.step action = some after) :
    Windowed (connections + (connects action).toNat) after.log after.reader := by
  cases action with
  | tail move =>
      obtain ⟨reader, taken, rfl⟩ := Option.map_eq_some_iff.mp step
      exact windowed.tailContainer taken
  | log text =>
      simp only [System.step] at step
      split at step
      next clean =>
        cases step
        exact windowed.append text clean
      next => contradiction
  | receive =>
      simp only [System.step] at step
      split at step
      next => contradiction
      next =>
        cases step
        exact windowed.frame rfl rfl rfl rfl rfl
  | expire =>
      cases step
      exact windowed.frame rfl rfl rfl rfl rfl
  | deletePod =>
      cases step
      exact windowed
  | stop =>
      cases step
      unfold ContainerReader.stop
      split
      · exact windowed.frame rfl rfl rfl rfl rfl
      · exact windowed

theorem windowed_start {log : Log} {reader : ContainerReader}
    (started : ContainerReader.newContainerReader.start = .ok reader) :
    Windowed 0 log reader := by
  cases started
  exact ⟨fun _ => ⟨rfl, rfl, id⟩, fun connected => absurd rfl connected⟩

theorem windowed_of_run {log : Log} {reader : ContainerReader} {final : System}
    {schedule : List Action} (started : ContainerReader.newContainerReader.start = .ok reader)
    (ran : run System.step (.create log reader) schedule = some final) :
    Windowed (schedule.countP connects) final.log final.reader := by
  have preserved : ∀ ⦃connections system action after⦄,
      Windowed connections system.log system.reader → System.step system action = some after →
        Windowed (connections + (connects action).toNat) after.log after.reader :=
    fun _ _ _ _ windowed step => windowed_of_step windowed step
  have counted := counted_of_run preserved (windowed_start started) ran
  rwa [Nat.zero_add] at counted

/-- Whatever the streams, the container, the consumer and the pod do, the lines on the channel
are those seen through windows on the log, one for each connection. -/
theorem emitted_windows {log : Log} {reader : ContainerReader} {final : System}
    {schedule : List Action} (started : ContainerReader.newContainerReader.start = .ok reader)
    (ran : run System.step (.create log reader) schedule = some final) :
    final.received ++ final.reader.lines = final.reader.emitted.map contents ∧
      ∃ windows, windows.length = schedule.countP connects ∧
        Seen final.log final.reader.emitted windows := by
  exact ⟨conveys_of_run started ran, (windowed_of_run started ran).exists_seen⟩

/-- The line is on the channel twice, once for each of two windows. -/
theorem emitted_windows_sameLineTwice :
    ∃ reader final windows, ContainerReader.newContainerReader.start = .ok reader ∧
      run System.step (.create .empty reader) sameLineTwice = some final ∧
      final.reader.emitted.length = 2 ∧ windows.length = 2 ∧
      Seen final.log final.reader.emitted windows := by
  obtain ⟨reader, final, started, ran, twice⟩ : ∃ reader final,
      ContainerReader.newContainerReader.start = .ok reader ∧
        run System.step (.create .empty reader) sameLineTwice = some final ∧
        final.reader.emitted.length = 2 := ⟨_, _, rfl, rfl, rfl⟩
  obtain ⟨_, windows, count, seen⟩ := emitted_windows started ran
  exact ⟨reader, final, windows, started, ran, twice, count, seen⟩

/-! ## Missing lines -/

/-- The lines from one to another were put on the channel as a whole. -/
def Covered (system : System) (first last : Nat) : Prop :=
  ∀ index < last, first ≤ index → system.log.line index ∈ system.reader.emitted

instance (system : System) (first last : Nat) : Decidable (Covered system first last) :=
  inferInstanceAs (Decidable (∀ index < last, first ≤ index → _))

/-- A connection is made while the first line that was not put on the channel is among the last
ten. -/
def Gapless (system : System) : Action → Prop
  | .tail .streamOk => ∀ first ∈ system.reader.first,
      Covered system first (system.log.length - tailLines)
  | _ => True

instance Gapless.decidable (system : System) :
    (action : Action) → Decidable (Gapless system action)
  | .tail .streamOk =>
      inferInstanceAs (Decidable (∀ first ∈ system.reader.first,
        Covered system first (system.log.length - tailLines)))
  | .tail .select | .tail .streamFail | .tail .line | .tail (.read _ _) | .tail .put
  | .tail .abort | .tail (.lookup _) => isTrue trivial
  | .log _ | .receive | .expire | .deletePod | .stop => isTrue trivial

/-- The goroutine waits for the next line of an open stream. -/
structure CaughtUp (system : System) : Prop where
  position : system.reader.pc = .readLine
  live : system.reader.stream.ended = false
  drained : system.reader.buffer = []
  silent : system.reader.stream.unread system.log = []

/-- Nothing is missing in front of the current window. -/
def Joined (system : System) : Prop :=
  ∀ first ∈ system.reader.first, Covered system first system.reader.stream.start

theorem Log.index_of_line {log : Log} {index other : Nat} (same : log.line index = log.line other) :
    index = other := by
  have ends := log.newline_mem_line index
  rw [same] at ends
  exact Log.line_of_mem_line ends

/-- What is sent next is not a line in front of the window. -/
theorem Windowed.ne_line {connections : Nat} {log : Log} {reader : ContainerReader}
    (windowed : Windowed connections log reader) {line : List Stamp}
    (position : reader.pc = .send line) {index : Nat} (before : index < reader.stream.start) :
    log.line index ≠ line := by
  obtain ⟨_, earlier, window, _, shows⟩ := windowed.exists_shows (position ▸ trivial)
  have proceeds := shows.proceeds
  rw [position] at proceeds
  rw [← shows.start] at before
  obtain ⟨_, _, ⟨rfl, _⟩ | ⟨_, part, _⟩⟩ := proceeds
  · intro same
    have later := Log.index_of_line same
    unfold Window.next at later
    omega
  · rintro rfl
    exact Bool.noConfusion (part.clean _ (log.newline_mem_line index))

section Steps

variable {connections : Nat} {system after : System}

theorem Covered.mono {first last final : Nat} (covered : Covered system first final)
    (shorter : last ≤ final) : Covered system first last :=
  fun index before later => covered index (Nat.lt_of_lt_of_le before shorter) later

/-- The window of an open stream. -/
theorem start_le_of_windowed (windowed : Windowed connections system.log system.reader)
    (connected : system.reader.first ≠ none) :
    system.reader.stream.start ≤ system.log.length - tailLines := by
  obtain ⟨earlier, window, _, shows⟩ := windowed.connected connected
  rw [← shows.start]
  exact shows.fits.start_le

theorem joined_append_iff (windowed : Windowed connections system.log system.reader)
    {text : List UInt8} {clean : Clean text} :
    Joined { system with log := system.log.append text clean } ↔ Joined system := by
  refine forall₂_congr fun first connected => forall₂_congr fun index before => ?_
  have bound := start_le_of_windowed windowed (by rw [connected]; exact nofun)
  have same : (system.log.append text clean).line index = system.log.line index :=
    Log.line_append (Nat.lt_of_lt_of_le before (Nat.le_trans bound (Nat.sub_le _ _)))
  simp only [same]

theorem joined_put_iff (windowed : Windowed connections system.log system.reader)
    {line : List Stamp} (position : system.reader.pc = .send line) {reader : ContainerReader}
    (emitted : reader.emitted = system.reader.emitted ++ [line])
    (first : reader.first = system.reader.first)
    (stream : reader.stream = system.reader.stream) :
    Joined { system with reader } ↔ Joined system := by
  simp only [Joined, Covered, first, stream, emitted]
  refine forall₂_congr fun first connected => forall₂_congr fun index before => ?_
  have other := windowed.ne_line position before
  simp [other]

theorem joined_streamOk_iff (windowed : Windowed connections system.log system.reader) :
    Joined { system with reader := { system.reader with
        stream := .connect system.log
        buffer := []
        pc := .readLine
        first := system.reader.first.or (some system.log.length) } } ↔
      Gapless system (.tail .streamOk) ∧ Joined system := by
  cases connected : system.reader.first with
  | none =>
      simp only [Joined, Gapless, connected]
      constructor
      · exact fun _ => ⟨nofun, nofun⟩
      · rintro - first ⟨⟩ index before later
        exact absurd before (Nat.not_lt.mpr (Nat.le_trans (Nat.sub_le _ _) later))
  | some first =>
      have bound := start_le_of_windowed windowed (by rw [connected]; exact nofun)
      simp only [Joined, Gapless, connected]
      constructor
      · intro joined
        have covered : Covered system first (system.log.length - tailLines) := joined first rfl
        constructor
        · rintro _ ⟨⟩
          exact covered
        · rintro _ ⟨⟩
          exact covered.mono bound
      · rintro ⟨gapless, _⟩ _ ⟨⟩
        exact gapless first rfl

/-- A step leaves nothing out exactly if it is not a connection that comes too late. -/
theorem joined_iff_of_step {action : Action}
    (windowed : Windowed connections system.log system.reader)
    (step : system.step action = some after) :
    Joined after ↔ Gapless system action ∧ Joined system := by
  rcases System.step_cases step with
    ⟨text, clean, rfl, rfl⟩ | ⟨move, reader, rfl, moves, rfl⟩ |
      ⟨line, rest, rfl, pending, rfl⟩ | ⟨rfl, rfl⟩ | ⟨rfl, rfl⟩ | ⟨rfl, rfl⟩
  · exact (joined_append_iff windowed).trans (and_iff_right trivial).symm
  · cases moves with
    | streamOk => exact joined_streamOk_iff windowed
    | put position =>
        refine Iff.trans ?_ (and_iff_right trivial).symm
        exact joined_put_iff windowed position rfl rfl rfl
    | _ => exact (and_iff_right trivial).symm
  · exact (and_iff_right trivial).symm
  · exact (and_iff_right trivial).symm
  · exact (and_iff_right trivial).symm
  · unfold ContainerReader.stop
    split <;> exact (and_iff_right trivial).symm

theorem forall_mem_linesFrom_iff {first : Nat} :
    (∀ line ∈ system.log.linesFrom first, line ∈ system.reader.emitted) ↔
      Covered system first system.log.length := by
  simp only [Log.linesFrom, List.forall_mem_map, List.mem_range'_1]
  constructor
  · intro all index inside later
    exact all index ⟨later, by omega⟩
  · rintro covered index ⟨later, inside⟩
    exact covered index (by omega) later

/-- Through the current window every line was seen. -/
theorem covered_iff_joined {first : Nat} (windowed : Windowed connections system.log system.reader)
    (connected : system.reader.first = some first) (caughtUp : CaughtUp system) :
    Covered system first system.log.length ↔ Joined system := by
  obtain ⟨position, live, drained, silent⟩ := caughtUp
  obtain ⟨_, earlier, window, _, shows⟩ := windowed.exists_shows (position ▸ trivial)
  have proceeds := shows.proceeds
  rw [position] at proceeds
  rcases proceeds with ⟨_, follows⟩ | ⟨ended, _⟩
  · have behind := follows.rest
    rw [drained, silent] at behind
    have finished : system.log.length ≤ window.next :=
      Log.length_le_of_bytes_eq_nil behind.symm
    constructor
    · rintro covered _ same
      cases connected.symm.trans same
      exact covered.mono (shows.start ▸ Nat.le_trans shows.fits.start_le (Nat.sub_le _ _))
    · intro joined index inside later
      by_cases before : index < system.reader.stream.start
      · exact joined first connected index before later
      · rw [shows.seen.lines]
        refine List.mem_flatMap.mpr ⟨window, List.mem_append_right _ List.mem_cons_self, ?_⟩
        exact Window.mem_lines_of_lt (shows.start ▸ Nat.le_of_not_lt before)
          (Nat.lt_of_lt_of_le inside finished)
  · rw [live] at ended
    contradiction

end Steps

/-- When the reader has caught up with the log, every line since the first connection was put on
the channel exactly if every later connection was made while the first line that was still
missing was one of the last ten. -/
theorem complete_iff_gapless {log : Log} {reader : ContainerReader} {final : System}
    {schedule : List Action} {first : Nat}
    (started : ContainerReader.newContainerReader.start = .ok reader)
    (ran : run System.step (.create log reader) schedule = some final)
    (connected : final.reader.first = some first) (caughtUp : CaughtUp final) :
    (∀ line ∈ final.log.linesFrom first, line ∈ final.reader.emitted) ↔
      Meets System.step Gapless (.create log reader) schedule := by
  rw [forall_mem_linesFrom_iff,
    covered_iff_joined (windowed_of_run started ran) connected caughtUp]
  have preserved : ∀ ⦃system action after⦄,
      (∃ connections, Windowed connections system.log system.reader) →
        System.step system action = some after →
        ∃ connections, Windowed connections after.log after.reader := by
    rintro system action after ⟨connections, windowed⟩ step
    exact ⟨_, windowed_of_step windowed step⟩
  have handed : ∀ ⦃system action after⦄,
      (∃ connections, Windowed connections system.log system.reader) →
        System.step system action = some after →
        (Joined after ↔ Gapless system action ∧ Joined system) := by
    rintro system action after ⟨connections, windowed⟩ step
    exact joined_iff_of_step windowed step
  have initially : Joined (.create log reader) := by
    cases started
    intro first missing
    contradiction
  rw [holds_iff_meets_of_run preserved handed ⟨0, windowed_start started⟩ ran]
  exact and_iff_left initially

/-- No line is missing. -/
theorem complete_iff_gapless_sameLineTwice :
    ∃ reader final, ContainerReader.newContainerReader.start = .ok reader ∧
      run System.step (.create .empty reader) sameLineTwice = some final ∧
      ∀ line ∈ final.log.linesFrom 0, line ∈ final.reader.emitted := by
  obtain ⟨reader, final, started, ran, connected, position, live, drained, silent, met⟩ :
      ∃ reader final, ContainerReader.newContainerReader.start = .ok reader ∧
        run System.step (.create .empty reader) sameLineTwice = some final ∧
        final.reader.first = some 0 ∧ final.reader.pc = .readLine ∧
        final.reader.stream.ended = false ∧ final.reader.buffer = [] ∧
        final.reader.stream.unread final.log = [] ∧
        Meets System.step Gapless (.create .empty reader) sameLineTwice :=
    ⟨_, _, rfl, rfl, rfl, rfl, rfl, rfl, rfl, by decide⟩
  exact ⟨reader, final, started, ran,
    (complete_iff_gapless started ran connected ⟨position, live, drained, silent⟩).mpr met⟩

end Tailpost.Container
