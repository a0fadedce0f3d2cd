import Mathlib.Algebra.Group.Nat.Defs
import Mathlib.Data.List.Basic
import Tailpost.Memory.Channel
import Tailpost.Transition.Stopping

/-!
# The reader of the Windows event log

`readEvents` asks every five seconds for the events behind the last record that it has
sent, and sends them one by one.  It keeps the number of that record itself: an event
counts as read when it is on the channel and not when it was fetched.  An error is sent as
a line of its own if the channel has room for it, and the next question is the same again.

The events come from a source that is a parameter of the loop.  `getLatestEvents` is one
that makes up the next event.
-/

namespace Tailpost.Reader

open Tailpost.Memory
open Tailpost.Transition

/-- An event as the reader knows it. -/
structure WindowsEvent where
  timeCreated : String
  source : String
  eventID : Int
  level : String
  computer : String
  recordID : Int64
  message : String
  deriving DecidableEq

/-- `strings.ReplaceAll` of newlines by blanks. -/
def replaceNewlines (text : String) : String :=
  .ofList (text.toList.map fun c => if c = '\n' then ' ' else c)

/-- The line of an event; its source is printed twice. -/
def WindowsEvent.formatAsLogLine (event : WindowsEvent) : String :=
  "[" ++ event.timeCreated ++ "] " ++ event.source ++ " EventID=" ++ toString event.eventID ++
    " Computer=" ++ event.computer ++ " Provider=" ++ event.source ++ " Level=" ++ event.level ++
    " RecordID=" ++ toString event.recordID.toInt ++ " Message=" ++ replaceNewlines event.message

/-- What the source answers to a question for the events behind a record; the first argument
stands for what it depends on besides. -/
abbrev EventSource (τ : Type) :=
  τ → Int64 → Except String (List WindowsEvent)

/-- The settings of the reader. -/
structure WindowsEventLogReader where
  logName : String
  minLevel : String

/-- An empty name or level takes its default. -/
def newWindowsEventLogReader (logName minLevel : String) : WindowsEventLogReader where
  logName := if logName = "" then "Application" else logName
  minLevel := if minLevel = "" then "Information" else minLevel

/-- The answer depends on the time. -/
def WindowsEventLogReader.getLatestEvents (reader : WindowsEventLogReader) : EventSource String :=
  fun now lastRecord => .ok [{
    timeCreated := now
    source := reader.logName
    eventID := 1000
    level := reader.minLevel
    computer := "localhost"
    recordID := lastRecord + 1
    message := "This is a mock Windows event log entry for testing" }]

/-! ## The loop -/

/-- The capacity of the `Lines` channel. -/
def eventLinesCapacity : Nat :=
  1000

/-- The state of the goroutine. -/
structure EventLoop where
  lastRecord : Int64
  /-- The events of the last answer that were not sent yet. -/
  pending : List WindowsEvent
  lines : Channel String
  /-- The events and errors that were sent. -/
  output : List (Except String WindowsEvent)

namespace EventLoop

/-- The line that is sent for an event or for an error. -/
def text : Except String WindowsEvent → String
  | .ok event => event.formatAsLogLine
  | .error message => "Error reading Windows Event log: " ++ message

/-- The goroutine at its start: no record was seen. -/
def start : EventLoop where
  lastRecord := 0
  pending := []
  lines := .make eventLinesCapacity
  output := []

/-- Send what came out, if the channel has room. -/
def put (loop : EventLoop) (outcome : Except String WindowsEvent) : Option EventLoop :=
  (loop.lines.send (text outcome)).map fun lines =>
    { loop with lines, output := loop.output ++ [outcome] }

/-- The steps of the goroutine. -/
inductive Action (τ : Type)
  /-- The ticker fires, and the source is asked. -/
  | tick (world : τ)
  /-- The next event of the answer is sent. -/
  | send

variable {τ : Type}

/-- The body of the loop of `readEvents`. -/
def readEvents (source : EventSource τ) (loop : EventLoop) : Action τ → Option EventLoop
  | .tick world =>
      if loop.pending = [] then
        match source world loop.lastRecord with
        | .error message => some ((loop.put (.error message)).getD loop)
        | .ok events => some { loop with pending := events }
      else
        none
  | .send =>
      match loop.pending with
      | [] => none
      | event :: rest =>
          (loop.put (.ok event)).map fun sent => { sent with
            pending := rest
            lastRecord :=
              if event.recordID > loop.lastRecord then event.recordID else loop.lastRecord }

/-- What happens around the goroutine. -/
inductive Event
  /-- The consumer receives a line. -/
  | receive

/-- The effect of such an event. -/
def environment (loop : EventLoop) : Event → Option EventLoop
  | .receive => loop.lines.receive.map fun lines => { loop with lines }

/-- Both `select` statements have a case for `stopCh`. -/
def worker (source : EventSource τ) : Worker EventLoop (Action τ) Event where
  work _ := readEvents source
  leaves told _ := told
  cleanUp := id
  environment := environment

/-- The goroutine with its `Stop`. -/
abbrev System :=
  Stopping EventLoop

/-- The steps of the system. -/
abbrev System.Action (τ : Type) :=
  StoppingAction (EventLoop.Action τ) Event

/-- `Stop` needs nobody who receives lines, and no event. -/
theorem stop_returns {source : EventSource τ} {schedule : List (System.Action τ)}
    {system : System}
    (ran : run (Stopping.step (worker source)) (Stopping.start start) schedule = some system)
    (waiting : system.stopper = .waiting) : Stopping.CanReturn (worker source) system :=
  (Stopping.canReturn_iff (Stopping.ordered_of_run ran) waiting).mpr fun _ =>
    Worker.canLeave_of_leaves rfl

/-! ## Record numbers -/

/-- The events have the numbers behind a record, without gaps. -/
def Follow (last : Nat) (events : List WindowsEvent) : Prop :=
  events.map WindowsEvent.recordID = (List.range' (last + 1) events.length).map Int64.ofNat

/-- The source answers with the events that follow. -/
def Consecutive (source : EventSource τ) : Prop :=
  ∀ world last events, last < 2 ^ 63 → source world (Int64.ofNat last) = .ok events →
    Follow last events

theorem follow_nil (last : Nat) : Follow last [] :=
  rfl

theorem follow_cons_iff {last : Nat} {event : WindowsEvent} {events : List WindowsEvent} :
    Follow last (event :: events) ↔
      event.recordID = Int64.ofNat (last + 1) ∧ Follow (last + 1) events := by
  simp only [Follow, List.map_cons, List.length_cons, List.range'_succ, List.cons.injEq]

theorem Follow.concat {last : Nat} {event : WindowsEvent} {events : List WindowsEvent}
    (follow : Follow last events)
    (next : event.recordID = Int64.ofNat (last + events.length + 1)) :
    Follow last (events ++ [event]) := by
  unfold Follow at follow ⊢
  rw [List.map_append, follow, List.length_append, List.length_singleton, List.range'_concat,
    List.map_append, List.map_singleton, List.map_singleton, next, Nat.one_mul,
    Nat.add_right_comm]

theorem consecutive_getLatestEvents (reader : WindowsEventLogReader) :
    Consecutive reader.getLatestEvents := by
  intro now last events _ answered
  cases answered
  exact follow_cons_iff.mpr ⟨(Int64.ofNat_add last 1).symm, follow_nil _⟩

/-- The events that were sent. -/
def events (loop : EventLoop) : List WindowsEvent :=
  loop.output.filterMap Except.toOption

/-- The numbers of records fit into an `int64`. -/
def Few (loop : EventLoop) : Prop :=
  loop.output.length < 2 ^ 63

/-- The events that were sent are the first ones, and those at hand come behind them. -/
structure Numbered (loop : EventLoop) : Prop where
  lastRecord : loop.lastRecord = Int64.ofNat loop.events.length
  sent : Follow 0 loop.events
  pending : Follow loop.events.length loop.pending

/-- What holds of a loop that has started. -/
structure Sound (loop : EventLoop) : Prop where
  lines : loop.lines.sent = loop.output.map text
  numbered : loop.Few → loop.Numbered

theorem sound_start : Sound start where
  lines := rfl
  numbered := fun _ => ⟨rfl, follow_nil 0, follow_nil 0⟩

section Steps

variable {loop next : EventLoop} {outcome : Except String WindowsEvent}

theorem put_eq_some (done : loop.put outcome = some next) :
    ∃ lines, loop.lines.send (text outcome) = some lines ∧
      next = { loop with lines, output := loop.output ++ [outcome] } := by
  obtain ⟨lines, sent, rfl⟩ := Option.map_eq_some_iff.mp done
  exact ⟨lines, sent, rfl⟩

theorem length_events_le (loop : EventLoop) : loop.events.length ≤ loop.output.length :=
  List.length_filterMap_le _ _

/-- An error changes nothing but the output. -/
theorem Sound.report (sound : Sound loop) {message : String}
    (done : loop.put (.error message) = some next) : Sound next := by
  obtain ⟨lines, sent, rfl⟩ := put_eq_some done
  have same : events { loop with lines, output := loop.output ++ [.error message] } =
      loop.events := by
    simp [events, Except.toOption]
  refine ⟨?_, fun few => ?_⟩
  · rw [Channel.sent_send sent, sound.lines, List.map_append, List.map_singleton]
  · have fewer : loop.Few := by
      unfold Few at few ⊢
      rw [List.length_append] at few
      omega
    obtain ⟨lastRecord, first, pending⟩ := sound.numbered fewer
    exact ⟨by rw [same]; exact lastRecord, by rw [same]; exact first,
      by rw [same]; exact pending⟩

/-- An event is the next one. -/
theorem Sound.send (sound : Sound loop) {event : WindowsEvent} {rest : List WindowsEvent}
    (pending : loop.pending = event :: rest) (done : loop.put (.ok event) = some next) :
    Sound { next with
      pending := rest
      lastRecord :=
        if event.recordID > loop.lastRecord then event.recordID else loop.lastRecord } := by
  obtain ⟨lines, sent, rfl⟩ := put_eq_some done
  have more (record : Int64) : events { loop with
      lastRecord := record
      pending := rest
      lines := lines
      output := loop.output ++ [.ok event] } = loop.events ++ [event] := by
    simp [events, Except.toOption]
  refine ⟨?_, fun few => ?_⟩
  · rw [Channel.sent_send sent, sound.lines, List.map_append, List.map_singleton]
  · have bound : loop.output.length + 1 < 2 ^ 63 := by
      simpa [Few] using few
    obtain ⟨lastRecord, first, following⟩ := sound.numbered (Nat.lt_of_succ_lt bound)
    rw [pending, follow_cons_iff] at following
    have inRange : loop.events.length + 1 < 2 ^ 63 :=
      Nat.lt_of_le_of_lt (Nat.succ_le_succ loop.length_events_le) bound
    have newer : event.recordID > loop.lastRecord := by
      rw [following.1, lastRecord]
      exact (Int64.ofNat_lt_iff_lt (Nat.lt_of_succ_lt inRange) inRange).mpr (Nat.lt_succ_self _)
    have length : (loop.events ++ [event]).length = loop.events.length + 1 :=
      List.length_append
    refine ⟨?_, ?_, ?_⟩
    · rw [more, length]
      exact (if_pos newer).trans following.1
    · rw [more]
      refine first.concat ?_
      rw [Nat.zero_add]
      exact following.1
    · rw [more, length]
      exact following.2

theorem Sound.readEvents {source : EventSource τ} (consecutive : Consecutive source)
    (sound : Sound loop) {action : Action τ} (moved : readEvents source loop action = some next) :
    Sound next := by
  cases action with
  | tick world =>
      simp only [EventLoop.readEvents] at moved
      split at moved
      next =>
        split at moved
        next message failed =>
          cases moved
          cases done : loop.put (.error message) with
          | none => exact sound
          | some after => exact sound.report done
        next answer answered =>
          cases moved
          refine ⟨sound.lines, fun few => ?_⟩
          obtain ⟨lastRecord, first, _⟩ := sound.numbered few
          rw [lastRecord] at answered
          exact ⟨lastRecord, first,
            consecutive world _ _ (Nat.lt_of_le_of_lt loop.length_events_le few) answered⟩
      next => contradiction
  | send =>
      simp only [EventLoop.readEvents] at moved
      split at moved
      next => contradiction
      next event rest pending =>
        obtain ⟨sent, done, rfl⟩ := Option.map_eq_some_iff.mp moved
        exact sound.send pending done

theorem Sound.environment (sound : Sound loop) {event : Event}
    (moved : loop.environment event = some next) : Sound next := by
  cases event with
  | receive =>
      obtain ⟨lines, received, rfl⟩ := Option.map_eq_some_iff.mp moved
      refine ⟨(Channel.sent_receive received).trans sound.lines, fun few => ?_⟩
      obtain ⟨lastRecord, first, pending⟩ := sound.numbered few
      exact ⟨lastRecord, first, pending⟩

end Steps

/-- Over every run, with errors of the source, a consumer that comes and goes and a stop at
any time, the lines are the events `1`, `2`, `3` and so on, each of them once and in this
order, and errors in between. -/
theorem events_in_order {source : EventSource τ} (consecutive : Consecutive source)
    {schedule : List (System.Action τ)} {system : System}
    (ran : run (Stopping.step (worker source)) (Stopping.start start) schedule = some system)
    (few : system.state.Few) :
    system.state.lines.sent = system.state.output.map text ∧
      Follow 0 (system.state.output.filterMap Except.toOption) := by
  have receives : ∀ ⦃loop : EventLoop⦄ ⦃event : Event⦄ ⦃next : EventLoop⦄, Sound loop →
      loop.environment event = some next → Sound next :=
    fun _ _ _ sound moved => sound.environment moved
  have sound : Sound system.state :=
    Stopping.invariant_of_worker (fun _ _ _ _ sound moved => sound.readEvents consecutive moved)
      (fun _ sound => sound) receives sound_start ran
  exact ⟨sound.lines, (sound.numbered few).sent⟩

/-- Two events, the first of which was received when the reader is stopped. -/
theorem events_in_order_twoTicks :
    ∃ system, run (Stopping.step (worker (newWindowsEventLogReader "" "").getLatestEvents))
        (Stopping.start start)
        [.work (.tick "09:00:00"), .work .send, .environment .receive, .work (.tick "09:00:05"),
          .work .send, .stop, .stop, .leave] = some system ∧
      system.state.output.length = 2 ∧
      system.state.lines.sent = system.state.output.map text ∧
      Follow 0 (system.state.output.filterMap Except.toOption) := by
  obtain ⟨system, ran, two⟩ : ∃ system,
      run (Stopping.step (worker (newWindowsEventLogReader "" "").getLatestEvents))
        (Stopping.start start)
        [.work (.tick "09:00:00"), .work .send, .environment .receive, .work (.tick "09:00:05"),
          .work .send, .stop, .stop, .leave] = some system ∧ system.state.output.length = 2 :=
    ⟨_, rfl, rfl⟩
  refine ⟨system, ran, two, events_in_order (consecutive_getLatestEvents _) ran ?_⟩
  rw [Few, two]
  decide

end EventLoop

end Tailpost.Reader
