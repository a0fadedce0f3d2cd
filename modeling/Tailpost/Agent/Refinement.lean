import Tailpost.Agent.Relay
import Tailpost.Agent.Shutdown
import Tailpost.Reader.Tailing
import Tailpost.Transition.Simulation

/-!
# The agent refines a relay

On a file that is only appended to, the disk, the tail goroutine, the `Lines` channel,
the processing goroutine, the batch under its mutex and `flushLoop` together behave as
a relay.  The lines that come in are those the file gets behind the position where the
reader started; the batches that go out are those handed to `sendBatchWithContext`.
All other steps, the ones of the shutdown sequence included, do not show.
-/

namespace Tailpost.Agent

open Tailpost.Reader
open Tailpost.Sender
open Tailpost.Text
open Tailpost.Transition

/-! ## What is seen of the parts -/

/-- The parts that lines pass through. -/
structure Parts where
  disk : Disk
  reader : FileReader
  sender : HTTPSender Line

/-- What one step of an agent can do to its parts, by the event on the disk if
there is one.  A step that takes a line off the channel also moves the sender. -/
inductive Parts.Moves (parts : Parts) :
    Option DiskEvent → Parts → Prop
  | disk {event : DiskEvent} {disk : Disk} : parts.disk.apply event = some disk →
      Moves parts (some event) { parts with disk }
  | tail {action : TailStep} {reader : FileReader} :
      Reader.Moves parts.disk parts.reader action reader →
      Moves parts none { parts with reader }
  | send (lines : List Line) {action : Sender.Action Line} {sender : HTTPSender Line} :
      HTTPSender.Moves parts.sender action sender →
      Moves parts none
        { parts with reader := { parts.reader with lines }, sender }
  | stop (stopCh : Bool) :
      Moves parts none { parts with reader := { parts.reader with stopCh } }

/-- The lines of a generation behind a position, and the batches dispatched. -/
def seen (generation base : Nat) (parts : Parts) : Relay (List UInt8) where
  source := lines isNewline ((parts.disk.contents generation).drop base)
  batches := parts.sender.dispatched.map (List.map Line.text)

/-- The parts follow the file at the path; what was dispatched was emitted before. -/
structure Follows (inode generation base limit : Nat) (parts : Parts) : Prop where
  named : parts.disk.path = some inode
  current : Current inode generation base [] parts.disk parts.reader
  partitions : parts.sender.Partitions
  size : parts.sender.batchSize ≤ limit
  front : parts.sender.dispatched.flatten <+: parts.reader.emitted

section Steps

variable {inode generation base limit : Nat} {parts after : Parts}

/-- The reader started within the file. -/
theorem base_le_contents {disk : Disk} {reader : FileReader}
    (current : Current inode generation base [] disk reader) :
    base ≤ (disk.contents generation).length := by
  simpa using current.base_le.trans current.offset_le

/-- An event on the disk shows as lines that come in, possibly none. -/
theorem seen_apply {event : DiskEvent} {disk : Disk} (limit : Nat)
    (current : Current inode generation base [] parts.disk parts.reader)
    (applied : parts.disk.apply event = some disk) :
    ∃ reaction, (seen generation base parts).step limit reaction =
      some (seen generation base { parts with disk }) := by
  obtain ⟨more, extended⟩ := Disk.contents_apply current.generation_lt applied
  obtain ⟨rest, grown⟩ :=
    lines_prefix_append isNewline ((parts.disk.contents generation).drop base) more
  refine ⟨.write rest, ?_⟩
  rw [Relay.step, seen, seen, extended, List.drop_append_of_le_length (base_le_contents current),
    ← grown]

/-- What was emitted, as texts, is a front part of the lines that came in. -/
theorem isPrefix_emitted {disk : Disk} {reader : FileReader}
    (current : Current inode generation base [] disk reader) :
    reader.emitted.map Line.text <+:
      lines isNewline ((disk.contents generation).drop base) := by
  have inFile : reader.offset ≤ (disk.contents generation).length := by
    simpa using current.offset_le
  have delivered := congrArg (List.map Line.text) current.delivered
  rw [List.map_append, List.nil_append, text_lines_part] at delivered
  rw [lines_drop current.base_le inFile (closed_contents current.closed), ← delivered]
  exact (List.prefix_append _ _).trans (List.prefix_append _ _)

/-- A step of the sender dispatches the whole batch or nothing. -/
theorem dispatched_cases {sender after : HTTPSender Line} {action : Sender.Action Line}
    (moves : HTTPSender.Moves sender action after) :
    after.dispatched = sender.dispatched ∨
      after.dispatched = sender.dispatched ++ [sender.batch] := by
  cases moves with
  | append => exact Or.inl (Batches.dispatched_append _ _)
  | deliver => exact Or.inl (Batches.dispatched_finish _ _)
  | sendFlush | loopFlush =>
      by_cases nothing : sender.batch = []
      · exact Or.inl (congrArg Batches.dispatched (Batches.flushLockedWithContext_of_nil nothing))
      · exact Or.inr (Batches.dispatched_flushLockedWithContext nothing)
  | _ => exact Or.inl rfl

/-- A step of the sender shows as a dispatch or not at all. -/
theorem seen_sender {action : Sender.Action Line}
    (follows : Follows inode generation base limit after)
    (disk : after.disk = parts.disk)
    (moves : HTTPSender.Moves parts.sender action after.sender) :
    seen generation base after = seen generation base parts ∨
      ∃ reaction, (seen generation base parts).step limit reaction =
        some (seen generation base after) := by
  rcases dispatched_cases moves with same | grown
  · exact Or.inl (by rw [seen, seen, same, disk])
  · right
    have sizes := follows.partitions.sizes parts.sender.batch (by
      rw [show after.sender.batches.dispatched = _ from grown]
      exact List.mem_append_right _ (List.mem_singleton_self _))
    have front := (follows.front.map Line.text).trans (isPrefix_emitted follows.current)
    rw [List.map_flatten, grown, disk] at front
    refine ⟨.dispatch (parts.sender.batch.map Line.text).length, ?_⟩
    rw [Relay.step_dispatch]
    · rw [seen, seen, grown, disk, List.map_append, List.map_singleton]
    · simpa using sizes.1
    · have := follows.size
      rw [List.length_map]
      omega
    · simpa only [seen, List.map_append, List.map_singleton] using front

/-- The file is only appended to. -/
def AppendsOnly : Option DiskEvent → Prop
  | none | some (.append _ _) => True
  | some _ => False

/-- The reader keeps following the file, whichever component moves. -/
theorem Follows.moves {event : Option DiskEvent}
    (follows : Follows inode generation base limit parts) (appendsOnly : AppendsOnly event)
    (moves : parts.Moves event after) (partitions : after.sender.Partitions)
    (front : after.sender.dispatched.flatten <+: after.reader.emitted) :
    Follows inode generation base limit after := by
  have current := follows.current
  cases moves with
  | @disk event disk applied =>
      rcases Disk.apply_cases applied with
        ⟨_, _, rfl, _, rfl⟩ | ⟨rfl, _⟩ | ⟨rfl, _⟩ | ⟨_, rfl, _⟩
      · exact { follows with
          front
          partitions
          current := current.disk DiskEvent.noConfusion applied }
      all_goals contradiction
  | tail moves =>
      exact { follows with
        front
        partitions
        current := current.tail (fun _ => follows.named) moves }
  | send _ moves =>
      exact { follows with
        front
        partitions
        current := { current with }
        size := by
          rw [HTTPSender.batchSize_of_moves moves]
          exact follows.size }
  | stop => exact { follows with front, partitions, current := { current with } }

theorem fileAtPath_of_path {disk : Disk} (named : disk.path = some inode) :
    disk.fileAtPath = some (disk.contents (disk.holds inode)) := by
  rw [Disk.fileAtPath, named]
  rfl

/-- The file at the path is the generation that the reader follows. -/
theorem Follows.fileAtPath (follows : Follows inode generation base limit parts) :
    parts.disk.fileAtPath = some (parts.disk.contents generation) := by
  rw [fileAtPath_of_path follows.named, follows.current.holds]

/-- Whichever component moves, it shows as a step of the relay or not at all. -/
theorem Follows.shows {event : Option DiskEvent}
    (follows : Follows inode generation base limit parts)
    (followsAfter : Follows inode generation base limit after)
    (moves : parts.Moves event after) :
    seen generation base after = seen generation base parts ∨
      ∃ reaction, (seen generation base parts).step limit reaction =
        some (seen generation base after) := by
  cases moves with
  | disk applied => exact Or.inr (seen_apply limit follows.current applied)
  | send _ moves => exact seen_sender followsAfter rfl moves
  | tail | stop => exact Or.inl rfl

end Steps

/-! ## `cmd/agent.go` -/

/-- The event on the disk, if the action is one. -/
def Action.diskEvent : Action → Option DiskEvent
  | .disk event => some event
  | _ => none

namespace Pipeline

/-- The file, the reader and the sender of an agent. -/
def parts (agent : Pipeline) : Parts :=
  ⟨agent.disk, agent.reader, agent.sender⟩

theorem parts_of_senderStep {agent after : Pipeline} {action : Sender.Action Line}
    (taken : agent.senderStep action = some after) :
    agent.parts.Moves none after.parts := by
  rcases moves_of_senderStep taken with ⟨sender, moves, rfl⟩
  exact .send agent.reader.lines moves

theorem parts_of_mainStep {agent after : Pipeline} (taken : agent.mainStep = some after) :
    agent.parts.Moves none after.parts := by
  have unmoved : agent.parts.Moves none agent.parts := .stop agent.reader.stopCh
  unfold mainStep at taken
  split at taken
  case h_1 | h_2 =>
    cases taken
    exact unmoved
  case h_3 =>
    rcases moves_of_senderStep taken with ⟨sender, moves, rfl⟩
    exact .send agent.reader.lines moves
  case h_4 =>
    split at taken
    next =>
      cases taken
      exact unmoved
    next => exact parts_of_senderStep taken
  case h_5 =>
    split at taken
    next => contradiction
    next =>
      cases taken
      exact .stop true
  case h_6 | h_7 =>
    split at taken
    next =>
      cases taken
      exact unmoved
    next => contradiction
  case h_8 => contradiction

/-- A step moves the parts in one of the ways above, if it moves them. -/
theorem parts_of_step {agent after : Pipeline} {action : Action}
    (taken : agent.step action = some after) :
    agent.parts.Moves action.diskEvent after.parts := by
  have unmoved : agent.parts.Moves none agent.parts := .stop agent.reader.stopCh
  cases action with
  | disk event =>
      rcases Option.map_eq_some_iff.mp taken with ⟨disk, applied, rfl⟩
      exact .disk applied
  | tail action =>
      rcases Option.map_eq_some_iff.mp taken with ⟨reader, stepped, rfl⟩
      exact .tail (moves_of_tailFile stepped)
  | tick | quit | flush | deliver => exact parts_of_senderStep taken
  | main => exact parts_of_mainStep taken
  | receive =>
      simp only [step] at taken
      split at taken
      next line rest position available =>
        rcases moves_of_senderStep taken with ⟨sender, moves, rfl⟩
        exact .send rest moves
      next => contradiction
  | process =>
      simp only [step] at taken
      split at taken
      next =>
        cases taken
        exact unmoved
      next => exact parts_of_senderStep taken
      next => contradiction
  | ctxDone | timeout =>
      simp only [step] at taken
      split at taken
      next =>
        cases taken
        exact unmoved
      next => contradiction

end Pipeline

/-- The agent refines a relay whose batches are limited by the sender's batch size. -/
theorem pipeline_refines (inode generation base limit : Nat) :
    Refines Pipeline.step (fun _ action => AppendsOnly action.diskEvent)
      (fun agent => Conserves agent ∧ Follows inode generation base limit agent.parts)
      (Relay.step limit) (fun _ => True) (fun agent => seen generation base agent.parts) := by
  constructor
  · rintro agent action after ⟨conserves, follows⟩ appendsOnly taken
    have conserved := conserves_of_moves conserves (Pipeline.moves_of_step taken)
    exact ⟨conserved, follows.moves appendsOnly (Pipeline.parts_of_step taken)
      conserved.serves.partitions conserved.front⟩
  · rintro agent action after ⟨conserves, follows⟩ appendsOnly taken
    have moves := Pipeline.parts_of_step taken
    have conserved := conserves_of_moves conserves (Pipeline.moves_of_step taken)
    have shown := follows.shows (follows.moves appendsOnly moves conserved.serves.partitions
      conserved.front) moves
    exact shown.imp_right fun ⟨reaction, stepped⟩ => ⟨reaction, trivial, stepped⟩

/-- Right after `Start` nothing has come in. -/
theorem follows_start {disk : Disk} {opens seeks : Bool} {reader : FileReader}
    (started : FileReader.start disk opens seeks = some reader) (batchSize : Int) :
    ∃ inode, disk.path = some inode ∧
      Follows inode (disk.holds inode) (disk.size inode)
        (HTTPSender.effectiveBatchSize batchSize).toNat
        (Pipeline.start disk reader batchSize).parts ∧
      seen (disk.holds inode) (disk.size inode)
        (Pipeline.start disk reader batchSize).parts = .empty := by
  have conserves := conserves_start started batchSize
  obtain ⟨inode, named, startsAt, current⟩ := current_start started
  rw [startsAt] at current
  refine ⟨inode, named, ⟨named, current, conserves.serves.partitions, ?_, conserves.front⟩, ?_⟩
  · exact Int.self_le_toNat _
  · have nothing : (Pipeline.start disk reader batchSize).parts.sender.dispatched = [] :=
      Batches.dispatched_empty _
    rw [seen, nothing]
    simp [Pipeline.parts, Pipeline.start, Disk.size, Relay.empty]

/-- A relay is seen of every run on a file that is only appended to. -/
theorem seen_of_run {disk : Disk} {opens seeks : Bool} {reader : FileReader}
    {batchSize : Int} {schedule : List Action} {final : Pipeline}
    (started : FileReader.start disk opens seeks = some reader)
    (appendsOnly : ∀ action ∈ schedule, AppendsOnly action.diskEvent)
    (ran : run Pipeline.step (Pipeline.start disk reader batchSize) schedule = some final) :
    ∃ inode, disk.path = some inode ∧
      Follows inode (disk.holds inode) (disk.size inode)
        (HTTPSender.effectiveBatchSize batchSize).toNat final.parts ∧
      Reaches (Relay.step (HTTPSender.effectiveBatchSize batchSize).toNat) (fun _ => True)
        .empty (seen (disk.holds inode) (disk.size inode) final.parts) := by
  obtain ⟨inode, named, follows, nothing⟩ := follows_start started batchSize
  obtain ⟨⟨_, followsFinal⟩, reaches⟩ :=
    (pipeline_refines inode (disk.holds inode) (disk.size inode) _).reaches
      ⟨conserves_start started batchSize, follows⟩
      (meets_of_forall_mem _ appendsOnly) ran
  rw [nothing] at reaches
  exact ⟨inode, named, followsFinal, reaches⟩

/-- On a file that is only appended to, whatever fails and whenever the signal comes, the
agent is a relay: the batches handed to `sendBatchWithContext` carry the lines that the
file got since the start, in order and without gaps or repetitions, and each holds between
one line and the batch size. -/
theorem agent_refines_relay {disk : Disk} {opens seeks : Bool} {reader : FileReader}
    {batchSize : Int} {schedule : List Action} {final : Pipeline}
    (started : FileReader.start disk opens seeks = some reader)
    (appendsOnly : ∀ action ∈ schedule, AppendsOnly action.diskEvent)
    (ran : run Pipeline.step (Pipeline.start disk reader batchSize) schedule = some final) :
    ∃ initial content, disk.fileAtPath = some initial ∧
      final.disk.fileAtPath = some content ∧
      Reaches (Relay.step (HTTPSender.effectiveBatchSize batchSize).toNat) (fun _ => True)
        .empty
        { source := lines isNewline (content.drop initial.length)
          batches := final.sender.dispatched.map (List.map Line.text) } := by
  obtain ⟨inode, named, follows, reaches⟩ := seen_of_run started appendsOnly ran
  exact ⟨_, _, fileAtPath_of_path named, follows.fileAtPath, reaches⟩

/-- Three lines are appended, read, received and sent; a tick flushes the last one. -/
def twoBatches : List Action :=
  [.disk (.append 0 [97, 10, 98, 10, 99, 10]), .tail .select, .tail (.fill 4096), .tail .line,
    .tail .put, .tail .select, .tail .line, .tail .put, .tail .select, .tail .line, .tail .put,
    .receive, .process, .process, .process, .process, .process,
    .receive, .process, .process, .process, .process, .process, .process,
    .receive, .process, .process, .process, .process, .process,
    .tick, .flush, .flush, .flush]

/-- With batch size two, the relay has passed on a full batch and the rest. -/
theorem agent_refines_relay_twoBatches :
    ∃ reader final content,
      FileReader.start (Disk.single [120]) true true = some reader ∧
      run Pipeline.step (Pipeline.start (Disk.single [120]) reader 2) twoBatches = some final ∧
      final.disk.fileAtPath = some content ∧
      Reaches (Relay.step 2) (fun _ => True) .empty
        { source := lines isNewline (content.drop 1)
          batches := final.sender.dispatched.map (List.map Line.text) } ∧
      final.sender.dispatched.map (List.map Line.text) = [[[97], [98]], [[99]]] := by
  rcases agent_refines_relay
    (rfl : FileReader.start (Disk.single [120]) true true = some _)
    (by simp [twoBatches, Action.diskEvent, AppendsOnly])
    (rfl : run Pipeline.step (Pipeline.start (Disk.single [120]) _ 2) twoBatches = some _) with
    ⟨initial, content, initialEq, contentEq, reaches⟩
  cases initialEq
  cases contentEq
  exact ⟨_, _, _, rfl, rfl, rfl, reaches, rfl⟩

end Tailpost.Agent
