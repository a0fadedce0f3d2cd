import Tailpost.Agent.Refinement

/-!
# One agent after the other

An agent ends with a signal, a crash or its pod, in whatever state it is, and another one is
started on the same file.  Nothing is remembered of the position of the first one: `Start`
seeks to the end of the file.  So every agent has a piece of the file of its own, and no byte
is sent by two of them.  What is written while no agent runs, and what an agent has read and
not dispatched when it ends, is in no piece.
-/

namespace Tailpost.Agent

open Tailpost.Reader
open Tailpost.Sender
open Tailpost.Text
open Tailpost.Transition

/-! ## A host -/

/-- A host on which agents run, one at a time. -/
structure Host where
  /-- The files while no agent runs. -/
  idle : Disk
  agent : Option Pipeline
  /-- The batches that each of the agents before has dispatched. -/
  earlier : List (List (List Line))

/-- What happens on a host. -/
inductive HostAction
  /-- An agent is started, with its configured batch size. -/
  | start (batchSize : Int) (opens seeks : Bool)
  | agent (action : Action)
  /-- The agent is gone. -/
  | die
  /-- A file changes while no agent runs. -/
  | disk (event : DiskEvent)

namespace Host

/-- The files, whether an agent runs or not. -/
def disk (host : Host) : Disk :=
  match host.agent with
  | some agent => agent.disk
  | none => host.idle

/-- The batches that each agent has dispatched so far. -/
def dispatched (host : Host) : List (List (List Line)) :=
  match host.agent with
  | some agent => host.earlier ++ [agent.sender.dispatched]
  | none => host.earlier

/-- One step. An agent starts only where none runs. -/
def step (host : Host) : HostAction → Option Host
  | .start batchSize opens seeks =>
      match host.agent with
      | some _ => none
      | none => (FileReader.start host.idle opens seeks).map fun reader =>
          { host with agent := some (.start host.idle reader batchSize) }
  | .agent action =>
      match host.agent with
      | some agent => (agent.step action).map fun after => { host with agent := some after }
      | none => none
  | .die =>
      match host.agent with
      | some agent => some ⟨agent.disk, none, host.dispatched⟩
      | none => none
  | .disk event =>
      match host.agent with
      | some _ => none
      | none => (host.idle.apply event).map fun disk => { host with idle := disk }

end Host

/-- The event on the disk, if the action is one. -/
def HostAction.diskEvent : HostAction → Option DiskEvent
  | .agent action => action.diskEvent
  | .disk event => some event
  | _ => none

/-! ## Pieces of a file -/

/-- The groups of lines are those of pieces of a text, which lie behind a position and do not
overlap. -/
structure Pieced (base : Nat) (text : List UInt8) (groups : List (List (List UInt8)))
    (pieces : List (Nat × Nat)) : Prop where
  lines : groups = pieces.map fun piece => lines isNewline (part text piece.1 piece.2)
  within : ∀ piece ∈ pieces, base ≤ piece.1 ∧ piece.1 ≤ piece.2 ∧ piece.2 ≤ text.length
  apart : pieces.Pairwise fun first second => first.2 ≤ second.1

namespace Pieced

variable {base : Nat} {text : List UInt8} {groups : List (List (List UInt8))}
  {pieces : List (Nat × Nat)}

theorem nil (base : Nat) (text : List UInt8) : Pieced base text [] [] :=
  ⟨rfl, nofun, .nil⟩

/-- The text may grow. -/
theorem append (pieced : Pieced base text groups pieces) (more : List UInt8) :
    Pieced base (text ++ more) groups pieces where
  lines := by
    rw [pieced.lines]
    apply List.map_congr_left
    intro piece member
    rw [part_append (pieced.within piece member).2.2]
  within := by
    intro piece member
    obtain ⟨behind, order, inside⟩ := pieced.within piece member
    rw [List.length_append]
    exact ⟨behind, order, Nat.le_add_right_of_le inside⟩
  apart := pieced.apart

/-- The first lines behind a position are those of one more piece. -/
theorem concat (pieced : Pieced base text groups pieces) {start : Nat} (behind : base ≤ start)
    (inside : start ≤ text.length) (free : ∀ piece ∈ pieces, piece.2 ≤ start)
    {first : List (List UInt8)} (front : first <+: Text.lines isNewline (text.drop start)) :
    ∃ stop, Pieced base text (groups ++ [first]) (pieces ++ [(start, stop)]) := by
  obtain ⟨count, rfl⟩ := exists_take_lines front
  have bound : start + ((text.drop start).take count).length ≤ text.length := by
    rw [List.length_take, List.length_drop]
    omega
  refine ⟨start + ((text.drop start).take count).length, ?_, ?_, ?_⟩
  · rw [pieced.lines, List.map_append, List.map_singleton, ← take_drop_eq_part]
  · intro piece member
    rcases List.mem_append.mp member with old | new
    · exact pieced.within piece old
    · cases List.mem_singleton.mp new
      exact ⟨behind, Nat.le_add_right _ _, bound⟩
  · refine List.pairwise_append.mpr ⟨pieced.apart, List.pairwise_singleton _ _, ?_⟩
    intro piece old last new
    cases List.mem_singleton.mp new
    exact free piece old

end Pieced

/-! ## Every agent has a piece of its own -/

/-- The texts of the lines in the batches of an agent. -/
def texts (batches : List (List Line)) : List (List UInt8) :=
  batches.flatten.map Line.text

/-- The agents before had their pieces, and the agent that runs follows the file from behind
them. -/
structure Host.Shares (inode generation base : Nat) (pieces : List (Nat × Nat)) (host : Host) :
    Prop where
  named : host.disk.path = some inode
  holds : host.disk.holds inode = generation
  behind : base ≤ (host.disk.contents generation).length
  pieced : Pieced base (host.disk.contents generation) (host.earlier.map texts) pieces
  follows : ∀ agent, host.agent = some agent → Conserves agent ∧
    ∃ start limit, Follows inode generation start limit agent.parts ∧ base ≤ start ∧
      ∀ piece ∈ pieces, piece.2 ≤ start

section Steps

variable {inode generation base limit : Nat} {pieces : List (Nat × Nat)} {host : Host}

/-- The bytes of a file that is followed are kept by every step. -/
theorem Follows.contents {parts after : Parts} {event : Option DiskEvent} {start : Nat}
    (follows : Follows inode generation start limit parts) (moves : parts.Moves event after) :
    ∃ more, after.disk.contents generation = parts.disk.contents generation ++ more := by
  have unchanged : ∃ more, parts.disk.contents generation =
      parts.disk.contents generation ++ more := ⟨[], (List.append_nil _).symm⟩
  cases moves with
  | disk applied => exact Disk.contents_apply follows.current.generation_lt applied
  | tail | send | stop => exact unchanged

namespace Host

/-- While no agent runs, there is nothing to follow. -/
theorem Shares.idle {disk : Disk} {earlier : List (List (List Line))}
    (named : disk.path = some inode) (holds : disk.holds inode = generation)
    (behind : base ≤ (disk.contents generation).length)
    (pieced : Pieced base (disk.contents generation) (earlier.map texts) pieces) :
    Shares inode generation base pieces ⟨disk, none, earlier⟩ := by
  refine ⟨named, holds, behind, pieced, ?_⟩
  intro agent running
  contradiction

/-- With the agent that runs there is one more piece. -/
theorem Shares.dispatched (shares : host.Shares inode generation base pieces) :
    ∃ all, Pieced base (host.disk.contents generation) (host.dispatched.map texts) all := by
  rcases host with ⟨idle, _ | agent, earlier⟩
  · exact ⟨pieces, shares.pieced⟩
  · obtain ⟨conserves, start, limit, follows, behind, free⟩ := shares.follows agent rfl
    have front : texts agent.sender.dispatched <+:
        lines isNewline ((agent.disk.contents generation).drop start) :=
      (conserves.front.map Line.text).trans (isPrefix_emitted follows.current)
    obtain ⟨stop, more⟩ := shares.pieced.concat behind (base_le_contents follows.current)
      free front
    refine ⟨pieces ++ [(start, stop)], ?_⟩
    rw [Host.dispatched, List.map_append, List.map_singleton]
    exact more

section Idle

variable {disk : Disk} {earlier : List (List (List Line))}

/-- The next agent begins where the file ends, behind all pieces. -/
theorem Shares.start {opens seeks : Bool} {reader : FileReader}
    (shares : Shares inode generation base pieces ⟨disk, none, earlier⟩)
    (started : FileReader.start disk opens seeks = some reader) (batchSize : Int) :
    Shares inode generation base pieces
      ⟨disk, some (.start disk reader batchSize), earlier⟩ := by
  refine ⟨shares.named, shares.holds, shares.behind, shares.pieced, ?_⟩
  intro agent running
  cases Option.some.inj running
  have holds : disk.holds inode = generation := shares.holds
  obtain ⟨opened, path, follows, _⟩ := follows_start started batchSize
  cases Option.some.inj (shares.named.symm.trans path)
  rw [Disk.size, holds] at follows
  exact ⟨conserves_start started batchSize, _, _, follows, shares.behind,
    fun piece member => (shares.pieced.within piece member).2.2⟩

/-- The file may grow while no agent runs. -/
theorem Shares.apply {event : DiskEvent} {after : Disk}
    (shares : Shares inode generation base pieces ⟨disk, none, earlier⟩)
    (appendsOnly : AppendsOnly (some event)) (applied : disk.apply event = some after) :
    Shares inode generation base pieces ⟨after, none, earlier⟩ := by
  have named : disk.path = some inode := shares.named
  have holds : disk.holds inode = generation := shares.holds
  have used : generation < disk.generations := by
    rw [← holds]
    exact disk.holds_lt inode (disk.path_lt inode named)
  obtain ⟨more, extended⟩ := Disk.contents_apply used applied
  have behind : base ≤ (after.contents generation).length := by
    rw [extended, List.length_append]
    exact Nat.le_add_right_of_le shares.behind
  have pieced : Pieced base (after.contents generation) (earlier.map texts) pieces := by
    rw [extended]
    exact shares.pieced.append more
  rcases Disk.apply_cases applied with
    ⟨_, _, rfl, _, rfl⟩ | ⟨rfl, _⟩ | ⟨rfl, _⟩ | ⟨_, rfl, _⟩
  · exact .idle named holds behind pieced
  all_goals contradiction

end Idle

/-- The agent goes on behind the pieces of those before it. -/
theorem Shares.agent {idle : Disk} {agent after : Pipeline} {earlier : List (List (List Line))}
    {action : Action} (shares : Shares inode generation base pieces ⟨idle, some agent, earlier⟩)
    (appendsOnly : AppendsOnly action.diskEvent) (stepped : agent.step action = some after) :
    Shares inode generation base pieces ⟨idle, some after, earlier⟩ := by
  obtain ⟨conserves, start, limit, follows, behind, free⟩ := shares.follows agent rfl
  obtain ⟨conserved, followed⟩ := (pipeline_refines inode generation start limit).preserved
    ⟨conserves, follows⟩ appendsOnly stepped
  obtain ⟨more, extended⟩ := follows.contents (Pipeline.parts_of_step stepped)
  have pieced : Pieced base (after.disk.contents generation) (earlier.map texts) pieces := by
    rw [show after.disk.contents generation = _ from extended]
    exact shares.pieced.append more
  refine ⟨followed.named, followed.current.holds, ?_, pieced, ?_⟩
  · exact behind.trans (base_le_contents followed.current)
  · intro running same
    cases Option.some.inj same
    exact ⟨conserved, start, limit, followed, behind, free⟩

/-- Whatever happens on the host, the agents keep to their pieces. -/
theorem shares_of_step {action : HostAction} {after : Host}
    (shares : host.Shares inode generation base pieces) (appendsOnly : AppendsOnly action.diskEvent)
    (taken : host.step action = some after) :
    ∃ pieces, after.Shares inode generation base pieces := by
  rcases host with ⟨idle, _ | agent, earlier⟩
  · cases action with
    | start batchSize opens seeks =>
        obtain ⟨reader, started, rfl⟩ := Option.map_eq_some_iff.mp taken
        exact ⟨pieces, shares.start started batchSize⟩
    | disk event =>
        obtain ⟨disk, applied, rfl⟩ := Option.map_eq_some_iff.mp taken
        exact ⟨pieces, shares.apply appendsOnly applied⟩
    | agent | die => contradiction
  · cases action with
    | agent action =>
        obtain ⟨later, stepped, rfl⟩ := Option.map_eq_some_iff.mp taken
        exact ⟨pieces, shares.agent appendsOnly stepped⟩
    | die =>
        -- the piece of the agent is complete
        obtain ⟨all, pieced⟩ := shares.dispatched
        cases taken
        exact ⟨all, .idle shares.named shares.holds shares.behind pieced⟩
    | start | disk => contradiction

end Host

end Steps

/-- However many agents run on a file that is only appended to, one after the other, and
wherever each of them ends, each has dispatched the lines of a piece of the file.  The pieces
are ascending and do not overlap. -/
theorem lifetimes_pieced {disk : Disk} {initial : List UInt8} {schedule : List HostAction}
    {final : Host} (present : disk.fileAtPath = some initial)
    (appendsOnly : ∀ action ∈ schedule, AppendsOnly action.diskEvent)
    (ran : run Host.step ⟨disk, none, []⟩ schedule = some final) :
    ∃ content pieces, final.disk.fileAtPath = some content ∧
      Pieced initial.length content (final.dispatched.map texts) pieces := by
  obtain ⟨inode, named, rfl⟩ := Option.map_eq_some_iff.mp present
  have preserved : ∀ ⦃host : Host⦄ ⦃action : HostAction⦄ ⦃after : Host⦄,
      (∃ pieces, host.Shares inode (disk.holds inode) (disk.size inode) pieces) →
      AppendsOnly action.diskEvent → host.step action = some after →
      ∃ pieces, after.Shares inode (disk.holds inode) (disk.size inode) pieces := by
    rintro host action after ⟨pieces, shares⟩ appends taken
    exact Host.shares_of_step shares appends taken
  obtain ⟨_, shares⟩ := invariant_of_run preserved
    ⟨[], .idle named rfl (Nat.le_refl _) (Pieced.nil _ _)⟩
    (meets_of_forall_mem _ appendsOnly) ran
  obtain ⟨pieces, pieced⟩ := shares.dispatched
  refine ⟨_, pieces, ?_, pieced⟩
  rw [fileAtPath_of_path shares.named, shares.holds]

/-- The steps by which a line is read, received and sent with batch size one. -/
def oneLine : List HostAction :=
  [.agent (.tail .select), .agent (.tail (.fill 4096)), .agent (.tail .line), .agent (.tail .put),
    .agent .receive, .agent .process, .agent .process, .agent .process, .agent .process]

/-- The line that is written between two agents is sent by neither. -/
theorem lifetimes_pieced_twoAgents :
    ∃ final content pieces,
      run Host.step ⟨Disk.single [120], none, []⟩
        ([.start 0 true true, .agent (.disk (.append 0 [97, 10]))] ++ oneLine ++
          [.die, .disk (.append 0 [98, 10]), .start 0 true true,
            .agent (.disk (.append 0 [99, 10]))] ++ oneLine) = some final ∧
      final.disk.fileAtPath = some content ∧
      Pieced 1 content (final.dispatched.map texts) pieces ∧
      final.dispatched.map texts = [[[97]], [[99]]] := by
  rcases lifetimes_pieced (rfl : (Disk.single [120]).fileAtPath = some _)
    (by simp [oneLine, HostAction.diskEvent, Action.diskEvent, AppendsOnly])
    (rfl : run Host.step ⟨Disk.single [120], none, []⟩
      ([.start 0 true true, .agent (.disk (.append 0 [97, 10]))] ++ oneLine ++
        [.die, .disk (.append 0 [98, 10]), .start 0 true true,
          .agent (.disk (.append 0 [99, 10]))] ++ oneLine) = some _) with
    ⟨content, pieces, contentEq, pieced⟩
  exact ⟨_, content, pieces, rfl, contentEq, pieced, rfl⟩

end Tailpost.Agent
