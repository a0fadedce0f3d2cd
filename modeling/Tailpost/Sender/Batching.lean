import Tailpost.Sender.HTTPSender

/-!
# Batching partitions the accepted lines

The mutex makes the critical sections exclusive, so the shared batch is only
ever half-way through the section of its holder.  The invariant therefore reads
the holder's program counter: between taking the lock and appending, one
accepted line is not in the batch yet; between appending and flushing, the batch
may be full.
-/

namespace Tailpost.Sender

open Tailpost.Transition

universe u

variable {α : Type u}

/-! ## Mutual exclusion -/

/-- The program counters at which a caller holds the lock. -/
def CallerPc.Critical : CallerPc α → Prop
  | .append _ | .check | .flush | .sendUnlock | .select | .stopUnlock _ => True
  | _ => False

/-- The program counters at which `flushLoop` holds the lock. -/
def LoopPc.Critical : LoopPc → Prop
  | .flush _ | .unlock _ => True
  | _ => False

/-- Exactly the holder of the lock is in a critical section. -/
structure Exclusive (lock : Option Holder) (callers : Nat → CallerPc α)
    (loop : LoopPc) : Prop where
  callers : ∀ id, (callers id).Critical ↔ lock = some (.caller id)
  loop : loop.Critical ↔ lock = some .flushLoop

namespace Exclusive

variable {lock : Option Holder} {callers : Nat → CallerPc α} {loop : LoopPc}

/-- One caller moves and the lock changes hands, both in step. -/
theorem update {after : Option Holder} {id : Nat} {pc : CallerPc α}
    (moved : pc.Critical ↔ after = some (.caller id))
    (others : ∀ other ≠ id, (callers other).Critical ↔ after = some (.caller other))
    (flushLoop : loop.Critical ↔ after = some .flushLoop) :
    Exclusive after (Function.update callers id pc) loop := by
  constructor
  · exact (Function.forall_update_iff callers
      fun other pc => pc.Critical ↔ after = some (.caller other)).mpr ⟨moved, others⟩
  · exact flushLoop

/-- A caller moves within its critical section, or outside. -/
theorem move (exclusive : Exclusive lock callers loop) {id : Nat} {pc : CallerPc α}
    (same : pc.Critical ↔ (callers id).Critical) :
    Exclusive lock (Function.update callers id pc) loop := by
  apply update (same.trans (exclusive.callers id)) _ exclusive.loop
  intro other _
  exact exclusive.callers other

/-- A caller takes the free lock. -/
theorem acquire (exclusive : Exclusive none callers loop) {id : Nat} {pc : CallerPc α}
    (critical : pc.Critical) :
    Exclusive (some (.caller id)) (Function.update callers id pc) loop := by
  apply update
  · simpa using critical
  · intro other apart
    simpa [apart.symm] using exclusive.callers other
  · simpa using exclusive.loop

/-- A caller gives the lock back. -/
theorem release (exclusive : Exclusive lock callers loop) {id : Nat} {pc : CallerPc α}
    (critical : (callers id).Critical) (outside : ¬ pc.Critical) :
    Exclusive none (Function.update callers id pc) loop := by
  have held := (exclusive.callers id).mp critical
  subst held
  apply update
  · simpa using outside
  · intro other apart
    simpa [apart.symm] using exclusive.callers other
  · simpa using exclusive.loop

/-- `flushLoop` moves within its critical section, or outside. -/
theorem moveLoop (exclusive : Exclusive lock callers loop) {pc : LoopPc}
    (same : pc.Critical ↔ loop.Critical) : Exclusive lock callers pc :=
  ⟨exclusive.callers, same.trans exclusive.loop⟩

theorem acquireLoop (exclusive : Exclusive none callers loop) {pc : LoopPc}
    (critical : pc.Critical) : Exclusive (some .flushLoop) callers pc := by
  constructor
  · simpa using exclusive.callers
  · simpa using critical

theorem releaseLoop (exclusive : Exclusive lock callers loop) {pc : LoopPc}
    (critical : loop.Critical) (outside : ¬ pc.Critical) : Exclusive none callers pc := by
  have held := exclusive.loop.mp critical
  subst held
  constructor
  · simpa using exclusive.callers
  · simpa using outside

end Exclusive

namespace HTTPSender

variable [Inhabited α]

/-- Every step keeps the critical sections exclusive. -/
theorem exclusive_of_moves {sender after : HTTPSender α} {action : Action α}
    (exclusive : Exclusive sender.lock sender.callers sender.loop)
    (moves : Moves sender action after) :
    Exclusive after.lock after.callers after.loop := by
  cases moves with
  | callSend position | callStop position | append position | full position _
  | room position _ | sendFlush position | stopAgain position _ | stopClose position _
  | stopReturn position _ =>
      exact exclusive.move (by simp [position, CallerPc.Critical])
  | sendLock position free | stopLock position free =>
      rw [free] at exclusive
      exact exclusive.acquire trivial
  | sendUnlock position =>
      exact exclusive.release (by simp [position, CallerPc.Critical]) id
  | @stopUnlock _ closed position =>
      refine exclusive.release (by simp [position, CallerPc.Critical]) ?_
      cases closed <;> exact id
  | start position | tick position | quit position _ | loopFlush position
  | loopClose position =>
      exact exclusive.moveLoop (by simp [position, LoopPc.Critical])
  | loopLock position free =>
      rw [free] at exclusive
      exact exclusive.acquireLoop trivial
  | @loopUnlock deferred position =>
      refine exclusive.releaseLoop (by simp [position, LoopPc.Critical]) ?_
      cases deferred <;> exact id
  | deliver => exact exclusive

theorem exclusive_create (batchSize : Int) :
    Exclusive (create batchSize : HTTPSender α).lock (create batchSize : HTTPSender α).callers
      (create batchSize : HTTPSender α).loop := by
  constructor <;> simp [create, CallerPc.Critical, LoopPc.Critical]

end HTTPSender

/-! ## The batch as its holder sees it -/

/-- The program counter of the caller that holds the lock, if one does. -/
def HTTPSender.holderPc (sender : HTTPSender α) : Option (CallerPc α) :=
  match sender.lock with
  | some (.caller id) => some (sender.callers id)
  | _ => none

/-- A line that was accepted and is not in the batch yet. -/
def entering : Option (CallerPc α) → List α
  | some (.append line) => [line]
  | _ => []

@[simp]
theorem entering_none : entering (none : Option (CallerPc α)) = [] :=
  rfl

/-- By how much the batch may exceed its usual bound. -/
def slack : Option (CallerPc α) → Int
  | some .check | some .flush => 1
  | _ => 0

/-- Every accepted line is in a dispatched batch, in the batch under construction,
or about to enter it. -/
def Flow (batches : Batches α) (accepted : List α) (holder : Option (CallerPc α)) : Prop :=
  batches.dispatched.flatten ++ batches.lines ++ entering holder = accepted

/-- What was dispatched was accepted before. -/
theorem Flow.isPrefix {batches : Batches α} {accepted : List α} {holder : Option (CallerPc α)}
    (flow : Flow batches accepted holder) : batches.dispatched.flatten <+: accepted := by
  rw [Flow, List.append_assoc] at flow
  exact ⟨_, flow⟩

/-- The batches dispatched so far and the batch under construction partition the
accepted lines, given where the holder of the lock is. -/
structure Balanced (batchSize : Int) (batches : Batches α) (accepted : List α)
    (holder : Option (CallerPc α)) : Prop where
  positive : 1 ≤ batchSize
  flow : Flow batches accepted holder
  sizes : ∀ logs ∈ batches.dispatched, logs ≠ [] ∧ logs.length ≤ batchSize
  room : batches.lines.length < batchSize + slack holder

/-- A fact about the lines that the steps of whoever holds the lock keep. -/
structure Account [Inhabited α] (batchSize : Int)
    (holds : Batches α → List α → Option (CallerPc α) → Prop) : Prop where
  /-- Steps that do not touch the batch. -/
  pass : ∀ {batches accepted holder next}, holds batches accepted holder →
    entering next = entering holder → slack next = slack holder → holds batches accepted next
  lock : ∀ {batches accepted} line, holds batches accepted none →
    holds batches (accepted ++ [line]) (some (.append line))
  append : ∀ {batches accepted line}, holds batches accepted (some (.append line)) →
    holds (batches.append line) accepted (some .check)
  unfilled : ∀ {batches accepted}, holds batches accepted (some .check) →
    batches.lines.length < batchSize → holds batches accepted (some .sendUnlock)
  flush : ∀ {batches accepted holder next}, holds batches accepted holder →
    entering holder = [] → entering next = [] → slack next = 0 →
    holds batches.flushLockedWithContext accepted next
  finish : ∀ {batches accepted holder} index, holds batches accepted holder →
    holds (batches.finish index) accepted holder

section Accounts

variable [Inhabited α] {batchSize : Int}

/-- No accepted line is lost on the way. -/
theorem account_flow : Account batchSize (Flow : Batches α → _ → _ → Prop) where
  pass flow sameEntering _ := by
    rw [Flow, sameEntering]
    exact flow
  lock line flow := by
    rw [Flow, ← flow]
    simp [entering]
  append flow := by
    rw [Flow, ← flow]
    simp [entering]
  unfilled flow _ := flow
  flush flow inside sameEntering _ := by
    unfold Flow at flow ⊢
    rw [inside, List.append_nil] at flow
    rw [sameEntering, List.append_nil, Batches.lines_flushLockedWithContext, List.append_nil,
      Batches.flatten_dispatched_flushLockedWithContext, flow]
  finish index flow := by
    rw [Flow, ← flow]
    simp

omit [Inhabited α] in
theorem slack_le_one (holder : Option (CallerPc α)) : slack holder ≤ 1 := by
  unfold slack
  split <;> decide

/-- A flush moves the whole batch behind the batches dispatched before. -/
theorem sizes_flushLockedWithContext {batches : Batches α}
    (sizes : ∀ logs ∈ batches.dispatched, logs ≠ [] ∧ logs.length ≤ batchSize)
    (fits : batches.lines.length ≤ batchSize) :
    ∀ logs ∈ batches.flushLockedWithContext.dispatched, logs ≠ [] ∧ logs.length ≤ batchSize := by
  by_cases nothing : batches.lines = []
  · rw [Batches.flushLockedWithContext_of_nil nothing]
    exact sizes
  · rw [Batches.dispatched_flushLockedWithContext nothing]
    intro logs member
    rcases List.mem_append.mp member with old | new
    · exact sizes logs old
    · cases List.mem_singleton.mp new
      exact ⟨nothing, fits⟩

/-- The accounts stay balanced. -/
theorem account_balanced : Account batchSize (Balanced batchSize : Batches α → _ → _ → Prop) where
  pass balanced sameEntering sameSlack :=
    { balanced with
      flow := (@account_flow α _ batchSize).pass balanced.flow sameEntering sameSlack
      room := sameSlack ▸ balanced.room }
  lock line balanced :=
    { balanced with flow := (@account_flow α _ batchSize).lock line balanced.flow }
  append {_ _ line} balanced :=
    { positive := balanced.positive
      flow := (@account_flow α _ batchSize).append balanced.flow
      sizes := by simpa using balanced.sizes
      room := by
        have room := balanced.room
        simp only [slack, Batches.lines_append, List.length_append, List.length_singleton]
          at room ⊢
        omega }
  unfilled balanced room :=
    { balanced with
      flow := balanced.flow
      room := by simpa [slack] using room }
  flush {_ _ holder _} balanced inside sameEntering sameSlack :=
    { positive := balanced.positive
      flow := (@account_flow α _ batchSize).flush balanced.flow inside sameEntering sameSlack
      sizes := by
        have room := balanced.room
        have bound := slack_le_one holder
        exact sizes_flushLockedWithContext balanced.sizes (by omega)
      room := by
        rw [sameSlack, Batches.lines_flushLockedWithContext, List.length_nil]
        have positive := balanced.positive
        omega }
  finish index balanced :=
    { balanced with
      flow := (@account_flow α _ batchSize).finish index balanced.flow
      sizes := by simpa using balanced.sizes
      room := by simpa using balanced.room }

end Accounts

namespace HTTPSender

theorem holderPc_goto_self {sender : HTTPSender α} {id : Nat}
    (held : sender.lock = some (.caller id)) (pc : CallerPc α) :
    (sender.goto id pc).holderPc = some pc := by
  simp [holderPc, goto, held]

theorem holderPc_goto_of_ne {sender : HTTPSender α} {id : Nat}
    (other : sender.lock ≠ some (.caller id)) (pc : CallerPc α) :
    (sender.goto id pc).holderPc = sender.holderPc := by
  unfold holderPc goto
  dsimp only
  split
  next holder held =>
    have ne : holder ≠ id := by
      rintro rfl
      exact other held
    rw [Function.update_of_ne ne]
  next => rfl

theorem holderPc_of_loop {sender : HTTPSender α}
    (exclusive : Exclusive sender.lock sender.callers sender.loop)
    (critical : sender.loop.Critical) :
    sender.lock = some .flushLoop ∧ sender.holderPc = none := by
  have held := exclusive.loop.mp critical
  exact ⟨held, by simp [holderPc, held]⟩

theorem holderPc_of_critical {sender : HTTPSender α} {id : Nat} {pc : CallerPc α}
    (exclusive : Exclusive sender.lock sender.callers sender.loop)
    (position : sender.callers id = pc) (critical : pc.Critical) :
    sender.lock = some (.caller id) ∧ sender.holderPc = some pc := by
  subst position
  have held := (exclusive.callers id).mp critical
  exact ⟨held, by simp [holderPc, held]⟩

/-- No accepted line is lost on the way, given where the holder of the lock is. -/
def Flows (sender : HTTPSender α) : Prop :=
  Flow sender.batches sender.accepted sender.holderPc

/-- The accounts are balanced for the holder of the lock. -/
def Partitions (sender : HTTPSender α) : Prop :=
  Balanced sender.batchSize sender.batches sender.accepted sender.holderPc

theorem holds_goto_self {holds : Batches α → List α → Option (CallerPc α) → Prop}
    {sender : HTTPSender α} {id : Nat} {pc : CallerPc α} (held : sender.lock = some (.caller id))
    (balanced : holds sender.batches sender.accepted (some pc)) :
    holds (sender.goto id pc).batches (sender.goto id pc).accepted
      (sender.goto id pc).holderPc := by
  rw [holderPc_goto_self held]
  exact balanced

variable [Inhabited α]

/-- Every step keeps what the steps of the holder of the lock keep. -/
theorem account_of_moves {holds : Batches α → List α → Option (CallerPc α) → Prop}
    {sender after : HTTPSender α} {action : Action α} (account : Account sender.batchSize holds)
    (exclusive : Exclusive sender.lock sender.callers sender.loop)
    (balanced : holds sender.batches sender.accepted sender.holderPc)
    (moves : Moves sender action after) :
    holds after.batches after.accepted after.holderPc := by
  have inside {id : Nat} {pc : CallerPc α} (position : sender.callers id = pc)
      (critical : pc.Critical) : sender.lock = some (.caller id) ∧
        holds sender.batches sender.accepted (some pc) := by
    obtain ⟨held, holder⟩ := holderPc_of_critical exclusive position critical
    exact ⟨held, holder ▸ balanced⟩
  have unheld (free : sender.lock = none) : holds sender.batches sender.accepted none := by
    have holder : sender.holderPc = none := by simp [holderPc, free]
    exact holder ▸ balanced
  have looping (critical : sender.loop.Critical) :
      sender.holderPc = none ∧ holds sender.batches sender.accepted none := by
    obtain ⟨_, holder⟩ := holderPc_of_loop exclusive critical
    exact ⟨holder, holder ▸ balanced⟩
  cases moves with
  | @callSend id _ position | @callStop id position | @stopReturn id position _ =>
      have outside : sender.lock ≠ some (.caller id) := by
        rw [Ne, ← exclusive.callers id, position]
        exact not_false
      rw [holderPc_goto_of_ne outside]
      exact balanced
  | sendLock _ free => exact holds_goto_self rfl (account.lock _ (unheld free))
  | stopLock _ free => exact holds_goto_self rfl (account.pass (unheld free) rfl rfl)
  | append position =>
      obtain ⟨held, appending⟩ := inside position trivial
      exact holds_goto_self held (account.append appending)
  | full position _ | stopAgain position _ | stopClose position _ =>
      obtain ⟨held, before⟩ := inside position trivial
      exact holds_goto_self held (account.pass before rfl rfl)
  | room position room =>
      obtain ⟨held, checked⟩ := inside position trivial
      exact holds_goto_self held (account.unfilled checked room)
  | sendFlush position =>
      obtain ⟨held, before⟩ := inside position trivial
      exact holds_goto_self held (account.flush before rfl rfl rfl)
  | sendUnlock position | stopUnlock position =>
      exact account.pass (inside position trivial).2 rfl rfl
  | loopLock _ free => exact unheld free
  | loopFlush position =>
      obtain ⟨holder, before⟩ := looping (by rw [position]; trivial)
      exact account.flush before rfl (congrArg entering holder) (congrArg slack holder)
  | loopUnlock position => exact (looping (by rw [position]; trivial)).2
  | start | tick | quit | loopClose => exact balanced
  | deliver => exact account.finish _ balanced

variable {sender after : HTTPSender α} {action : Action α}

theorem batchSize_of_moves (moves : Moves sender action after) :
    after.batchSize = sender.batchSize := by
  cases moves <;> rfl

/-- Every step moves accepted lines on, or leaves them where they are. -/
theorem flows_of_moves (exclusive : Exclusive sender.lock sender.callers sender.loop)
    (flows : sender.Flows) (moves : Moves sender action after) : after.Flows :=
  account_of_moves account_flow exclusive flows moves

/-- Every step keeps the accounts balanced. -/
theorem partitions_of_moves (exclusive : Exclusive sender.lock sender.callers sender.loop)
    (partitions : sender.Partitions) (moves : Moves sender action after) :
    after.Partitions := by
  rw [Partitions, batchSize_of_moves moves]
  exact account_of_moves account_balanced exclusive partitions moves

theorem partitions_create {batchSize : Int} (positive : 1 ≤ batchSize) :
    (create batchSize : HTTPSender α).Partitions := by
  constructor
  case positive => exact positive
  case flow => simp [Flow, create, holderPc, entering]
  case sizes => simp [create]
  case room =>
    simp only [create, holderPc, slack, Batches.lines_empty, List.length_nil]
    omega

theorem one_le_effectiveBatchSize (batchSize : Int) : 1 ≤ effectiveBatchSize batchSize := by
  unfold effectiveBatchSize
  split <;> omega

/-- Mutual exclusion along every run. -/
theorem exclusive_of_run {batchSize : Int} {schedule : List (Action α)}
    {sender : HTTPSender α} (ran : run step (create batchSize) schedule = some sender) :
    Exclusive sender.lock sender.callers sender.loop := by
  have preserved : ∀ ⦃before : HTTPSender α⦄ ⦃action : Action α⦄ ⦃after : HTTPSender α⦄,
      Exclusive before.lock before.callers before.loop →
      before.step action = some after → Exclusive after.lock after.callers after.loop :=
    fun _ _ _ exclusive taken => exclusive_of_moves exclusive (moves_of_step taken)
  exact invariant_of_run_of_forall preserved (exclusive_create batchSize) ran

/-- Batching partitions the accepted lines.  Take a sender that `NewHTTPSender`
made with any batch size, and any interleaving of `Send` calls, ticks, `Stop`
calls and deliveries.  Whenever the lock is free, the batches dispatched so far
followed by the batch under construction are the accepted lines in order; no
dispatched batch is empty or longer than the effective batch size, and the batch
under construction is shorter. -/
theorem dispatched_append_batch_eq_accepted {batchSize : Int}
    {schedule : List (Action α)} {sender : HTTPSender α}
    (ran : run step (newHTTPSender batchSize) schedule = some sender)
    (free : sender.lock = none) :
    sender.dispatched.flatten ++ sender.batch = sender.accepted ∧
      (∀ logs ∈ sender.dispatched,
        logs ≠ [] ∧ logs.length ≤ effectiveBatchSize batchSize) ∧
      sender.batch.length < effectiveBatchSize batchSize := by
  have preserved : ∀ ⦃before : HTTPSender α⦄ ⦃action : Action α⦄ ⦃after : HTTPSender α⦄,
      before.batchSize = effectiveBatchSize batchSize ∧ before.Partitions ∧
        Exclusive before.lock before.callers before.loop →
      before.step action = some after →
      after.batchSize = effectiveBatchSize batchSize ∧ after.Partitions ∧
        Exclusive after.lock after.callers after.loop := by
    rintro before action after ⟨size, partitions, exclusive⟩ taken
    have moves := moves_of_step taken
    exact ⟨(batchSize_of_moves moves).trans size, partitions_of_moves exclusive partitions moves,
      exclusive_of_moves exclusive moves⟩
  rcases invariant_of_run_of_forall preserved
    ⟨rfl, partitions_create (one_le_effectiveBatchSize batchSize), exclusive_create _⟩
    ran with ⟨size, partitions, _⟩
  have balanced : Balanced sender.batchSize sender.batches sender.accepted none := by
    rw [show none = sender.holderPc by simp [holderPc, free]]
    exact partitions
  rw [size] at balanced
  refine ⟨?_, balanced.sizes, ?_⟩
  · simpa [Flow, entering] using balanced.flow
  · simpa [slack] using balanced.room

/-- Two goroutines send four lines with batch size two, a tick flushes a batch
that is not full, and one line waits. -/
theorem dispatched_append_batch_eq_accepted_interleaved :
    ∃ sender : HTTPSender String,
      run step (newHTTPSender 2)
        [.start, .send 0 "a", .send 1 "b", .call 1, .call 1, .call 1, .call 1, .tick,
          .call 0, .call 0, .call 0, .call 0, .call 0, .send 1 "c", .call 1, .call 1,
          .call 1, .call 1, .loop, .loop, .loop, .send 0 "d", .call 0, .call 0, .call 0,
          .call 0] = some sender ∧
      sender.lock = none ∧
      sender.dispatched.flatten ++ sender.batch = sender.accepted ∧
      sender.dispatched = [["b", "a"], ["c"]] ∧ sender.batch = ["d"] := by
  refine ⟨_, rfl, rfl, ?_, rfl, rfl⟩
  exact (dispatched_append_batch_eq_accepted
    (rfl : run step (newHTTPSender 2)
      [.start, .send 0 "a", .send 1 "b", .call 1, .call 1, .call 1, .call 1, .tick,
        .call 0, .call 0, .call 0, .call 0, .call 0, .send 1 "c", .call 1, .call 1,
        .call 1, .call 1, .loop, .loop, .loop, .send 0 "d", .call 0, .call 0, .call 0,
        .call 0] = some _) rfl).1

end HTTPSender

end Tailpost.Sender
