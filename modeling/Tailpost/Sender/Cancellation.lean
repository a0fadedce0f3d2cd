import Mathlib.Data.List.Forall2
import Tailpost.Sender.Batching

/-!
# Cancelled contexts

A call of `SendWithContext` brings a context along.  The call that fills the batch
passes its context on to the request for the whole batch; the flushes of `flushLoop`
use the background context.  When the context of a request is cancelled before the
response arrives, the request fails, and with it the lines of the other callers.

The sender is the one of `HTTPSender`; what is added to it is which context each call
and each delivery has, which contexts are cancelled, and which requests failed for
that reason.
-/

namespace Tailpost.Sender

open Tailpost.Transition

universe u

variable {α : Type u}

/-! ## Contexts -/

/-- The background context is never cancelled. -/
inductive Context
  | background
  | cancellable (id : Nat)
  deriving DecidableEq, Inhabited

/-- The arguments of `SendWithContext`. -/
structure Entry (α : Type u) where
  context : Context
  line : α
  deriving DecidableEq, Inhabited

/-- The context is one of those that have been cancelled. -/
def Context.Done (cancelled : List Nat) : Context → Prop
  | .background => False
  | .cancellable id => id ∈ cancelled

instance (cancelled : List Nat) : (context : Context) → Decidable (context.Done cancelled)
  | .background => isFalse not_false
  | .cancellable id => inferInstanceAs (Decidable (id ∈ cancelled))

theorem Context.Done.cons {cancelled : List Nat} {context : Context} (id : Nat)
    (done : context.Done cancelled) : context.Done (id :: cancelled) := by
  cases context with
  | background => exact done
  | cancellable other => exact List.mem_cons_of_mem id done

namespace HTTPSender

/-- The context with which a flush starts a delivery, if it starts one. -/
def starting (sender : HTTPSender α) (context : Context) : List Context :=
  if sender.batches.batch.length = 0 then [] else [context]

/-- The context of the delivery that a step starts, given those of the calls. -/
def started (calling : Nat → Context) (sender : HTTPSender α) : Action α → List Context
  | .call id =>
      match sender.callers id with
      | .flush => sender.starting (calling id)
      | _ => []
  | .loop =>
      match sender.loop with
      | .flush _ => sender.starting .background
      | _ => []
  | _ => []

section Related

variable [Inhabited α] {sender after : HTTPSender α} {action : Action α}
  {related : Context → List α → Prop} {calling : Nat → Context} {contexts : List Context}

theorem related_flush {context : Context}
    (before : List.Forall₂ related contexts sender.dispatched)
    (fits : sender.batch ≠ [] → related context sender.batch) :
    List.Forall₂ related (contexts ++ sender.starting context)
      sender.batches.flushLockedWithContext.dispatched := by
  unfold starting
  rw [Batches.batch_length]
  split
  next zero =>
    rw [Batches.flushLockedWithContext_of_nil (List.length_eq_zero_iff.mp zero), List.append_nil]
    exact before
  next something =>
    have nonempty : sender.batch ≠ [] :=
      fun nothing => something (List.length_eq_zero_iff.mpr nothing)
    rw [Batches.dispatched_flushLockedWithContext nonempty]
    exact List.rel_append before (.cons (fits nonempty) .nil)

/-- What relates the requests to their contexts is decided by the flushes. -/
theorem related_of_moves (before : List.Forall₂ related contexts sender.dispatched)
    (sends : ∀ id, sender.callers id = .flush → sender.batch ≠ [] →
      related (calling id) sender.batch)
    (loops : ∀ deferred, sender.loop = .flush deferred → sender.batch ≠ [] →
      related .background sender.batch)
    (moves : Moves sender action after) :
    List.Forall₂ related (contexts ++ sender.started calling action) after.dispatched := by
  have quiet {next : HTTPSender α} (nothing : sender.started calling action = [])
      (same : next.dispatched = sender.dispatched) :
      List.Forall₂ related (contexts ++ sender.started calling action) next.dispatched := by
    rw [nothing, List.append_nil, same]
    exact before
  cases moves with
  | @sendFlush id position =>
      simp only [started, position]
      exact related_flush before (sends id position)
  | @loopFlush deferred position =>
      simp only [started, position]
      exact related_flush before (loops deferred position)
  | append position =>
      exact quiet (by simp only [started, position]) (Batches.dispatched_append _ _)
  | deliver => exact quiet rfl (Batches.dispatched_finish _ _)
  | sendLock position | full position _ | room position _ | sendUnlock position
  | stopLock position _ | stopAgain position _ | stopClose position _ | stopUnlock position
  | stopReturn position _ | loopLock position _ | loopUnlock position | loopClose position =>
      exact quiet (by simp only [started, position]) rfl
  | start | callSend | callStop | tick | quit => exact quiet rfl rfl

end Related

end HTTPSender

/-- The sender with the contexts that its callers bring. -/
structure ContextSender (α : Type u) where
  sender : HTTPSender (Entry α)
  /-- The context of the last call of each goroutine. -/
  calling : Nat → Context
  /-- The contexts of the deliveries, in dispatch order. -/
  contexts : List Context
  cancelled : List Nat
  /-- The deliveries whose requests failed because of their contexts. -/
  aborted : List Nat

/-- A step of the sender, or an event of a context. -/
inductive ContextAction (α : Type u)
  | sender (action : Action (Entry α))
  /-- A context is cancelled. -/
  | cancel (id : Nat)
  /-- The request of a delivery fails because its context is cancelled. -/
  | abort (index : Nat)

namespace ContextSender

/-- A call stores its context. -/
def called (calling : Nat → Context) : Action (Entry α) → Nat → Context
  | .send id entry => Function.update calling id entry.context
  | _ => calling

section Steps

variable [Inhabited α]

/-- The sender at its creation: no call was made and no context cancelled. -/
def start (batchSize : Int) : ContextSender α where
  sender := .newHTTPSender batchSize
  calling _ := .background
  contexts := []
  cancelled := []
  aborted := []

/-- A step of the sender, with the contexts of the deliveries it starts. -/
def senderStep (state : ContextSender α) (action : Action (Entry α)) : Option (ContextSender α) :=
  (state.sender.step action).map fun sender =>
    { state with
      sender
      calling := called state.calling action
      contexts := state.contexts ++ state.sender.started state.calling action }

/-- One step. A request can be aborted only when its context is done. -/
def step (state : ContextSender α) : ContextAction α → Option (ContextSender α)
  | .sender action => state.senderStep action
  | .cancel id => some { state with cancelled := id :: state.cancelled }
  | .abort index =>
      match state.contexts[index]? with
      | some context =>
          if context.Done state.cancelled then
            { state with aborted := index :: state.aborted }.senderStep (.deliver index)
          else
            none
      | none => none

end Steps

/-- Every line of a request that failed because of a cancellation was sent with a
context that is cancelled. -/
def Isolated (state : ContextSender α) : Prop :=
  ∀ index ∈ state.aborted, ∀ logs, state.sender.dispatched[index]? = some logs →
    ∀ entry ∈ logs, entry.context.Done state.cancelled

/-! ## What the steps preserve -/

/-- The last line of a batch was sent with a context. -/
def EndsWith (context : Context) (batch : List (Entry α)) : Prop :=
  ∃ front entry, batch = front ++ [entry] ∧ entry.context = context

/-- What a call knows about its context and the batch. -/
def Knows (context : Context) (batch : List (Entry α)) : CallerPc (Entry α) → Prop
  | .sendLock entry | .append entry => entry.context = context
  | .check | .flush => EndsWith context batch
  | _ => True

/-- Only inside of its critical section a call knows something about the batch. -/
theorem Knows.frame {context : Context} {batch other : List (Entry α)}
    {pc : CallerPc (Entry α)} (knows : Knows context batch pc) (outside : ¬ pc.Critical) :
    Knows context other pc := by
  cases pc with
  | check | flush => exact absurd trivial outside
  | _ => exact knows

theorem knows_update {calling : Nat → Context} {batch : List (Entry α)}
    {callers : Nat → CallerPc (Entry α)} {id : Nat} {pc : CallerPc (Entry α)}
    (self : Knows (calling id) batch pc)
    (others : ∀ other, other ≠ id → Knows (calling other) batch (callers other)) :
    ∀ other, Knows (calling other) batch (Function.update callers id pc other) :=
  (Function.forall_update_iff callers fun other pc => Knows (calling other) batch pc).mpr
    ⟨self, others⟩

/-- While one call is in its critical section, the others are outside of theirs. -/
theorem outside_of_ne {sender : HTTPSender (Entry α)} {id other : Nat}
    (exclusive : Exclusive sender.lock sender.callers sender.loop)
    (critical : (sender.callers id).Critical) (ne : other ≠ id) :
    ¬ (sender.callers other).Critical := by
  rw [exclusive.callers, (exclusive.callers id).mp critical]
  simpa using ne.symm

/-- The request for a batch has the background context or that of its last line. -/
def FilledWith (context : Context) (logs : List (Entry α)) : Prop :=
  context = .background ∨ EndsWith context logs

/-- The call is about a line whose context is used. -/
def Brings (used : Context → Prop) : CallerPc (Entry α) → Prop
  | .sendLock entry => used entry.context
  | _ => True

theorem brings_update {used : Context → Prop} {callers : Nat → CallerPc (Entry α)} {id : Nat}
    {pc : CallerPc (Entry α)} (self : Brings used pc) (others : ∀ id, Brings used (callers id)) :
    ∀ other, Brings used (Function.update callers id pc other) :=
  (Function.forall_update_iff callers fun _ pc => Brings used pc).mpr
    ⟨self, fun other _ => others other⟩

variable [Inhabited α]

theorem knows_of_moves {sender after : HTTPSender (Entry α)} {action : Action (Entry α)}
    {calling : Nat → Context}
    (exclusive : Exclusive sender.lock sender.callers sender.loop)
    (knows : ∀ id, Knows (calling id) sender.batch (sender.callers id))
    (moves : HTTPSender.Moves sender action after) :
    ∀ id, Knows (called calling action id) after.batch (after.callers id) := by
  cases moves with
  | @callSend id entry position =>
      intro other
      by_cases equal : other = id
      · rw [equal, HTTPSender.callers_goto_self, called, Function.update_self]
        rfl
      · change Knows (Function.update calling id entry.context other) sender.batch
          (Function.update sender.callers id (.sendLock entry) other)
        rw [Function.update_of_ne equal, Function.update_of_ne equal]
        exact knows other
  | @sendLock id _ position _ | @full id position _ =>
      have own := knows id
      rw [position] at own
      exact knows_update own fun other _ => knows other
  | @append id entry position =>
      have own := knows id
      rw [position] at own
      have ends : EndsWith (calling id) (sender.batches.append entry).lines :=
        ⟨sender.batch, entry, Batches.lines_append _ _, own⟩
      refine knows_update (ends : Knows _ _ .check) ?_
      intro other ne
      exact (knows other).frame (outside_of_ne exclusive (by rw [position]; trivial) ne)
  | @sendFlush id position =>
      refine knows_update (trivial : Knows (calling id) _ .sendUnlock) ?_
      intro other ne
      exact (knows other).frame (outside_of_ne exclusive (by rw [position]; trivial) ne)
  | loopFlush position =>
      intro id
      have held := exclusive.loop.mp (by rw [position]; trivial)
      apply (knows id).frame
      rw [exclusive.callers, held]
      simp
  | callStop | room | sendUnlock | stopLock | stopAgain | stopClose | stopReturn =>
      exact knows_update trivial fun other _ => knows other
  | @stopUnlock id closed position =>
      refine knows_update ?_ fun other _ => knows other
      cases closed <;> trivial
  | _ => exact knows

theorem matched_of_moves {state : ContextSender α} {after : HTTPSender (Entry α)}
    {action : Action (Entry α)}
    (knows : ∀ id, Knows (state.calling id) state.sender.batch (state.sender.callers id))
    (matched : List.Forall₂ FilledWith state.contexts state.sender.dispatched)
    (moves : HTTPSender.Moves state.sender action after) :
    List.Forall₂ FilledWith (state.contexts ++ state.sender.started state.calling action)
      after.dispatched := by
  apply HTTPSender.related_of_moves matched _ _ moves
  · intro id position _
    have own := knows id
    rw [position] at own
    exact Or.inr own
  · exact fun _ _ _ => Or.inl rfl

/-- Every accepted line and every line that is about to be accepted has a used
context. -/
def Uses (used : Context → Prop) (sender : HTTPSender (Entry α)) : Prop :=
  (∀ entry ∈ sender.accepted, used entry.context) ∧ ∀ id, Brings used (sender.callers id)

/-- What schedules may contain: calls with used contexts, and cancellations of the
cancellable ones. -/
def Permitted (used : Context → Prop) (cancellable : Nat → Prop) : ContextAction α → Prop
  | .sender (.send _ entry) => used entry.context
  | .cancel id => cancellable id
  | _ => True

theorem uses_of_moves {used : Context → Prop} {cancellable : Nat → Prop}
    {sender after : HTTPSender (Entry α)} {action : Action (Entry α)} (uses : Uses used sender)
    (permitted : Permitted used cancellable (.sender action))
    (moves : HTTPSender.Moves sender action after) : Uses used after := by
  rcases uses with ⟨accepted, brings⟩
  cases moves with
  | callSend => exact ⟨accepted, brings_update permitted brings⟩
  | @sendLock id entry position =>
      have own := brings id
      rw [position] at own
      refine ⟨?_, brings_update trivial brings⟩
      intro other member
      rcases List.mem_append.mp member with old | new
      · exact accepted other old
      · rw [List.mem_singleton.mp new]
        exact own
  | callStop | append | full | room | sendFlush | sendUnlock | stopLock | stopAgain | stopClose
  | stopReturn => exact ⟨accepted, brings_update trivial brings⟩
  | @stopUnlock id closed =>
      refine ⟨accepted, brings_update ?_ brings⟩
      cases closed <;> trivial
  | _ => exact ⟨accepted, brings⟩

/-! ## Whole runs -/

/-- What holds in every state that permitted steps reach. -/
structure Sound (used : Context → Prop) (cancellable : Nat → Prop) (batchSize : Int)
    (state : ContextSender α) : Prop where
  size : state.sender.batchSize = HTTPSender.effectiveBatchSize batchSize
  exclusive : Exclusive state.sender.lock state.sender.callers state.sender.loop
  partitions : state.sender.Partitions
  knows : ∀ id, Knows (state.calling id) state.sender.batch (state.sender.callers id)
  matched : List.Forall₂ FilledWith state.contexts state.sender.dispatched
  uses : Uses used state.sender
  cancelled : ∀ id ∈ state.cancelled, cancellable id
  aborted : ∀ index ∈ state.aborted, ∃ context, state.contexts[index]? = some context ∧
    context.Done state.cancelled

section Sound

variable {used : Context → Prop} {cancellable : Nat → Prop} {batchSize : Int}
  {state after : ContextSender α}

theorem sound_start : Sound used cancellable batchSize (start batchSize : ContextSender α) where
  size := rfl
  exclusive := HTTPSender.exclusive_create _
  partitions := HTTPSender.partitions_create (HTTPSender.one_le_effectiveBatchSize batchSize)
  knows _ := trivial
  matched := .nil
  uses := ⟨fun _ member => absurd member List.not_mem_nil, fun _ => trivial⟩
  cancelled _ member := absurd member List.not_mem_nil
  aborted _ member := absurd member List.not_mem_nil

theorem Sound.senderStep {action : Action (Entry α)}
    (sound : Sound used cancellable batchSize state)
    (permitted : Permitted used cancellable (.sender action))
    (taken : state.senderStep action = some after) : Sound used cancellable batchSize after := by
  rcases Option.map_eq_some_iff.mp taken with ⟨sender, stepped, rfl⟩
  have moves := HTTPSender.moves_of_step stepped
  constructor
  case size => exact (HTTPSender.batchSize_of_moves moves).trans sound.size
  case exclusive => exact HTTPSender.exclusive_of_moves sound.exclusive moves
  case partitions => exact HTTPSender.partitions_of_moves sound.exclusive sound.partitions moves
  case knows => exact knows_of_moves sound.exclusive sound.knows moves
  case matched => exact matched_of_moves sound.knows sound.matched moves
  case uses => exact uses_of_moves sound.uses permitted moves
  case cancelled => exact sound.cancelled
  case aborted =>
    intro index member
    rcases sound.aborted index member with ⟨context, found, done⟩
    rcases List.getElem?_eq_some_iff.mp found with ⟨bound, _⟩
    exact ⟨context, (List.getElem?_append_left bound).trans found, done⟩

omit [Inhabited α] in
theorem Sound.abort {index : Nat} {context : Context}
    (sound : Sound used cancellable batchSize state)
    (found : state.contexts[index]? = some context) (done : context.Done state.cancelled) :
    Sound used cancellable batchSize { state with aborted := index :: state.aborted } := by
  refine { sound with aborted := ?_ }
  intro other member
  rcases List.mem_cons.mp member with rfl | old
  · exact ⟨context, found, done⟩
  · exact sound.aborted other old

theorem Sound.step {action : ContextAction α} (sound : Sound used cancellable batchSize state)
    (permitted : Permitted used cancellable action) (taken : state.step action = some after) :
    Sound used cancellable batchSize after := by
  cases action with
  | sender action => exact sound.senderStep permitted taken
  | cancel id =>
      cases taken
      refine { sound with cancelled := ?_, aborted := ?_ }
      · intro other member
        rcases List.mem_cons.mp member with rfl | old
        · exact permitted
        · exact sound.cancelled other old
      · intro index member
        rcases sound.aborted index member with ⟨context, found, done⟩
        exact ⟨context, found, done.cons id⟩
  | abort index =>
      simp only [ContextSender.step] at taken
      split at taken
      next context found =>
        split at taken
        next done => exact (sound.abort found done).senderStep (by trivial) taken
        next => contradiction
      next => contradiction

/-- No cancellable context is used next to another one. -/
def Separate (used : Context → Prop) (cancellable : Nat → Prop) : Prop :=
  ∀ id, cancellable id → used (.cancellable id) →
    ∀ context, used context → context = .cancellable id

omit [Inhabited α] in
theorem Sound.used_of_mem (sound : Sound used cancellable batchSize state)
    {logs : List (Entry α)} (dispatched : logs ∈ state.sender.dispatched) {entry : Entry α}
    (member : entry ∈ logs) : used entry.context := by
  apply sound.uses.1
  exact sound.partitions.flow.isPrefix.subset (List.mem_flatten_of_mem dispatched member)

omit [Inhabited α] in
theorem Sound.isolated (sound : Sound used cancellable batchSize state)
    (condition : batchSize ≤ 1 ∨ Separate used cancellable) : state.Isolated := by
  intro index member logs found entry inLogs
  rcases sound.aborted index member with ⟨context, given, done⟩
  have filled : FilledWith context logs := by
    rcases List.getElem?_eq_some_iff.mp found with ⟨bound, rfl⟩
    rcases List.getElem?_eq_some_iff.mp given with ⟨givenBound, rfl⟩
    exact sound.matched.get givenBound bound
  rcases filled with rfl | ⟨front, last, rfl, rfl⟩
  · contradiction
  · rcases condition with small | separate
    · have sizes := (sound.partitions.sizes _ (List.mem_of_getElem? found)).2
      have one : HTTPSender.effectiveBatchSize batchSize ≤ 1 := by
        unfold HTTPSender.effectiveBatchSize
        split <;> omega
      rw [sound.size] at sizes
      have alone : front = [] := by
        rw [← List.length_eq_zero_iff]
        simp only [List.length_append, List.length_singleton] at sizes
        omega
      rw [alone, List.nil_append, List.mem_singleton] at inLogs
      rw [inLogs]
      exact done
    · have dispatched := List.mem_of_getElem? found
      have lastUsed := sound.used_of_mem dispatched (List.mem_append_right front List.mem_cons_self)
      have entryUsed := sound.used_of_mem dispatched inLogs
      cases context : last.context with
      | background =>
          rw [context] at done
          contradiction
      | cancellable id =>
          rw [context] at done lastUsed
          rw [separate id (sound.cancelled id done) lastUsed entry.context entryUsed]
          exact done

end Sound

/-! ## A line that is lost -/

/-- Goroutine `0` can send, and nothing was handed over yet. -/
structure Collecting (batchSize : Int) (batch : List (Entry α)) (state : ContextSender α) :
    Prop where
  size : state.sender.batchSize = batchSize
  free : state.sender.lock = none
  idle : state.sender.callers 0 = .idle
  lines : state.sender.batches.lines = batch
  dispatched : state.sender.dispatched = []
  contexts : state.contexts = []
  cancelled : state.cancelled = []

theorem collecting_start (batchSize : Int) :
    Collecting (HTTPSender.effectiveBatchSize batchSize) []
      (start batchSize : ContextSender α) where
  size := rfl
  free := rfl
  idle := rfl
  lines := Batches.lines_empty _
  dispatched := rfl
  contexts := rfl
  cancelled := rfl

namespace Collecting

variable {used : Context → Prop} {cancellable : Nat → Prop} {batchSize : Int}
  {batch : List (Entry α)} {state : ContextSender α} {entry : Entry α}

omit [Inhabited α] in
theorem length_append (collecting : Collecting batchSize batch state) :
    (state.sender.batches.append entry).batch.length = batch.length + 1 := by
  rw [Batches.batch_length, Batches.lines_append, collecting.lines, List.length_append,
    List.length_singleton]

/-- A line is added to a batch that has room for one more. -/
theorem send (collecting : Collecting batchSize batch state) (room : batch.length + 1 < batchSize)
    (isUsed : used entry.context) :
    ∃ after, Reaches step (Permitted used cancellable) state after ∧
      Collecting batchSize (batch ++ [entry]) after := by
  have fits : ¬ state.sender.batchSize ≤ (state.sender.batches.append entry).batch.length := by
    rw [collecting.length_append, collecting.size]
    omega
  refine ⟨{ state with
    sender := { state.sender with
      batches := state.sender.batches.append entry
      accepted := state.sender.accepted ++ [entry] }.goto 0 .idle
    calling := Function.update state.calling 0 entry.context }, ⟨[.sender (.send 0 entry),
      .sender (.call 0), .sender (.call 0), .sender (.call 0), .sender (.call 0)], ?_, ?_⟩, ?_⟩
  · simp [Permitted, isUsed]
  · simp [run, step, senderStep, HTTPSender.step, HTTPSender.sendWithContext, HTTPSender.goto,
      HTTPSender.started, called, collecting.free, collecting.idle, fits]
  · constructor
    case size => exact collecting.size
    case free => exact collecting.free
    case idle => exact HTTPSender.callers_goto_self ..
    case lines =>
      rw [← collecting.lines]
      exact Batches.lines_append ..
    case dispatched => exact (Batches.dispatched_append ..).trans collecting.dispatched
    case contexts => exact collecting.contexts
    case cancelled => exact collecting.cancelled

/-- Lines with the same context are added one after the other. -/
theorem fill (collecting : Collecting batchSize [] state) (isUsed : used entry.context)
    {count : Nat} (room : count < batchSize) :
    ∃ after, Reaches step (Permitted used cancellable) state after ∧
      Collecting batchSize (List.replicate count entry) after := by
  induction count with
  | zero => exact ⟨state, Reaches.refl _ _ _, collecting⟩
  | succ count inductionHypothesis =>
      rcases inductionHypothesis (by omega) with ⟨middle, reaches, filled⟩
      rcases filled.send (by simpa using room) isUsed with ⟨after, more, complete⟩
      rw [← List.replicate_succ'] at complete
      exact ⟨after, reaches.trans more, complete⟩

/-- A line that fills the batch passes its context on to the request. -/
theorem flush (collecting : Collecting batchSize batch state) (full : batchSize ≤ batch.length + 1)
    (isUsed : used entry.context) :
    ∃ after, Reaches step (Permitted used cancellable) state after ∧
      after.contexts = [entry.context] ∧ after.cancelled = [] ∧
      after.sender.dispatched = [batch ++ [entry]] ∧
      ∃ logs, after.sender.batches.deliveries = [⟨logs, false⟩] := by
  have fills : state.sender.batchSize ≤ (state.sender.batches.append entry).batch.length := by
    rw [collecting.length_append, collecting.size]
    exact full
  have nonempty : (state.sender.batches.append entry).batch.length ≠ 0 := by
    rw [collecting.length_append]
    exact Nat.succ_ne_zero _
  have something : (state.sender.batches.append entry).lines ≠ [] := by
    rw [Batches.lines_append]
    simp
  refine ⟨{ state with
    sender := { state.sender with
      batches := (state.sender.batches.append entry).flushLockedWithContext
      lock := some (.caller 0)
      accepted := state.sender.accepted ++ [entry] }.goto 0 .sendUnlock
    calling := Function.update state.calling 0 entry.context
    contexts := [entry.context] }, ⟨[.sender (.send 0 entry), .sender (.call 0),
      .sender (.call 0), .sender (.call 0), .sender (.call 0)], ?_, ?_⟩, rfl,
      collecting.cancelled, ?_, ?_⟩
  · simp [Permitted, isUsed]
  · simp [run, step, senderStep, HTTPSender.step, HTTPSender.sendWithContext, HTTPSender.goto,
      HTTPSender.started, HTTPSender.starting, called, collecting.free, collecting.idle,
      collecting.contexts, fills, nonempty]
  · rw [HTTPSender.dispatched, HTTPSender.goto,
      Batches.dispatched_flushLockedWithContext something, Batches.dispatched_append,
      Batches.lines_append, collecting.lines]
    rw [show state.sender.batches.dispatched = [] from collecting.dispatched]
    rfl
  · rcases Batches.deliveries_flushLockedWithContext something with ⟨logs, appended⟩
    have none : state.sender.batches.deliveries = [] :=
      List.map_eq_nil_iff.mp collecting.dispatched
    refine ⟨logs, appended.trans ?_⟩
    rw [Batches.append, none]
    rfl

/-- The context of the line that fills the batch is cancelled while the request is under
way. -/
theorem lose {id : Nat} (line : α) (collecting : Collecting batchSize batch state)
    (full : batchSize ≤ batch.length + 1) (isUsed : used (.cancellable id))
    (isCancellable : cancellable id) :
    ∃ after, Reaches step (Permitted used cancellable) state after ∧
      0 ∈ after.aborted ∧ after.cancelled = [id] ∧
      after.sender.dispatched = [batch ++ [⟨.cancellable id, line⟩]] := by
  have usedEntry : used (⟨.cancellable id, line⟩ : Entry α).context := isUsed
  rcases collecting.flush full usedEntry with
    ⟨flushed, reaches, contexts, cancelled, dispatched, logs, deliveries⟩
  refine ⟨{ flushed with
    sender := { flushed.sender with batches := flushed.sender.batches.finish 0 }
    cancelled := [id]
    aborted := 0 :: flushed.aborted }, reaches.trans ⟨[.cancel id, .abort 0], ?_, ?_⟩,
    List.mem_cons_self, rfl, ?_⟩
  · simp [Permitted, isCancellable]
  · simp [run, step, senderStep, HTTPSender.step, HTTPSender.started, called, contexts, cancelled,
      deliveries, Context.Done]
  · exact (Batches.dispatched_finish ..).trans dispatched

end Collecting

/-- All lines of a batch but the last are sent with one context, and the request has
another one that is cancelled. -/
theorem exists_lost {used : Context → Prop} {cancellable : Nat → Prop} {batchSize : Int} {id : Nat}
    {context : Context} (several : 1 < batchSize) (isCancellable : cancellable id)
    (isUsed : used (.cancellable id)) (otherUsed : used context) (line : α) :
    ∃ final, Reaches step (Permitted used cancellable) (start batchSize) final ∧
      0 ∈ final.aborted ∧ final.cancelled = [id] ∧ ∃ logs, final.sender.dispatched = [logs] ∧
        ⟨context, line⟩ ∈ logs := by
  have size := HTTPSender.effectiveBatchSize_of_pos (Int.lt_trans Int.zero_lt_one several)
  have collecting : Collecting batchSize [] (start batchSize : ContextSender α) := by
    have begins := @collecting_start α _ batchSize
    rw [size] at begins
    exact begins
  have entryUsed : used (⟨context, line⟩ : Entry α).context := otherUsed
  have count : ((batchSize - 1).toNat : Int) = batchSize - 1 := by omega
  have room : ((batchSize - 1).toNat : Int) < batchSize := by omega
  rcases (collecting.fill entryUsed room : ∃ after,
      Reaches step (Permitted used cancellable) _ after ∧ _) with ⟨filled, fills, almost⟩
  have full : batchSize ≤
      (List.replicate (batchSize - 1).toNat (⟨context, line⟩ : Entry α)).length + 1 := by
    rw [List.length_replicate]
    omega
  rcases almost.lose line full isUsed isCancellable with
    ⟨final, loses, aborted, cancelled, dispatched⟩
  refine ⟨final, fills.trans loses, aborted, cancelled, _, dispatched, ?_⟩
  exact List.mem_append_left _ (List.mem_replicate.mpr ⟨by omega, rfl⟩)

/-- A line with a context that is not cancelled is never lost by the cancellation of
another one if and only if every batch has one line or no context that can be cancelled
is used next to another one. -/
theorem isolated_iff (batchSize : Int) (used : Context → Prop) (cancellable : Nat → Prop) :
    (∀ final : ContextSender α,
        Reaches step (Permitted used cancellable) (start batchSize) final → final.Isolated) ↔
      batchSize ≤ 1 ∨ Separate used cancellable := by
  constructor
  · intro isolated
    rcases Int.lt_or_le 1 batchSize with several | one
    · right
      intro id isCancellable isUsed context otherUsed
      rcases exists_lost several isCancellable isUsed otherUsed (default : α) with
        ⟨final, reaches, aborted, cancelled, logs, dispatched, member⟩
      have done := isolated final reaches 0 aborted logs (by rw [dispatched]; rfl) _ member
      rw [cancelled] at done
      cases context with
      | background => contradiction
      | cancellable other => rw [List.mem_singleton.mp done]
    · left
      exact one
  · intro condition final reaches
    apply Sound.isolated _ condition
    exact reaches.invariant (fun _ _ _ sound permitted taken => sound.step permitted taken)
      sound_start

/-- A line that is sent with the background context is lost when the context of the
second line of its batch is cancelled. -/
theorem background_line_lost :
    ∃ final : ContextSender String,
      run step (start 2) [.sender .start, .sender (.send 0 ⟨.background, "kept"⟩),
        .sender (.call 0), .sender (.call 0), .sender (.call 0), .sender (.call 0),
        .sender (.send 1 ⟨.cancellable 7, "other"⟩), .sender (.call 1), .sender (.call 1),
        .sender (.call 1), .sender (.call 1), .sender (.call 1), .cancel 7, .abort 0] =
        some final ∧
      final.sender.dispatched = [[⟨.background, "kept"⟩, ⟨.cancellable 7, "other"⟩]] ∧
      final.aborted = [0] ∧ ¬ final.Isolated := by
  refine ⟨_, rfl, rfl, rfl, ?_⟩
  intro isolated
  exact isolated 0 List.mem_cons_self _ rfl _ List.mem_cons_self

end ContextSender

end Tailpost.Sender
