import Tailpost.Agent.Cancelling
import Tailpost.Sender.Relabelling

/-!
# The contexts of the other agent

`processLogs` passes the context of the agent along with every line.  The sender in the
agent is therefore the sender with contexts that all calls use with one context, and
`handleSignals` cancels this one.  In particular no line is lost because of a context
that it was not sent with.
-/

namespace Tailpost.Agent

open Tailpost.Reader
open Tailpost.Sender
open Tailpost.Transition

/-! ## Lines on their way -/

/-- The call has a line that has not been flushed by it. -/
def Sends {α : Type} : CallerPc α → Prop
  | .sendLock _ | .append _ | .check | .flush => True
  | _ => False

/-- A line is on its way because it was before, or because the call was just made. -/
theorem sends_of_moves {sender after : HTTPSender Line} {action : Sender.Action Line} {id : Nat}
    (moves : HTTPSender.Moves sender action after) (sends : Sends (after.callers id)) :
    (∃ line, action = .send id line) ∨ Sends (sender.callers id) := by
  have moved {base : HTTPSender Line} {own : Nat} {pc : CallerPc Line}
      (elsewhere : base.callers = sender.callers)
      (here : Sends pc → (∃ line, action = .send own line) ∨ Sends (sender.callers own))
      (there : Sends ((base.goto own pc).callers id)) :
      (∃ line, action = .send id line) ∨ Sends (sender.callers id) := by
    by_cases same : id = own
    · subst same
      rw [HTTPSender.callers_goto_self] at there
      exact here there
    · change Sends (Function.update base.callers own pc id) at there
      rw [Function.update_of_ne same, elsewhere] at there
      exact .inr there
  cases moves with
  | callSend => exact moved rfl (fun _ => .inl ⟨_, rfl⟩) sends
  | sendLock position | append position | full position =>
      exact moved rfl (fun _ => .inr (by rw [position]; trivial)) sends
  | sendFlush | room | sendUnlock | callStop | stopLock | stopAgain | stopClose | stopReturn =>
      exact moved rfl False.elim sends
  | @stopUnlock _ closed =>
      refine moved rfl (fun never => ?_) sends
      cases closed <;> exact False.elim never
  | _ => exact .inr sends

/-! ## The agent as a sender with contexts -/

/-- The action with the context of the agent. -/
def labelled (action : Sender.Action Line) : Sender.Action (Entry Line) :=
  action.map (Entry.mk agentContext)

theorem map_labelled (action : Sender.Action Line) : (labelled action).map Entry.line = action := by
  cases action <;> rfl

/-- The sender with contexts does what the sender of the agent does. -/
structure Carries (service : Service) (state : ContextSender Line) : Prop where
  sender : state.sender.map Entry.line = service.sender
  contexts : state.contexts = service.contexts
  cancelled : agentContext.Done state.cancelled ↔ service.cancelled = true
  aborted : state.aborted = service.aborted
  calling : ∀ id, Sends (service.sender.callers id) → state.calling id = agentContext

section Steps

variable {service after : Service} {state : ContextSender Line}

/-- The contexts of the calls only matter when they flush. -/
theorem started_eq (carries : Carries service state) (action : Sender.Action Line) :
    state.sender.started state.calling (labelled action) =
      service.sender.started (fun _ => agentContext) action := by
  have same := HTTPSender.started_map (f := Entry.line) state.sender state.calling
    (labelled action)
  rw [← same, carries.sender, map_labelled]
  cases action with
  | call id =>
      cases position : service.sender.callers id with
      | flush =>
          have own := carries.calling id (by rw [position]; trivial)
          simp only [HTTPSender.started, position, own]
      | _ => simp only [HTTPSender.started, position]
  | _ => rfl

theorem called_labelled {calling : Nat → Context} {action : Sender.Action Line} {id : Nat}
    (own : (∃ line, action = .send id line) ∨ calling id = agentContext) :
    ContextSender.called calling (labelled action) id = agentContext := by
  rcases own with ⟨line, rfl⟩ | given
  · exact Function.update_self ..
  · cases action with
    | send other line =>
        change Function.update calling other agentContext id = agentContext
        by_cases same : id = other
        · rw [same, Function.update_self]
        · rw [Function.update_of_ne same, given]
    | _ => exact given

/-- The sender with contexts takes the same step. -/
theorem Carries.senderStep (carries : Carries service state) {action : Sender.Action Line}
    (taken : service.senderStep action = some after) :
    ∃ next, state.senderStep (labelled action) = some next ∧ Carries after next := by
  obtain ⟨sender, stepped, rfl⟩ := Option.map_eq_some_iff.mp taken
  have shown := HTTPSender.step_map (f := Entry.line) rfl state.sender (labelled action)
  rw [carries.sender, map_labelled, stepped] at shown
  obtain ⟨next, moved, rfl⟩ := Option.map_eq_some_iff.mp shown.symm
  refine ⟨_, Option.map_eq_some_iff.mpr ⟨next, moved, rfl⟩, ?_⟩
  constructor
  case sender => rfl
  case contexts => exact congrArg₂ (· ++ ·) carries.contexts (started_eq carries action)
  case cancelled => exact carries.cancelled
  case aborted => exact carries.aborted
  case calling =>
    intro id sends
    apply called_labelled
    exact (sends_of_moves (HTTPSender.moves_of_step stepped) sends).imp_right (carries.calling id)

/-- The calls bring the context of the agent along, and only this one is cancelled. -/
abbrev OneContext : ContextAction Line → Prop :=
  ContextSender.Permitted (· = agentContext) (· = 0)

/-- The sender with contexts can come to do what the agent does. -/
def CanFollow (state : ContextSender Line) (service : Service) : Prop :=
  ∃ next, Reaches ContextSender.step OneContext state next ∧ Carries service next

theorem oneContext_labelled (action : Sender.Action Line) :
    OneContext (.sender (labelled action)) := by
  cases action <;> first | rfl | trivial

theorem Carries.reaches_senderStep (carries : Carries service state) {action : Sender.Action Line}
    (taken : service.senderStep action = some after) :
    CanFollow state after := by
  obtain ⟨next, moved, kept⟩ := carries.senderStep taken
  exact ⟨next, .single (oneContext_labelled action) moved, kept⟩

/-- Other steps of the agent are none of the sender. -/
theorem Carries.stays (carries : Carries service state) (sender : after.sender = service.sender)
    (contexts : after.contexts = service.contexts) (cancelled : after.cancelled = service.cancelled)
    (aborted : after.aborted = service.aborted) :
    CanFollow state after := by
  refine ⟨state, .refl _ _ _, ?_⟩
  obtain ⟨sameSender, sameContexts, sameCancelled, sameAborted, calling⟩ := carries
  rw [← sender] at sameSender calling
  rw [← contexts] at sameContexts
  rw [← cancelled] at sameCancelled
  rw [← aborted] at sameAborted
  exact ⟨sameSender, sameContexts, sameCancelled, sameAborted, calling⟩

theorem Carries.abort (carries : Carries service state) {index : Nat}
    (context : service.contexts[index]? = some agentContext) (cancelled : service.cancelled = true)
    (taken : { service with aborted := index :: service.aborted }.senderStep (.deliver index) =
      some after) :
    CanFollow state after := by
  have recorded : Carries { service with aborted := index :: service.aborted }
      { state with aborted := index :: state.aborted } :=
    { carries with aborted := congrArg (index :: ·) carries.aborted }
  obtain ⟨next, moved, kept⟩ := recorded.senderStep taken
  have aborts : state.step (.abort index) = some next := by
    rw [← carries.contexts] at context
    simp only [ContextSender.step, context, if_pos (carries.cancelled.mpr cancelled)]
    exact moved
  have permitted : OneContext (.abort index) := trivial
  exact ⟨next, .single permitted aborts, kept⟩

theorem Carries.processLogs (carries : Carries service state) {step : ProcessStep}
    (taken : service.processLogs step = some after) :
    CanFollow state after := by
  cases step with
  | ctxDone =>
      simp only [Service.processLogs] at taken
      split at taken
      next =>
        cases taken
        exact carries.stays rfl rfl rfl rfl
      next => contradiction
  | receive =>
      simp only [Service.processLogs] at taken
      split at taken
      next line rest _ _ =>
        have received : Carries { service with
            reader := { service.reader with lines := rest }
            processing := .sending } state := { carries with }
        exact received.reaches_senderStep taken
      next => contradiction
  | call =>
      simp only [Service.processLogs] at taken
      split at taken
      next =>
        cases taken
        exact carries.stays rfl rfl rfl rfl
      next => exact carries.reaches_senderStep taken
      next => contradiction

theorem Carries.handleSignals (carries : Carries service state)
    (taken : service.handleSignals = some after) :
    CanFollow state after := by
  unfold Service.handleSignals at taken
  split at taken
  case h_2 =>
    cases taken
    have cancels : state.step (.cancel 0) = some { state with cancelled := 0 :: state.cancelled } :=
      rfl
    have permitted : OneContext (.cancel 0) := rfl
    refine ⟨_, .single permitted cancels, { carries with cancelled := ?_ }⟩
    exact iff_of_true List.mem_cons_self rfl
  case h_5 =>
    have stopping : Carries { service with handle := .senderStopping } state := { carries with }
    exact stopping.reaches_senderStep taken
  case h_6 =>
    split at taken
    next =>
      cases taken
      exact carries.stays rfl rfl rfl rfl
    next => exact carries.reaches_senderStep taken
  case h_1 | h_7 =>
    cases taken
    exact carries.stays rfl rfl rfl rfl
  case h_3 =>
    split at taken
    next => contradiction
    next =>
      cases taken
      exact carries.stays rfl rfl rfl rfl
  case h_4 | h_8 =>
    split at taken
    next =>
      cases taken
      exact carries.stays rfl rfl rfl rfl
    next => contradiction
  case h_9 => contradiction

theorem Carries.step (carries : Carries service state) {action : ServiceAction}
    (taken : service.step action = some after) :
    CanFollow state after := by
  cases action with
  | disk event =>
      obtain ⟨disk, _, rfl⟩ := Option.map_eq_some_iff.mp taken
      exact carries.stays rfl rfl rfl rfl
  | tail action =>
      obtain ⟨reader, _, rfl⟩ := Option.map_eq_some_iff.mp taken
      exact carries.stays rfl rfl rfl rfl
  | tick | quit | flush | deliver => exact carries.reaches_senderStep taken
  | abort index =>
      simp only [Service.step] at taken
      split at taken
      next enabled => exact carries.abort enabled.1 enabled.2 taken
      next => contradiction
  | process step => exact carries.processLogs taken
  | handle => exact carries.handleSignals taken

end Steps

theorem canFollow_start (disk : Disk) (reader : FileReader) (batchSize : Int) :
    CanFollow (ContextSender.start batchSize) (Service.start disk reader batchSize) := by
  have permitted : OneContext (.sender .start) := trivial
  refine ⟨_, .single permitted rfl, ?_⟩
  constructor
  case sender =>
    have created := HTTPSender.create_map (f := (Entry.line : Entry Line → Line)) rfl
      (HTTPSender.effectiveBatchSize batchSize)
    exact congrArg (fun sender => { sender with loop := .select }) created
  case contexts => rfl
  case cancelled => exact iff_of_false List.not_mem_nil Bool.noConfusion
  case aborted => rfl
  case calling => exact fun _ => False.elim

/-- Every run of the agent is one of the sender with contexts in which all calls bring the
context of the agent along, and every line of a request that the shutdown makes fail was sent
with the context that it cancels. -/
theorem service_follows_contexts {disk : Disk} {reader : FileReader} {batchSize : Int}
    {schedule : List ServiceAction} {service : Service}
    (ran : run Service.step (Service.start disk reader batchSize) schedule = some service) :
    ∃ state, Reaches ContextSender.step OneContext (ContextSender.start batchSize) state ∧
      Carries service state ∧ state.Isolated := by
  obtain ⟨begun, starts, initial⟩ := canFollow_start disk reader batchSize
  obtain ⟨state, goesOn, carries⟩ :=
    reaches_of_related (fun _ _ _ _ carries taken => carries.step taken) initial ran
  have reaches := starts.trans goesOn
  have sound := reaches.invariant (fun _ _ _ sound permitted taken =>
    ContextSender.Sound.step sound permitted taken) ContextSender.sound_start
  refine ⟨state, reaches, carries, sound.isolated (.inr ?_)⟩
  rintro _ rfl _ context rfl
  rfl

/-- The request for the first two lines is aborted, and the one for the third line is not. -/
theorem service_follows_contexts_threeLines :
    ∃ reader, FileReader.start (Disk.single []) true true = some reader ∧
      ∃ service, run Service.step (Service.start (Disk.single []) reader 2)
          (threeLines ++ [.handle, .handle, .abort 0] ++ quitting) = some service ∧
        service.contexts = [agentContext, .background] ∧ service.aborted = [0] ∧
        ∃ state, Reaches ContextSender.step OneContext (ContextSender.start 2) state ∧
          Carries service state ∧ state.Isolated := by
  obtain ⟨reader, started, service, ran, contexts, aborted⟩ : ∃ reader,
      FileReader.start (Disk.single []) true true = some reader ∧
        ∃ service, run Service.step (Service.start (Disk.single []) reader 2)
            (threeLines ++ [.handle, .handle, .abort 0] ++ quitting) = some service ∧
          service.contexts = [agentContext, .background] ∧ service.aborted = [0] :=
    ⟨_, rfl, _, rfl, rfl, rfl⟩
  exact ⟨reader, started, service, ran, contexts, aborted, service_follows_contexts ran⟩

end Tailpost.Agent
