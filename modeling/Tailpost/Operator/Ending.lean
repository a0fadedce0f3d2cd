import Tailpost.Operator.Outcome

/-!
# How a run of the reconciler ends

A run is refused before it changes anything, breaks off at a child and marks the
agent as degraded, cannot write the status, reports success, or panics.  Each of
these endings fixes the cluster that is left behind, the status of the agent
included.
-/

namespace Tailpost.Operator

open Tailpost.Hoare
open Tailpost.Storage

/-! ## Writing the status -/

/-- The cluster behind a write of the agent that may fail. -/
def Run.written (run : Run) (api : ApiCall) (cluster : Cluster) (agent : TailpostAgent) : Cluster :=
  if run.fails api = none then cluster.withAgent agent else cluster

/-- The agent is stored, whatever its status is there. -/
def Cluster.Holds (cluster : Cluster) (agent : TailpostAgent) : Prop :=
  ∃ status, cluster.agents.get agent.key = some { agent with status }

theorem Cluster.holds_withAgent (cluster : Cluster) (agent : TailpostAgent) :
    (cluster.withAgent agent).Holds agent :=
  ⟨agent.status, Store.get_put_self _ _⟩

theorem Cluster.withAgent_withAgent (cluster : Cluster) {first second : TailpostAgent}
    (same : first.key = second.key) :
    (cluster.withAgent first).withAgent second = cluster.withAgent second := by
  simp only [Cluster.withAgent, Store.put_put cluster.agents same]

theorem Run.written_withAgent (run : Run) (api : ApiCall) (cluster : Cluster)
    {first second : TailpostAgent} (same : first.key = second.key) :
    run.written api (cluster.withAgent first) second =
      cluster.withAgent (if run.fails api = none then second else first) := by
  unfold Run.written
  split
  next => exact cluster.withAgent_withAgent same
  next => rfl

theorem Cluster.Holds.modifyAgent {cluster : Cluster} {agent : TailpostAgent}
    (holds : cluster.Holds agent) (status : TailpostAgentStatus) :
    (cluster.modifyAgent agent.key fun stored => { stored with status }) =
      cluster.withAgent { agent with status } := by
  obtain ⟨_, stored⟩ := holds
  simp only [Cluster.modifyAgent, stored]
  rfl

/-- The agent with a condition set. -/
def conditioned (run : Run) (agent : TailpostAgent) (condType status reason message : String) :
    TailpostAgent :=
  { agent with status := { agent.status with
    conditions := withCondition ⟨condType, status, run.conditionTime, reason, message⟩
      agent.status.conditions } }

/-- The agent without the first condition of a type. -/
def unconditioned (agent : TailpostAgent) (index : Nat) : TailpostAgent :=
  { agent with status := { agent.status with
    conditions := agent.status.conditions.eraseIdx index } }

/-- The number of replicas that `updateStatus` finds ready. -/
def readyReplicas (cluster : Cluster) (agent : TailpostAgent) : Int32 :=
  ((cluster.statefulSets.get ⟨agent.metadata.ns, getStatefulSetName agent⟩).map
    StatefulSet.readyReplicas).getD 0

/-- The agent that `updateStatus` writes. -/
def counted (run : Run) (ready : Int32) (agent : TailpostAgent) : TailpostAgent :=
  { agent with status := { agent.status with
    availableReplicas := ready
    lastUpdateTime := run.updateTime } }

/-- The agent that `setCondition` writes at the end of a successful run. -/
def available (run : Run) (agent : TailpostAgent) : TailpostAgent :=
  conditioned run agent conditionTypeAvailable "True" "AgentAvailable" "The agent is available"

/-- Where the condition that is removed at the end of a successful run stands. -/
def degradedIndex (agent : TailpostAgent) : Option Nat :=
  agent.status.conditions.findIdx? fun condition => condition.type == conditionTypeDegraded

/-- The agent that is stored after the conditions of a successful run were written; either
of the two writes may fail unnoticed. -/
def announced (run : Run) (agent : TailpostAgent) : TailpostAgent :=
  let kept := if run.fails .setCondition = none then available run agent else agent
  match degradedIndex (available run agent) with
  | none => kept
  | some index =>
      if run.fails .removeCondition = none then unconditioned (available run agent) index
      else kept

/-- The agent that is stored after a run that reports success. -/
def reported (run : Run) (ready : Int32) (agent : TailpostAgent) : TailpostAgent :=
  announced run (counted run ready agent)

/-- Announcing success changes the conditions only. -/
theorem announced_eq (run : Run) (agent : TailpostAgent) :
    announced run agent = { agent with status := { agent.status with
      conditions := (announced run agent).status.conditions } } := by
  unfold announced
  cases degradedIndex (available run agent) with
  | none =>
      dsimp only
      split <;> rfl
  | some index =>
      dsimp only
      split
      · rfl
      · split <;> rfl

theorem key_reported (run : Run) (ready : Int32) (agent : TailpostAgent) :
    (reported run ready agent).key = agent.key := by
  unfold reported
  rw [announced_eq]
  rfl

theorem Cluster.get_withAgent (cluster : Cluster) {agent : TailpostAgent} {key : NamespacedName}
    (named : agent.key = key) : (cluster.withAgent agent).agents.get key = some agent := by
  rw [← named]
  exact Store.get_put_self _ _

section Status

variable {r : TailpostAgentReconciler} {run : Run} {cluster : Cluster} {agent : TailpostAgent}

/-- A call succeeds or fails as the run says, and does not panic. -/
theorem call_answered (run : Run) (cluster : Cluster) (api : ApiCall) (context : String) :
    Triple (fun session => session.cluster = cluster) (call run api context)
      (fun _ session => session.cluster = cluster ∧ run.fails api = none)
      (fun failure session => session.cluster = cluster ∧ run.fails api ≠ none ∧
        failure ≠ .panic) := by
  unfold call
  cases outcome : run.fails api with
  | none => exact Triple.pure fun _ same => ⟨same, rfl⟩
  | some message =>
      exact Triple.throw fun _ same => ⟨same, Option.some_ne_none _, Failure.noConfusion⟩

theorem getAgent_answered (run : Run) (cluster : Cluster) (key : NamespacedName) :
    Triple (fun session => session.cluster = cluster) (getAgent run key)
      (fun value session => value = cluster.agents.get key ∧ session.cluster = cluster)
      (fun failure session => session.cluster = cluster ∧ failure ≠ .panic) := by
  unfold getAgent
  apply ((call_answered run cluster _ _).weaken (fun _ => id) (fun _ _ => And.left)
    (fun _ _ failed => ⟨failed.1, failed.2.2⟩)).bind
  intro _
  apply Triple.reads.bind
  intro session
  apply Triple.pure
  rintro _ ⟨rfl, rfl⟩
  exact ⟨rfl, rfl⟩

theorem setDefaults_answered (r : TailpostAgentReconciler) (run : Run) {cluster : Cluster}
    {agent : TailpostAgent} (found : cluster.agents.get agent.key = some agent) :
    Triple (fun session => session.cluster = cluster) (setDefaults r run agent)
      (fun value session => value = filled r agent ∧
        session.cluster = cluster.withAgent (filled r agent))
      (fun failure session => session.cluster = cluster ∧ failure ≠ .panic) := by
  have answered : Triple (fun session => session.cluster = cluster) (setDefaults r run agent)
      (fun _ _ => True) (fun failure _ => failure ≠ .panic) := by
    unfold setDefaults
    split
    · apply Triple.bind (issue_spec cluster _)
      intro _
      apply (triple_call fun _ _ _ _ => Failure.noConfusion).bind
      intro _
      apply (write_spec cluster _).bind
      intro _
      exact Triple.pure fun _ _ => trivial
    · exact Triple.pure fun _ _ => trivial
  exact ((setDefaults_spec r run found).and answered).weaken (fun _ => id) (fun _ _ => And.left)
    (fun _ _ failed => ⟨failed.1.1, failed.2⟩)

theorem writeStatus_written (holds : cluster.Holds agent) (api : ApiCall)
    (context : String) (status : TailpostAgentStatus) :
    Triple (fun session => session.cluster = cluster)
      (writeStatus run api context agent.key status)
      (fun _ session => session.cluster = cluster.withAgent { agent with status } ∧
        run.fails api = none)
      (fun failure session => session.cluster = cluster ∧ run.fails api ≠ none ∧
        failure ≠ .panic) := by
  unfold writeStatus
  apply (issue_spec cluster _).bind
  intro _
  apply (call_answered run cluster api context).bind
  intro _
  apply Triple.modifies
  rintro session ⟨rfl, succeeded⟩
  exact ⟨holds.modifyAgent status, succeeded⟩

/-- A status write whose error is only logged. -/
theorem attempt_writeStatus_written (holds : cluster.Holds agent) (api : ApiCall)
    (context : String) (status : TailpostAgentStatus) {failed : Failure → Session → Prop} :
    Triple (fun session => session.cluster = cluster)
      (attempt (writeStatus run api context agent.key status))
      (fun _ session => session.cluster = run.written api cluster { agent with status })
      failed := by
  apply (writeStatus_written holds api context status).attempt.weaken (fun _ => id)
  · intro outcome session ended
    unfold Run.written
    cases outcome with
    | ok value =>
        rw [if_pos ended.2]
        exact ended.1
    | error failure =>
        rw [if_neg ended.2.1]
        exact ended.1
  · exact fun _ _ => False.elim

theorem setCondition_written (holds : cluster.Holds agent)
    (condType status reason message : String) {failed : Failure → Session → Prop} :
    Triple (fun session => session.cluster = cluster)
      (setCondition run agent condType status reason message)
      (fun changed session => changed = conditioned run agent condType status reason message ∧
        session.cluster = run.written .setCondition cluster
          (conditioned run agent condType status reason message)) failed := by
  unfold setCondition
  apply (attempt_writeStatus_written holds _ _ _).bind
  intro _
  exact Triple.pure fun _ written => ⟨rfl, written⟩

theorem removeCondition_written (holds : cluster.Holds agent)
    {failed : Failure → Session → Prop} :
    Triple (fun session => session.cluster = cluster)
      (removeCondition run agent conditionTypeDegraded)
      (fun _ session => session.cluster =
        match degradedIndex agent with
        | none => cluster
        | some index => run.written .removeCondition cluster (unconditioned agent index))
      failed := by
  cases found : degradedIndex agent with
  | none =>
      unfold degradedIndex at found
      simp only [removeCondition, found]
      exact Triple.pure fun _ same => same
  | some index =>
      unfold degradedIndex at found
      simp only [removeCondition, found]
      apply (attempt_writeStatus_written holds _ _ _).bind
      intro _
      exact Triple.pure fun _ written => written

theorem updateStatus_written (holds : cluster.Holds agent) :
    Triple (fun session => session.cluster = cluster) (updateStatus run agent)
      (fun changed session => changed = counted run (readyReplicas cluster agent) agent ∧
        session.cluster = cluster.withAgent changed)
      (fun failure session => session.cluster = cluster ∧ failure ≠ .panic) := by
  unfold updateStatus
  apply ((call_answered run cluster _ _).weaken (fun _ => id) (fun _ _ => And.left)
    (fun _ _ failed => ⟨failed.1, failed.2.2⟩)).bind
  intro _
  apply Triple.reads.bind
  intro session
  apply Triple.suppose (session.cluster = cluster)
  · rintro _ ⟨rfl, same⟩
    exact same
  · intro same
    rw [same]
    apply ((writeStatus_written holds _ _ _).weaken (fun _ => And.right) (fun _ _ => And.left)
      (fun _ _ failed => ⟨failed.1, failed.2.2⟩)).bind
    intro _
    exact Triple.pure fun _ written => ⟨rfl, written⟩

theorem announce_written (agent : TailpostAgent) {failed : Failure → Session → Prop} :
    Triple (fun session => session.cluster = cluster.withAgent agent) (announce r run agent)
      (fun response session => response.error = none ∧
        session.cluster = cluster.withAgent (announced run agent)) failed := by
  have key : agent.key = (available run agent).key := rfl
  unfold announce
  apply (setCondition_written (cluster.holds_withAgent agent) _ _ _ _).bind
  intro changed
  apply Triple.suppose (changed = available run agent) fun _ => And.left
  rintro rfl
  have kept : (run.written .setCondition (cluster.withAgent agent) (available run agent)).Holds
      (available run agent) := by
    rw [run.written_withAgent _ cluster key]
    split
    · exact cluster.holds_withAgent _
    · exact cluster.holds_withAgent agent
  apply ((removeCondition_written kept).strengthen fun _ => And.right).bind
  intro _
  apply Triple.pure
  intro session written
  refine ⟨rfl, written.trans ?_⟩
  unfold announced
  cases degradedIndex (available run agent) with
  | none => exact run.written_withAgent _ cluster key
  | some index =>
      rw [run.written_withAgent _ cluster key]
      apply (run.written_withAgent _ cluster _).trans
      · rfl
      · split <;> rfl

/-- What reporting success leaves behind. -/
theorem report_written (holds : cluster.Holds agent) :
    Triple (fun session => session.cluster = cluster) (report r run agent)
      (fun response session =>
        response.error = none ∧
          session.cluster = cluster.withAgent (reported run (readyReplicas cluster agent) agent) ∨
        response.error ≠ none ∧ session.cluster = cluster)
      (fun _ _ => False) := by
  unfold report
  apply triple_checked (updateStatus_written holds)
  · intro message
    exact Triple.pure fun _ failed => Or.inr ⟨Option.some_ne_none _, failed.1⟩
  · exact fun _ failed => absurd rfl failed.2
  · intro changed
    apply Triple.suppose (changed = counted run (readyReplicas cluster agent) agent)
      fun _ => And.left
    rintro rfl
    exact (announce_written _).weaken (fun _ => And.right) (fun _ _ => Or.inl) (fun _ _ => id)

theorem degrade_written (holds : cluster.Holds agent) (reason message : String)
    {failed : Failure → Session → Prop} :
    Triple (fun session => session.cluster = cluster) (degrade r run agent reason message)
      (fun response session => response.error ≠ none ∧
        session.cluster = run.written .setCondition cluster
          (conditioned run agent conditionTypeDegraded "True" reason message)) failed := by
  unfold degrade
  apply (setCondition_written holds _ _ _ _).bind
  intro _
  exact Triple.pure fun _ written => ⟨Option.some_ne_none _, written.2⟩

end Status

/-! ## Panics -/

namespace ChildKind

variable {α : Type} {key : α → NamespacedName}

/-- The desired object cannot be built, or the live one cannot be compared with it. -/
def Panics (kind : ChildKind key) (created : Except Failure α) (cluster : Cluster) : Prop :=
  created = .error .panic ∨ ∃ desired found, created = .ok desired ∧
    (kind.store cluster).get (key desired) = some found ∧
    kind.needsUpdate found desired = .error .panic

end ChildKind

section Panics

variable {α : Type} {key : α → NamespacedName} {kind : ChildKind key} {run : Run}

theorem writeChild_answered {pre : Session → Prop} {api : ApiCall} {effect : Effect}
    {verb past : String} {object : α} :
    Triple pre (writeChild kind run api effect verb past object) (fun _ _ => True)
      (fun failure _ => failure ≠ .panic) := by
  have issued {before : Session → Prop} (effect : Effect) : Triple before (issue effect)
      (fun _ _ => True) (fun failure _ => failure ≠ .panic) :=
    Triple.modifies fun _ _ => trivial
  unfold writeChild
  apply (issued effect).bind
  intro _
  apply (triple_call fun _ _ _ _ => Failure.noConfusion).bind
  intro _
  have stored : Triple (fun _ : Session => True)
      (write fun cluster => kind.withStore cluster ((kind.store cluster).put object))
      (fun _ _ => True) (fun failure _ => failure ≠ .panic) :=
    Triple.modifies fun _ _ => trivial
  apply stored.bind
  intro _
  exact issued _

/-- Reconciling a child panics only where its kind does. -/
theorem reconcileCreated_panics {created : Except Failure α} (cluster : Cluster) :
    Triple (fun session => session.cluster = cluster)
      (do reconcileChild kind run (← lift created)) (fun _ _ => True)
      (fun failure _ => failure = .panic → kind.Panics created cluster) := by
  cases created with
  | error failure =>
      intro session _ same
      exact Or.inl (congrArg Except.error same)
  | ok desired =>
      have panics : Triple (fun session => session.cluster = cluster)
          (reconcileChild kind run desired) (fun _ _ => True)
          (fun failure _ => failure = .panic → kind.Panics (.ok desired) cluster) := by
        unfold reconcileChild
        apply (triple_call fun _ _ _ _ same => nomatch same).bind
        intro _
        apply (triple_call fun _ _ _ _ same => nomatch same).bind
        intro _
        apply Triple.reads.bind
        intro session
        apply Triple.suppose (session.cluster = cluster)
        · rintro _ ⟨rfl, same⟩
          exact same
        · intro same
          rw [same]
          cases live : (kind.store cluster).get (key desired) with
          | none =>
              exact writeChild_answered.weaken (fun _ => id) (fun _ _ => id)
                fun _ _ other same => absurd same other
          | some found =>
              have tested : Triple (fun state => session = state ∧ state.cluster = cluster)
                  (lift (kind.needsUpdate found desired)) (fun _ _ => True)
                  (fun failure _ => failure = .panic → kind.Panics (.ok desired) cluster) := by
                apply Triple.lifts
                · exact fun _ _ _ _ => trivial
                · rintro _ result _ _ rfl
                  exact Or.inr ⟨desired, found, rfl, live, result⟩
              apply tested.bind
              intro needed
              cases needed with
              | true =>
                  exact writeChild_answered.weaken (fun _ => id) (fun _ _ => id)
                    fun _ _ other same => absurd same other
              | false => exact Triple.pure fun _ => id
      exact panics

end Panics

/-! ## Endings -/

section Endings

variable (r : TailpostAgentReconciler) (run : Run) (cr : TailpostAgent) (before : Cluster)

/-- How far a run comes with the children before it breaks off. -/
inductive Progress : Cluster → Prop
  | defaulted : Progress (before.withAgent cr)
  | first {reached : Cluster} : FirstStage r run cr before reached → Progress reached
  | second {reached : Cluster} : SecondStage r run cr before reached → Progress reached

/-- How a run for an agent ends that is `cr` with its defaults. -/
inductive Ending : Except Failure Response → Cluster → Prop
  /-- The agent cannot be read, or not be written with its defaults. -/
  | refused {response : Response} : response.error ≠ none → Ending (.ok response) before
  | degraded {reached : Cluster} {response : Response} {reason message : String} :
      Progress r run cr before reached → response.error ≠ none →
      Ending (.ok response) (run.written .setCondition reached
        (conditioned run cr conditionTypeDegraded "True" reason message))
  /-- The status cannot be written. -/
  | unreported {reached : Cluster} {response : Response} : LastStage r run cr before reached →
      response.error ≠ none → Ending (.ok response) reached
  | reported {reached : Cluster} {response : Response} : LastStage r run cr before reached →
      response.error = none →
      Ending (.ok response) (reached.withAgent (reported run (readyReplicas reached cr) cr))
  | configMapPanics :
      configMapKind.Panics (desiredConfigMap r run.order cr) (before.withAgent cr) →
      Ending (.error .panic) (before.withAgent cr)
  | statefulSetPanics {reached : Cluster} : FirstStage r run cr before reached →
      statefulSetKind.Panics (desiredStatefulSet r cr) reached →
      Ending (.error .panic) reached

/-- Started in a cluster that is reached, a part of the run has one of the endings. -/
def EndsFrom (reached : Cluster) (program : Op Response) : Prop :=
  Triple (fun session => session.cluster = reached) program
    (fun response session => Ending r run cr before (.ok response) session.cluster)
    (fun failure session => Ending r run cr before (.error failure) session.cluster)

end Endings

/-- The objects of a Service can always be built and compared. -/
theorem not_panics_service (r : TailpostAgentReconciler) (cr : TailpostAgent) (cluster : Cluster) :
    ¬ serviceKind.Panics (desiredService r cr) cluster := by
  rintro (failed | ⟨_, _, _, _, failed⟩)
  · unfold desiredService at failed
    contradiction
  · simp [serviceKind] at failed

section Stages

variable {r : TailpostAgentReconciler} {run : Run} {cr : TailpostAgent}
  {before reached : Cluster}

/-- The children are written to their own stores. -/
theorem FirstStage.agents (first : FirstStage r run cr before reached) :
    reached.agents = (before.withAgent cr).agents := by
  obtain ⟨_, _, _, _, rfl⟩ := first
  rfl

theorem SecondStage.agents (second : SecondStage r run cr before reached) :
    reached.agents = (before.withAgent cr).agents := by
  obtain ⟨_, first, _, _, _, _, rfl⟩ := second
  exact first.agents

theorem LastStage.agents (last : LastStage r run cr before reached) :
    reached.agents = (before.withAgent cr).agents := by
  obtain ⟨_, second, _, _, _, _, rfl⟩ := last
  exact second.agents

theorem Progress.agents (progress : Progress r run cr before reached) :
    reached.agents = (before.withAgent cr).agents := by
  cases progress with
  | defaulted => rfl
  | first stage => exact stage.agents
  | second stage => exact stage.agents

theorem holds_of_agents (agents : reached.agents = (before.withAgent cr).agents) :
    reached.Holds cr := by
  refine ⟨cr.status, ?_⟩
  rw [agents]
  exact Store.get_put_self _ _

/-- The endings of a run behind the defaults. -/
theorem reconcileChildren_ending (r : TailpostAgentReconciler) (run : Run) (cr : TailpostAgent)
    (before : Cluster) :
    EndsFrom r run cr before (before.withAgent cr) (reconcileChildren r run cr) := by
  have degraded (reached : Cluster) (progress : Progress r run cr before reached)
      (reason message : String) :
      EndsFrom r run cr before reached (degrade r run cr reason message) := by
    apply (degrade_written (holds_of_agents progress.agents) reason message).weaken (fun _ => id)
    · rintro response session ⟨failed, written⟩
      rw [written]
      exact .degraded progress failed
    · exact fun _ _ => id
  have last (reached : Cluster) (stage : LastStage r run cr before reached) :
      EndsFrom r run cr before reached (report r run cr) := by
    apply (report_written (holds_of_agents stage.agents)).weaken (fun _ => id)
    · rintro response session (⟨succeeded, written⟩ | ⟨failed, same⟩)
      · rw [written]
        exact .reported stage succeeded
      · rw [same]
        exact .unreported stage failed
    · exact fun _ _ => False.elim
  have service (reached : Cluster) (stage : SecondStage r run cr before reached) :
      EndsFrom r run cr before reached
        (checked (reconcileService r run cr) (degrade r run cr "ServiceReconcileFailed")
          fun _ => report r run cr) := by
    apply triple_checked ((reconcileCreated_spec serviceKind run reached
      desiredService_eq_error).and (reconcileCreated_panics reached))
    · intro message
      exact (degraded _ (.second stage) _ _).strengthen fun _ failed => failed.1.1
    · rintro _ ⟨_, panics⟩
      exact absurd (panics rfl) (not_panics_service r cr reached)
    · intro _ session settled
      exact last session.cluster ⟨reached, stage, settled.1⟩ session rfl
  have statefulSet (reached : Cluster) (stage : FirstStage r run cr before reached) :
      EndsFrom r run cr before reached
        (checked (reconcileStatefulSet r run cr)
          (degrade r run cr "StatefulSetReconcileFailed") fun _ =>
          checked (reconcileService r run cr) (degrade r run cr "ServiceReconcileFailed")
            fun _ => report r run cr) := by
    apply triple_checked ((reconcileCreated_spec statefulSetKind run reached
      desiredStatefulSet_eq_error).and (reconcileCreated_panics reached))
    · intro message
      exact (degraded _ (.first stage) _ _).strengthen fun _ failed => failed.1.1
    · rintro _ ⟨⟨rfl, _⟩, panics⟩
      exact .statefulSetPanics stage (panics rfl)
    · intro _ session settled
      exact service session.cluster ⟨reached, stage, settled.1⟩ session rfl
  unfold reconcileChildren
  apply triple_checked ((reconcileCreated_spec configMapKind run (before.withAgent cr)
    desiredConfigMap_eq_error).and (reconcileCreated_panics (before.withAgent cr)))
  · intro message
    exact (degraded _ .defaulted _ _).strengthen fun _ failed => failed.1.1
  · rintro _ ⟨⟨same, _⟩, panics⟩
    rw [same]
    exact .configMapPanics (panics rfl)
  · intro _ session settled
    exact statefulSet session.cluster settled.1 session rfl

end Stages

/-- Every run for an agent that is stored has one of the endings. -/
theorem reconcile_ending {r : TailpostAgentReconciler} {run : Run} {cluster : Cluster}
    {key : NamespacedName} {agent : TailpostAgent}
    (found : cluster.agents.get key = some agent) :
    EndsFrom r run (filled r agent) cluster cluster (reconcile r run key) := by
  have named : cluster.agents.get agent.key = some agent :=
    (cluster.agents.named found).symm ▸ found
  have refused (requeueAfter : Nat) (message : String) :
      EndsFrom r run (filled r agent) cluster cluster (pure ⟨requeueAfter, some message⟩) := by
    apply Triple.pure
    rintro session rfl
    exact .refused (Option.some_ne_none _)
  unfold reconcile
  apply triple_checked (getAgent_answered run cluster key)
  · intro message
    exact (refused 0 message).strengthen fun _ => And.left
  · exact fun _ failed => absurd rfl failed.2
  · intro value
    apply Triple.suppose (value = some agent) fun _ read => read.1.trans found
    rintro rfl
    apply triple_checked ((setDefaults_answered r run named).strengthen fun _ => And.right)
    · intro message
      exact (refused r.requeuePeriod message).strengthen fun _ => And.left
    · exact fun _ failed => absurd rfl failed.2
    · intro value
      apply Triple.suppose (value = filled r agent) fun _ => And.left
      rintro rfl
      exact (reconcileChildren_ending r run (filled r agent) cluster).strengthen fun _ => And.right

/-- How a run that was executed has ended. -/
theorem ending_of_exec {r : TailpostAgentReconciler} {run : Run} {cluster : Cluster}
    {key : NamespacedName} {agent : TailpostAgent} {effects : List Effect}
    {outcome : Except Failure Response} {after : Session}
    (found : cluster.agents.get key = some agent)
    (ran : exec (reconcile r run key) ⟨cluster, effects⟩ = (outcome, after)) :
    Ending r run (filled r agent) cluster outcome after.cluster := by
  have ends := @reconcile_ending r run cluster key agent found ⟨cluster, effects⟩ rfl
  rw [ran] at ends
  cases outcome with
  | ok response => exact ends
  | error failure => exact ends

/-- A run in which every call succeeds returns no error. -/
theorem error_eq_none_of_succeeds {r : TailpostAgentReconciler} {run : Run} {cluster : Cluster}
    {key : NamespacedName} {agent : TailpostAgent} {effects : List Effect}
    {response : Response} {after : Session} (found : cluster.agents.get key = some agent)
    (succeeds : ∀ api, run.fails api = none)
    (ran : exec (reconcile r run key) ⟨cluster, effects⟩ = (.ok response, after)) :
    response.error = none := by
  obtain ⟨blamed, _⟩ := (reconcile_reconciled found).returned rfl ran
  by_contra failed
  obtain ⟨api, fails⟩ := blamed failed
  exact fails (succeeds api)

/-- What a run leaves behind that returns no error. -/
theorem reported_of_exec {r : TailpostAgentReconciler} {run : Run} {cluster : Cluster}
    {key : NamespacedName} {agent : TailpostAgent} {effects : List Effect}
    {response : Response} {after : Session} (found : cluster.agents.get key = some agent)
    (ran : exec (reconcile r run key) ⟨cluster, effects⟩ = (.ok response, after))
    (succeeded : response.error = none) :
    ∃ reached, LastStage r run (filled r agent) cluster reached ∧
      after.cluster = reached.withAgent
        (reported run (readyReplicas reached (filled r agent)) (filled r agent)) := by
  have ending := ending_of_exec found ran
  generalize after.cluster = final at ending ⊢
  cases ending with
  | refused failed => exact absurd succeeded failed
  | degraded _ failed => exact absurd succeeded failed
  | unreported _ failed => exact absurd succeeded failed
  | reported last _ => exact ⟨_, last, rfl⟩

/-- Only the agent of the run is written. -/
theorem Ending.get_agents_of_ne {r : TailpostAgentReconciler} {run : Run} {cr : TailpostAgent}
    {before after : Cluster} {outcome : Except Failure Response} {other : NamespacedName}
    (ending : Ending r run cr before outcome after) (different : other ≠ cr.key) :
    after.agents.get other = before.agents.get other := by
  have put {reached : Cluster} {agent : TailpostAgent} (named : agent.key = cr.key)
      (agents : reached.agents.get other = before.agents.get other) :
      (reached.withAgent agent).agents.get other = before.agents.get other :=
    (Store.get_put_of_ne _ (named ▸ different)).trans agents
  have kept {reached : Cluster} (agents : reached.agents = (before.withAgent cr).agents) :
      reached.agents.get other = before.agents.get other :=
    (congrArg (fun store => store.get other) agents).trans (put rfl rfl)
  cases ending with
  | refused => rfl
  | degraded progress _ =>
      unfold Run.written
      split
      · exact put rfl (kept progress.agents)
      · exact kept progress.agents
  | unreported last _ => exact kept last.agents
  | reported last _ => exact put (key_reported _ _ _) (kept last.agents)
  | configMapPanics _ => exact kept rfl
  | statefulSetPanics first _ => exact kept first.agents

/-! ## Calls -/

/-- The cluster behind a call of `Reconcile`, whether it returns or panics. -/
def Cluster.afterCall (r : TailpostAgentReconciler) (cluster : Cluster)
    (call : NamespacedName × Run) : Cluster :=
  (exec (reconcile r call.2 call.1) ⟨cluster, []⟩).2.cluster

theorem ending_afterCall {r : TailpostAgentReconciler} {cluster : Cluster} {agent : TailpostAgent}
    {call : NamespacedName × Run} (found : cluster.agents.get call.1 = some agent) :
    ∃ outcome, Ending r call.2 (filled r agent) cluster outcome (cluster.afterCall r call) :=
  ⟨_, ending_of_exec found rfl⟩

/-- An agent that is not there is not reconciled. -/
theorem reconcile_of_missing {r : TailpostAgentReconciler} {run : Run} {cluster : Cluster}
    {key : NamespacedName} (missing : cluster.agents.get key = none) :
    Triple (fun session => session.cluster = cluster) (reconcile r run key)
      (fun _ session => session.cluster = cluster) (fun _ _ => False) := by
  unfold reconcile
  apply triple_checked (getAgent_answered run cluster key)
  · exact fun message => Triple.pure fun _ => And.left
  · exact fun _ failed => failed.2 rfl
  · intro value
    apply Triple.suppose (value = none) fun _ read => read.1.trans missing
    rintro rfl
    exact Triple.pure fun _ => And.right

theorem afterCall_of_missing {r : TailpostAgentReconciler} {cluster : Cluster}
    {call : NamespacedName × Run} (missing : cluster.agents.get call.1 = none) :
    cluster.afterCall r call = cluster := by
  have idle : Triple (fun session => session.cluster = cluster) (reconcile r call.2 call.1)
      (fun _ session => session.cluster = cluster) (fun _ session => session.cluster = cluster) :=
    (reconcile_of_missing missing).weaken (fun _ => id) (fun _ _ => id) fun _ _ => False.elim
  exact idle.ended ⟨cluster, []⟩ rfl

end Tailpost.Operator
