import Tailpost.Operator.Conditions

/-!
# Runs that change nothing

The status that a run writes holds the time of the run.  A second run therefore changes
an agent that was reconciled already, unless it reads the same time, and the change is an
event of its own for the operator.  The conditions and the number of ready replicas come
to rest after the first run.
-/

namespace Tailpost.Operator

open Tailpost.Hoare
open Tailpost.Storage

/-! ## Conditions that are set already -/

/-- The status of the first condition of a type. -/
def statusOf (type : String) (conditions : List TailpostAgentCondition) : Option String :=
  (conditions.find? (ofType type)).map TailpostAgentCondition.status

section Conditions

variable {condition : TailpostAgentCondition} {conditions : List TailpostAgentCondition}

theorem statusOf_withCondition :
    statusOf condition.type (withCondition condition conditions) = some condition.status := by
  rw [statusOf, find?_withCondition, Option.map_some]
  cases conditions.find? (ofType condition.type) with
  | none => rfl
  | some existing => exact congrArg some status_renewed

theorem statusOf_availableConditions (run : Run) :
    statusOf conditionTypeAvailable (availableConditions run conditions) = some "True" :=
  @statusOf_withCondition ⟨conditionTypeAvailable, "True", run.conditionTime, "AgentAvailable",
    "The agent is available"⟩ conditions

/-- A condition that has its status is not set again. -/
theorem withCondition_eq_self (set : statusOf condition.type conditions = some condition.status) :
    withCondition condition conditions = conditions := by
  unfold statusOf at set
  rcases withCondition_cases condition conditions with
    ⟨missing, _⟩ | ⟨front, existing, back, missing, same, rfl, renews⟩
  · rw [find?_of_not_mem missing] at set
    contradiction
  · rw [find?_append_cons missing same] at set
    have unchanged : existing.status = condition.status := Option.some.inj set
    rw [renews, renewed, if_neg (not_not.mpr unchanged)]

theorem statusOf_eraseP :
    statusOf conditionTypeAvailable (conditions.eraseP isDegraded) =
      statusOf conditionTypeAvailable conditions := by
  unfold statusOf
  induction conditions with
  | nil => rfl
  | cons existing rest inductionHypothesis =>
      by_cases degraded : isDegraded existing = true
      · have other : existing.type ≠ conditionTypeAvailable :=
          fun available => not_isDegraded_of_available available degraded
        simp [degraded, ofType, other]
      · rw [List.eraseP_cons_of_neg degraded, List.find?_cons, List.find?_cons]
        split
        · rfl
        · exact inductionHypothesis

end Conditions

/-- The conditions of an agent after a run in which every call succeeds. -/
theorem conditions_announced_of_succeeds {run : Run} (succeeds : ∀ api, run.fails api = none)
    (agent : TailpostAgent) :
    (announced run agent).status.conditions =
      (availableConditions run agent.status.conditions).eraseP isDegraded := by
  have count := countP_availableConditions run agent.status.conditions
  rw [conditions_announced]
  split
  next => rfl
  next unremoved =>
    have absent : agent.status.conditions.countP isDegraded = 0 := by
      by_contra present
      exact unremoved ⟨present, succeeds _⟩
    rw [if_pos (succeeds _), List.eraseP_eq_self_iff.mpr]
    exact List.countP_eq_zero.mp (count.trans absent)

/-- A second run leaves the conditions as they are, unless it removes another condition
`Degraded`. -/
theorem conditions_announced_again {first : Run} (succeeds : ∀ api, first.fails api = none)
    (second : Run) {before agent : TailpostAgent}
    (settled : agent.status.conditions = (announced first before).status.conditions) :
    (announced second agent).status.conditions = agent.status.conditions ↔
      before.status.conditions.countP isDegraded ≤ 1 ∨ second.fails .removeCondition ≠ none := by
  rw [conditions_announced_of_succeeds succeeds] at settled
  have count : agent.status.conditions.countP isDegraded =
      before.status.conditions.countP isDegraded - 1 := by
    rw [settled, countP_eraseP, countP_availableConditions]
  have still : availableConditions second agent.status.conditions = agent.status.conditions := by
    apply withCondition_eq_self
    rw [settled]
    exact statusOf_eraseP.trans (statusOf_availableConditions first)
  rw [conditions_announced, still]
  split
  next removed =>
    have present : ¬ ∀ condition ∈ agent.status.conditions, ¬ isDegraded condition = true :=
      fun absent => removed.1 (List.countP_eq_zero.mpr absent)
    rw [List.eraseP_eq_self_iff]
    constructor
    · exact fun absent => absurd absent present
    · rintro (few | fails)
      · exact absurd (by omega) removed.1
      · exact absurd removed.2 fails
  next unremoved =>
    rw [ite_self]
    apply iff_of_true rfl
    by_contra removes
    rw [not_or, not_not] at removes
    exact unremoved ⟨by omega, removes.2⟩

/-! ## Ready replicas -/

/-- A run leaves the number of ready replicas as it is. -/
theorem LastStage.readyReplicas_eq {r : TailpostAgentReconciler} {run : Run} {cr : TailpostAgent}
    {before reached : Cluster} (last : LastStage r run cr before reached) :
    readyReplicas reached cr = readyReplicas before cr := by
  obtain ⟨second, ⟨first, settlesConfigMap, settlesStatefulSet⟩, settlesService⟩ := last
  obtain ⟨desired, object, created, settled, stored⟩ := settlesStatefulSet.carries
  obtain ⟨_, _, _, _, rfl⟩ := settlesService
  obtain ⟨_, _, _, _, rfl⟩ := settlesConfigMap
  have kept (found desired : StatefulSet) :
      (statefulSetKind.merge found desired).readyReplicas = found.readyReplicas :=
    rfl
  have ready := ChildKind.eq_getD_of_settled kept settled
  have fresh : desired.readyReplicas = 0 := by
    obtain ⟨_, made, rfl⟩ := map_eq_ok_iff.mp created
    obtain ⟨_, _, _, _, rfl⟩ := createStatefulSet_eq_ok made
    rfl
  rw [key_of_desiredStatefulSet created] at stored ready
  have found : second.statefulSets.get ⟨cr.metadata.ns, getStatefulSetName cr⟩ = some object :=
    stored
  rw [fresh] at ready
  simp only [readyReplicas, serviceKind, found]
  exact ready

/-! ## The second run -/

/-- The agent that a run leaves behind, field by field. -/
theorem reported_eq (run : Run) (ready : Int32) (agent : TailpostAgent) :
    reported run ready agent = { agent with
      status := ⟨(announced run agent).status.conditions, ready, run.updateTime⟩ } := by
  have same : (announced run (counted run ready agent)).status.conditions =
      (announced run agent).status.conditions := by
    rw [conditions_announced, conditions_announced]
    rfl
  unfold reported
  rw [announced_eq, same]
  rfl

theorem withStatus_eq_self_iff (agent : TailpostAgent) (conditions : List TailpostAgentCondition)
    (time : Nat) :
    ({ agent with status := ⟨conditions, agent.status.availableReplicas, time⟩ } : TailpostAgent) =
        agent ↔
      time = agent.status.lastUpdateTime ∧ conditions = agent.status.conditions := by
  obtain ⟨metadata, spec, ⟨_, _, _⟩⟩ := agent
  simp [and_comm]

/-- Once every call of a run has succeeded, a second run that returns no error leaves the
agent as it is exactly when it reads the same time as the first run, and does not remove a
second condition `Degraded`. -/
theorem still_iff_sameTime {r : TailpostAgentReconciler} {first second : Run} {cluster : Cluster}
    {key : NamespacedName} {agent : TailpostAgent} {effects others : List Effect}
    {response answer : Response} {after final : Session}
    (found : cluster.agents.get key = some agent) (succeeds : ∀ api, first.fails api = none)
    (ran : exec (reconcile r first key) ⟨cluster, effects⟩ = (.ok response, after))
    (again : exec (reconcile r second key) ⟨after.cluster, others⟩ = (.ok answer, final))
    (returned : answer.error = none) :
    final.cluster.agents.get key = after.cluster.agents.get key ↔
      second.updateTime = first.updateTime ∧
        (agent.status.conditions.countP isDegraded ≤ 1 ∨
          second.fails .removeCondition ≠ none) := by
  have named : agent.key = key := cluster.agents.named found
  obtain ⟨reached, _, afterFirst⟩ := reported_of_exec found ran
    (error_eq_none_of_succeeds found succeeds ran)
  obtain ⟨settled, isSettled⟩ : ∃ settled : TailpostAgent, settled = { filled r agent with
      status := ⟨(announced first (filled r agent)).status.conditions,
        readyReplicas reached (filled r agent), first.updateTime⟩ } := ⟨_, rfl⟩
  rw [reported_eq, ← isSettled] at afterFirst
  have settledKey : settled.key = key := by
    rw [isSettled]
    exact named
  have complete : filled r settled = settled := by
    rw [isSettled]
    simp only [filled, withDefaults_idem]
  have stored : after.cluster.agents.get key = some settled := by
    rw [afterFirst]
    exact reached.get_withAgent settledKey
  obtain ⟨last, stage, afterSecond⟩ := reported_of_exec stored again returned
  rw [complete] at stage afterSecond
  have ready : readyReplicas last settled = settled.status.availableReplicas := by
    rw [stage.readyReplicas_eq, afterFirst, isSettled]
    rfl
  have reportedKey := (key_reported second (readyReplicas last settled) settled).trans settledKey
  have time : settled.status.lastUpdateTime = first.updateTime := by
    rw [isSettled]
  have conditions := conditions_announced_again succeeds second
    (congrArg (fun agent => agent.status.conditions) isSettled)
  rw [stored, afterSecond, last.get_withAgent reportedKey, reported_eq, ready, Option.some.injEq,
    withStatus_eq_self_iff, time, conditions]
  rfl

/-- Of two runs that read the same time the second leaves the agent as it is. -/
theorem still_iff_sameTime_twice :
    ∃ response after answer final,
      exec (reconcile sampleReconciler (.undisturbed .asAdded) ⟨"default", "agent"⟩)
        ⟨sampleCluster "Always", []⟩ = (.ok response, after) ∧
      exec (reconcile sampleReconciler (.undisturbed .asAdded) ⟨"default", "agent"⟩)
        ⟨after.cluster, []⟩ = (.ok answer, final) ∧
      final.cluster.agents.get ⟨"default", "agent"⟩ =
        after.cluster.agents.get ⟨"default", "agent"⟩ := by
  have computed : ∃ response after answer final,
      exec (reconcile sampleReconciler (.undisturbed .asAdded) ⟨"default", "agent"⟩)
        ⟨sampleCluster "Always", []⟩ = (.ok response, after) ∧
      exec (reconcile sampleReconciler (.undisturbed .asAdded) ⟨"default", "agent"⟩)
        ⟨after.cluster, []⟩ = (.ok answer, final) ∧ answer.error = none :=
    ⟨_, _, _, _, rfl, rfl, rfl⟩
  obtain ⟨response, after, answer, final, ran, again, returned⟩ := computed
  have found : (sampleCluster "Always").agents.get ⟨"default", "agent"⟩ =
      some (sampleAgent "Always") := rfl
  exact ⟨response, after, answer, final, ran, again,
    (still_iff_sameTime found (fun _ => rfl) ran again returned).mpr
      ⟨rfl, .inl (by decide)⟩⟩

/-- The second run reads a later time, and changes the agent. -/
theorem later_run_changes :
    ∃ response after answer final,
      exec (reconcile sampleReconciler (.undisturbed .asAdded) ⟨"default", "agent"⟩)
        ⟨sampleCluster "Always", []⟩ = (.ok response, after) ∧
      exec (reconcile sampleReconciler { Run.undisturbed .asAdded with updateTime := 1 }
        ⟨"default", "agent"⟩) ⟨after.cluster, []⟩ = (.ok answer, final) ∧
      answer.error = none ∧
      final.cluster.agents.get ⟨"default", "agent"⟩ ≠
        after.cluster.agents.get ⟨"default", "agent"⟩ := by
  refine ⟨_, _, _, _, rfl, rfl, rfl, ?_⟩
  decide

end Tailpost.Operator
