import Tailpost.Operator.Conditions

/-!
# What a degraded agent says

A run that breaks off at a child sets the condition `Degraded` with a reason that names
the child and with the message of the error.  An agent that is degraded already keeps the
condition it has, because only a change of the status changes a condition.
-/

namespace Tailpost.Operator

open Tailpost.Hoare
open Tailpost.Storage

/-! ## Where a run breaks off -/

namespace Child

/-- The function that reconciles a child. -/
def reconcile (r : TailpostAgentReconciler) (run : Run) (cr : TailpostAgent) : Child → Op Unit
  | configMap => reconcileConfigMap r run cr
  | statefulSet => reconcileStatefulSet r run cr
  | service => reconcileService r run cr

/-- What is reconciled before a child. -/
def earlier (r : TailpostAgentReconciler) (run : Run) (cr : TailpostAgent) : Child → Op Unit
  | configMap => pure ()
  | statefulSet => reconcileConfigMap r run cr
  | service => do
      reconcileConfigMap r run cr
      reconcileStatefulSet r run cr

/-- The reason for which an agent is degraded when a child cannot be reconciled. -/
def reason : Child → String
  | configMap => "ConfigMapReconcileFailed"
  | statefulSet => "StatefulSetReconcileFailed"
  | service => "ServiceReconcileFailed"

end Child

/-- `Reconcile` fetches an agent, gives it its defaults and gets as far as a child, whose
reconciliation returns an error with this message. -/
inductive FailsAt (r : TailpostAgentReconciler) (run : Run) (key : NamespacedName)
    (agent : TailpostAgent) (start : Session) (child : Child) (message : String) : Prop
  | intro {cr : TailpostAgent} {fetched defaulted reached stopped : Session} :
      exec (getAgent run key) start = (.ok (some agent), fetched) →
      exec (setDefaults r run agent) fetched = (.ok cr, defaulted) →
      exec (child.earlier r run cr) defaulted = (.ok (), reached) →
      exec (child.reconcile r run cr) reached = (.error (.error message), stopped) →
      FailsAt r run key agent start child message

section Checked

variable {α β : Type} {stage : Op α} {onError : String → Op β} {next : α → Op β}
  {session after : Session}

theorem exec_checked_of_ok {value : α} (ran : exec stage session = (.ok value, after)) :
    exec (checked stage onError next) session = exec (next value) after := by
  rw [checked, exec_bind, exec_attempt, ran]

theorem exec_checked_of_error {message : String}
    (ran : exec stage session = (.error (.error message), after)) :
    exec (checked stage onError next) session = exec (onError message) after := by
  rw [checked, exec_bind, exec_attempt, ran]

end Checked

section Stages

variable {r : TailpostAgentReconciler} {run : Run} {cr : TailpostAgent} {child : Child}
  {defaulted reached stopped : Session} {message : String}

/-- An error at a child is answered with the child's own reason. -/
theorem exec_reconcileChildren_of_fails
    (passed : exec (child.earlier r run cr) defaulted = (.ok (), reached))
    (failed : exec (child.reconcile r run cr) reached = (.error (.error message), stopped)) :
    exec (reconcileChildren r run cr) defaulted =
      exec (degrade r run cr child.reason message) stopped := by
  cases child with
  | configMap =>
      cases passed
      exact exec_checked_of_error failed
  | statefulSet => exact (exec_checked_of_ok passed).trans (exec_checked_of_error failed)
  | service =>
      simp only [Child.earlier, exec_bind] at passed
      rcases first : exec (reconcileConfigMap r run cr) defaulted with ⟨failure | ⟨⟩, middle⟩
      · rw [first] at passed
        cases passed
      · rw [first] at passed
        calc exec (reconcileChildren r run cr) defaulted
            = _ := exec_checked_of_ok first
          _ = _ := exec_checked_of_ok passed
          _ = _ := exec_checked_of_error failed

/-- Children of one kind are written to a store of their own, and to no store when their
reconciliation fails. -/
theorem agents_reconcileCreated {α : Type} {key : α → NamespacedName} {kind : ChildKind key}
    {created : Except Failure α}
    (apart : ∀ cluster store, (kind.withStore cluster store).agents = cluster.agents)
    (panics : ∀ {failure}, created = .error failure → failure = .panic)
    (agents : Store TailpostAgent.key) :
    Triple (fun session => session.cluster.agents = agents)
      (do reconcileChild kind run (← lift created))
      (fun _ session => session.cluster.agents = agents)
      (fun _ session => session.cluster.agents = agents) := by
  intro start same
  apply (reconcileCreated_spec kind run start.cluster panics).weaken (fun _ => id) _ _ start rfl
  · rintro _ session ⟨_, _, _, _, settled⟩
    rw [settled, apart, same]
  · rintro _ session ⟨unchanged, _⟩
    rw [unchanged, same]

variable (r run cr)

theorem agents_reconcile (child : Child) (agents : Store TailpostAgent.key) :
    Triple (fun session => session.cluster.agents = agents) (child.reconcile r run cr)
      (fun _ session => session.cluster.agents = agents)
      (fun _ session => session.cluster.agents = agents) := by
  cases child with
  | configMap => exact agents_reconcileCreated (fun _ _ => rfl) desiredConfigMap_eq_error agents
  | statefulSet =>
      exact agents_reconcileCreated (fun _ _ => rfl) desiredStatefulSet_eq_error agents
  | service => exact agents_reconcileCreated (fun _ _ => rfl) desiredService_eq_error agents

theorem agents_earlier (child : Child) (agents : Store TailpostAgent.key) :
    Triple (fun session => session.cluster.agents = agents) (child.earlier r run cr)
      (fun _ session => session.cluster.agents = agents)
      (fun _ session => session.cluster.agents = agents) := by
  cases child with
  | configMap => exact Triple.pure fun _ => id
  | statefulSet => exact agents_reconcile r run cr .configMap agents
  | service =>
      apply (agents_reconcile r run cr .configMap agents).bind
      intro _
      exact agents_reconcile r run cr .statefulSet agents

end Stages

/-- The rest of a run that breaks off at a child is the write of the condition, in a
cluster that holds the agent with its defaults. -/
theorem exec_reconcile_of_failsAt {r : TailpostAgentReconciler} {run : Run}
    {key : NamespacedName} {agent : TailpostAgent} {start : Session} {child : Child}
    {message : String} (fails : FailsAt r run key agent start child message) :
    agent.key = key ∧ ∃ stopped : Session, stopped.cluster.Holds (filled r agent) ∧
      exec (reconcile r run key) start =
        exec (degrade r run (filled r agent) child.reason message) stopped := by
  obtain @⟨cr, afterFetch, afterDefaults, reached, stopped, fetched, defaulted, passed, failed⟩ :=
    fails
  obtain ⟨found, unchanged⟩ := (getAgent_answered run start.cluster key).returned rfl fetched
  have named : agent.key = key := start.cluster.agents.named found.symm
  have stored : start.cluster.agents.get agent.key = some agent := named ▸ found.symm
  obtain ⟨rfl, written⟩ := (setDefaults_spec r run stored).returned unchanged defaulted
  have kept := (agents_earlier r run _ child _).returned (congrArg Cluster.agents written) passed
  have agents := (agents_reconcile r run (filled r agent) child _).ended reached kept
  rw [failed] at agents
  refine ⟨named, stopped, holds_of_agents agents, ?_⟩
  calc exec (reconcile r run key) start
      = exec (checked (setDefaults r run agent) _ (reconcileChildren r run)) afterFetch :=
        exec_checked_of_ok fetched
    _ = exec (reconcileChildren r run (filled r agent)) afterDefaults :=
        exec_checked_of_ok defaulted
    _ = exec (degrade r run (filled r agent) child.reason message) stopped :=
        exec_reconcileChildren_of_fails passed failed

/-! ## The condition -/

/-- The condition holds and gives this reason and this message. -/
def TailpostAgentCondition.Names (condition : TailpostAgentCondition) (reason message : String) :
    Prop :=
  condition.status = "True" ∧ condition.reason = reason ∧ condition.message = message

/-- Setting `Degraded` stores the given reason and message, unless the first condition of
that type holds already. -/
theorem names_withCondition_iff {time : Nat} {reason message : String}
    {conditions : List TailpostAgentCondition} :
    (∃ condition, (withCondition ⟨conditionTypeDegraded, "True", time, reason, message⟩
        conditions).find? isDegraded = some condition ∧ condition.Names reason message) ↔
      ∀ earlier, conditions.find? isDegraded = some earlier → earlier.status = "True" →
        earlier.Names reason message := by
  have first := @find?_withCondition ⟨conditionTypeDegraded, "True", time, reason, message⟩
    conditions
  change List.find? isDegraded _ = some ((conditions.find? isDegraded).elim _ _) at first
  rw [first]
  cases conditions.find? isDegraded with
  | none => simp [TailpostAgentCondition.Names]
  | some earlier =>
      simp only [Option.elim_some, Option.some.injEq, exists_eq_left', forall_eq']
      by_cases holds : earlier.status = "True"
      · rw [renewed, if_neg (not_not.mpr holds)]
        exact ⟨fun names _ => names, fun names => names holds⟩
      · rw [renewed, if_pos holds]
        exact iff_of_true ⟨rfl, rfl, rfl⟩ fun status => absurd status holds

/-- A failure that is written to the status is the one that `Degraded` names exactly if
the agent was not degraded before or was degraded for the same reason and with the same
message. -/
theorem degraded_names_failure_iff {r : TailpostAgentReconciler} {run : Run}
    {key : NamespacedName} {agent : TailpostAgent} {start : Session} {child : Child}
    {message : String} (fails : FailsAt r run key agent start child message)
    (written : run.fails .setCondition = none) :
    (∃ stored condition,
        (exec (reconcile r run key) start).2.cluster.agents.get key = some stored ∧
        stored.status.conditions.find? isDegraded = some condition ∧
        condition.Names child.reason message) ↔
      ∀ earlier, agent.status.conditions.find? isDegraded = some earlier →
        earlier.status = "True" → earlier.Names child.reason message := by
  obtain ⟨named, stopped, holds, ran⟩ := exec_reconcile_of_failsAt fails
  have degraded := ((@degrade_written r run _ _ holds child.reason message _).weaken (fun _ => id)
    (fun _ _ => And.right) (fun _ _ => id)).ended stopped rfl
  rw [ran, degraded, Run.written, if_pos written]
  have stored : (stopped.cluster.withAgent (conditioned run (filled r agent)
      conditionTypeDegraded "True" child.reason message)).agents.get key = some _ :=
    stopped.cluster.get_withAgent named
  rw [stored]
  simp only [Option.some.injEq, exists_and_left, exists_eq_left']
  exact names_withCondition_iff

/-- The Service cannot be created for an agent that has no condition yet. -/
theorem degraded_names_failure_service :
    ∃ stored condition,
      (exec (reconcile sampleReconciler (.failing (.create .service)) ⟨"default", "agent"⟩)
        ⟨sampleCluster "Always", []⟩).2.cluster.agents.get ⟨"default", "agent"⟩ = some stored ∧
      stored.status.conditions.find? isDegraded = some condition ∧
      condition.Names "ServiceReconcileFailed" "failed to create Service: conflict" :=
  (@degraded_names_failure_iff sampleReconciler (.failing (.create .service))
    ⟨"default", "agent"⟩ (sampleAgent "Always") ⟨sampleCluster "Always", []⟩ .service
    "failed to create Service: conflict" (.intro rfl rfl rfl rfl) rfl).mpr
    (by rintro _ ⟨⟩)

/-- The agent is degraded because of its ConfigMap. -/
def degradedByConfigMap : TailpostAgentCondition :=
  ⟨"Degraded", "True", 0, "ConfigMapReconcileFailed", "failed to create ConfigMap: conflict"⟩

/-- The Service cannot be created for an agent that is degraded because of its ConfigMap;
the status still blames the ConfigMap. -/
theorem degraded_blames_earlier_failure :
    FailsAt sampleReconciler (.failing (.create .service)) ⟨"default", "agent"⟩
        { sampleAgent "Always" with status := ⟨[degradedByConfigMap], 0, 0⟩ }
        ⟨sampleConditions [degradedByConfigMap], []⟩ .service
        "failed to create Service: conflict" ∧
      (Run.failing (.create .service)).fails .setCondition = none ∧
      ¬ ∃ stored condition,
        (exec (reconcile sampleReconciler (.failing (.create .service)) ⟨"default", "agent"⟩)
          ⟨sampleConditions [degradedByConfigMap], []⟩).2.cluster.agents.get
            ⟨"default", "agent"⟩ = some stored ∧
        stored.status.conditions.find? isDegraded = some condition ∧
        condition.Names "ServiceReconcileFailed" "failed to create Service: conflict" := by
  refine ⟨.intro rfl rfl rfl rfl, rfl, ?_⟩
  rintro ⟨_, _, ⟨⟩, ⟨⟩, _, reason, _⟩
  exact absurd reason (by decide)

end Tailpost.Operator
