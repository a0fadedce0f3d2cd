import Tailpost.Hoare.Locality
import Tailpost.Operator.Convergence
import Tailpost.Operator.Ending

/-!
# Agents that do not interfere

A call of `Reconcile` reads and writes the agent it is for and the three objects whose
names are made from the agent's, and nothing else.  Calls for different agents are
therefore independent of each other, in whatever order they are made, and the labels
of their pods keep them apart.
-/

namespace Tailpost.Operator

open Tailpost.Hoare
open Tailpost.Storage

/-! ## What belongs to an agent -/

/-- An agent and its children. -/
def footprint (key : NamespacedName) : Region Cluster where
  graft base own := {
    agents := base.agents.graft key own.agents
    configMaps := base.configMaps.graft (configMapKey key) own.configMaps
    statefulSets := base.statefulSets.graft key own.statefulSets
    services := base.services.graft key own.services }
  graft_self cluster := by
    simp only [Store.graft_self]

theorem configMapKey_injective {key other : NamespacedName}
    (same : configMapKey key = configMapKey other) : key = other := by
  cases key
  cases other
  simpa [configMapKey] using same

theorem footprint_disjoint {key other : NamespacedName} (different : key ≠ other) :
    Region.Disjoint (footprint key) (footprint other) := by
  have apart : configMapKey key ≠ configMapKey other :=
    fun same => different (configMapKey_injective same)
  intro base own others
  simp only [footprint, Store.graft_comm different, Store.graft_comm apart]

/-! ## Programs that keep to an agent -/

section Keeping

variable {α β : Type} {r : TailpostAgentReconciler} {run : Run} {key : NamespacedName}
  {base : Cluster} {agent : TailpostAgent}

/-- The session with everything changed that does not belong to an agent. -/
def Session.elsewhere (key : NamespacedName) (base : Cluster) (session : Session) : Session :=
  { session with cluster := (footprint key).graft base session.cluster }

/-- The program reads and writes nothing that does not belong to the agent. -/
def KeepsTo (key : NamespacedName) (base : Cluster) (program : Op α) : Prop :=
  Respects (Session.elsewhere key base) program

theorem call_keepsTo (api : ApiCall) (context : String) :
    KeepsTo key base (call run api context) := by
  unfold call
  split
  · exact Respects.throw _
  · exact Respects.pure _

theorem issue_keepsTo (effect : Effect) : KeepsTo key base (issue effect) :=
  Respects.modifies fun _ => rfl

theorem write_keepsTo {change : Cluster → Cluster}
    (comm : ∀ cluster, change ((footprint key).graft base cluster) =
      (footprint key).graft base (change cluster)) : KeepsTo key base (write change) := by
  apply Respects.modifies
  intro session
  simp only [Session.elsewhere, comm]

theorem checked_keepsTo {stage : Op α} {onError : String → Op β} {next : α → Op β}
    {returns : α → Prop} (first : KeepsTo key base stage)
    (returned : Triple (fun _ => True) stage (fun value _ => returns value) fun _ _ => True)
    (recovers : ∀ message, KeepsTo key base (onError message))
    (goesOn : ∀ value, returns value → KeepsTo key base (next value)) :
    KeepsTo key base (checked stage onError next) := by
  have outcomes : Triple (fun _ => True) (attempt stage)
      (fun outcome _ => ∀ value, outcome = .ok value → returns value) fun _ _ => True := by
    apply returned.attempt.weaken (fun _ => id)
    · rintro outcome session possible value rfl
      exact possible
    · exact fun _ _ _ => trivial
  unfold checked
  apply first.attempt.bind_of outcomes
  intro outcome possible
  match outcome with
  | .ok value => exact goesOn value (possible value rfl)
  | .error (.error message) => exact recovers message
  | .error .panic => exact Respects.throw _

theorem modifyAgent_graft {change : TailpostAgent → TailpostAgent}
    (keeps : ∀ stored, (change stored).key = stored.key) (cluster : Cluster) :
    ((footprint key).graft base cluster).modifyAgent key change =
      (footprint key).graft base (cluster.modifyAgent key change) := by
  unfold Cluster.modifyAgent
  have same : ((footprint key).graft base cluster).agents.get key = cluster.agents.get key :=
    Store.get_graft_self _ _ _
  rw [same]
  cases found : cluster.agents.get key with
  | none => rfl
  | some stored =>
      have named : (change stored).key = key := (keeps stored).trans (cluster.agents.named found)
      simp only [footprint, Store.put_graft _ _ named]

/-! ### Children -/

/-- The children of this kind that belong to the agent have a given name. -/
structure ChildKind.Within {nameOf : α → NamespacedName} (kind : ChildKind nameOf)
    (key location : NamespacedName) : Prop where
  store_graft : ∀ base own, kind.store ((footprint key).graft base own) =
    (kind.store base).graft location (kind.store own)
  withStore_graft : ∀ base own store,
    kind.withStore ((footprint key).graft base own) ((kind.store base).graft location store) =
      (footprint key).graft base (kind.withStore own store)

theorem configMapKind_within : configMapKind.Within key (configMapKey key) :=
  ⟨fun _ _ => rfl, fun _ _ _ => rfl⟩

theorem statefulSetKind_within : statefulSetKind.Within key key :=
  ⟨fun _ _ => rfl, fun _ _ _ => rfl⟩

theorem serviceKind_within : serviceKind.Within key key :=
  ⟨fun _ _ => rfl, fun _ _ _ => rfl⟩

section Child

variable {nameOf : α → NamespacedName} {kind : ChildKind nameOf} {location : NamespacedName}

theorem writeChild_keepsTo (within : kind.Within key location) {api : ApiCall} {effect : Effect}
    {verb past : String} {object : α} (named : nameOf object = location) :
    KeepsTo key base (writeChild kind run api effect verb past object) := by
  apply (issue_keepsTo effect).bind
  intro _
  apply (call_keepsTo api _).bind
  intro _
  apply (write_keepsTo _).bind
  · intro _
    exact issue_keepsTo _
  · intro cluster
    rw [within.store_graft, Store.put_graft _ _ named, within.withStore_graft]

theorem reconcileChild_keepsTo (within : kind.Within key location) {desired : α}
    (named : nameOf desired = location) :
    KeepsTo key base (reconcileChild kind run desired) := by
  apply (call_keepsTo _ _).bind
  intro _
  apply (call_keepsTo _ _).bind
  intro _
  apply Respects.reads
  · intro session
    simp only [Session.elsewhere, within.store_graft, named, Store.get_graft_self]
  · intro session
    cases live : (kind.store session.cluster).get (nameOf desired) with
    | none => exact writeChild_keepsTo within named
    | some found =>
        apply (Respects.lift _).bind
        intro needed
        cases needed with
        | false => exact Respects.pure _
        | true =>
            apply writeChild_keepsTo within
            rw [kind.key_merge, (kind.store session.cluster).named live, named]

theorem reconcileCreated_keepsTo (within : kind.Within key location) {created : Except Failure α}
    (named : ∀ desired, created = .ok desired → nameOf desired = location) :
    KeepsTo key base (do reconcileChild kind run (← lift created)) := by
  cases created with
  | error failure => exact fun _ => rfl
  | ok desired => exact reconcileChild_keepsTo within (named desired rfl)

end Child

theorem reconcileConfigMap_keepsTo (named : agent.key = key) :
    KeepsTo key base (reconcileConfigMap r run agent) := by
  apply reconcileCreated_keepsTo configMapKind_within
  intro desired created
  rw [key_of_desiredConfigMap created, named]

theorem reconcileStatefulSet_keepsTo (named : agent.key = key) :
    KeepsTo key base (reconcileStatefulSet r run agent) := by
  apply reconcileCreated_keepsTo statefulSetKind_within
  intro desired created
  exact (key_of_desiredStatefulSet created).trans named

theorem reconcileService_keepsTo (named : agent.key = key) :
    KeepsTo key base (reconcileService r run agent) := by
  apply reconcileCreated_keepsTo serviceKind_within
  intro desired created
  exact (key_of_desiredService created).trans named

/-! ### Status -/

theorem writeStatus_keepsTo (named : agent.key = key) (api : ApiCall) (context : String)
    (status : TailpostAgentStatus) :
    KeepsTo key base (writeStatus run api context agent.key status) := by
  rw [named]
  apply (issue_keepsTo .updateStatus).bind
  intro _
  apply (call_keepsTo api context).bind
  intro _
  exact write_keepsTo (modifyAgent_graft fun _ => rfl)

theorem setCondition_keepsTo (named : agent.key = key) (condType status reason message : String) :
    KeepsTo key base (setCondition run agent condType status reason message) := by
  apply (Respects.attempt (writeStatus_keepsTo named _ _ _)).bind
  intro _
  exact Respects.pure _

theorem removeCondition_keepsTo (named : agent.key = key) (condType : String) :
    KeepsTo key base (removeCondition run agent condType) := by
  unfold removeCondition
  split
  · exact Respects.pure _
  · apply (Respects.attempt (writeStatus_keepsTo named _ _ _)).bind
    intro _
    exact Respects.pure _

theorem updateStatus_keepsTo (named : agent.key = key) :
    KeepsTo key base (updateStatus run agent) := by
  apply (call_keepsTo _ _).bind
  intro _
  apply Respects.reads
  · intro session
    have location : (⟨agent.metadata.ns, getStatefulSetName agent⟩ : NamespacedName) = key := named
    simp only [Session.elsewhere, footprint, location, Store.get_graft_self]
  · intro session
    apply (writeStatus_keepsTo named _ _ _).bind
    intro _
    exact Respects.pure _

theorem setDefaults_keepsTo (named : agent.key = key) :
    KeepsTo key base (setDefaults r run agent) := by
  unfold setDefaults
  rw [named]
  split
  · apply (issue_keepsTo _).bind
    intro _
    apply (call_keepsTo _ _).bind
    intro _
    apply (write_keepsTo _).bind
    · intro _
      exact Respects.pure _
    · exact modifyAgent_graft fun _ => rfl
  · exact Respects.pure _

/-! ### Reconcile -/

theorem report_keepsTo (named : agent.key = key) : KeepsTo key base (report r run agent) := by
  have counts : Triple (fun _ => True) (updateStatus run agent)
      (fun changed _ => changed.key = key) fun _ _ => True := by
    unfold updateStatus
    apply Triple.trivially.bind
    intro _
    apply Triple.trivially.bind
    intro _
    apply Triple.trivially.bind
    intro _
    exact Triple.pure fun _ _ => named
  apply checked_keepsTo (updateStatus_keepsTo named) counts
  · exact fun _ => Respects.pure _
  · intro counted named
    have sets : Triple (fun _ => True) (setCondition run counted conditionTypeAvailable "True"
        "AgentAvailable" "The agent is available") (fun changed _ => changed.key = key)
        fun _ _ => True := by
      unfold setCondition
      apply Triple.trivially.bind
      intro _
      exact Triple.pure fun _ _ => named
    apply (setCondition_keepsTo named _ _ _ _).bind_of sets
    intro changed named
    apply (removeCondition_keepsTo named _).bind
    intro _
    exact Respects.pure _

theorem degrade_keepsTo (named : agent.key = key) (reason message : String) :
    KeepsTo key base (degrade r run agent reason message) := by
  apply (setCondition_keepsTo named _ _ _ _).bind
  intro _
  exact Respects.pure _

theorem reconcileChildren_keepsTo (named : agent.key = key) :
    KeepsTo key base (reconcileChildren r run agent) := by
  apply checked_keepsTo (reconcileConfigMap_keepsTo named) Triple.trivially
    (degrade_keepsTo named _)
  intro _ _
  apply checked_keepsTo (reconcileStatefulSet_keepsTo named) Triple.trivially
    (degrade_keepsTo named _)
  intro _ _
  apply checked_keepsTo (reconcileService_keepsTo named) Triple.trivially
    (degrade_keepsTo named _)
  intro _ _
  exact report_keepsTo named

theorem reconcile_keepsTo : KeepsTo key base (reconcile r run key) := by
  have reads : KeepsTo key base (getAgent run key) := by
    apply (call_keepsTo _ _).bind
    intro _
    apply Respects.reads
    · intro session
      simp only [Session.elsewhere, footprint, Store.get_graft_self]
    · exact fun _ => Respects.pure _
  have finds : Triple (fun _ => True) (getAgent run key)
      (fun found _ => ∀ agent, found = some agent → agent.key = key) fun _ _ => True := by
    unfold getAgent
    apply Triple.trivially.bind
    intro _
    apply Triple.trivially.bind
    intro session
    exact Triple.pure fun _ _ agent found => session.cluster.agents.named found
  apply checked_keepsTo reads finds
  · exact fun _ => Respects.pure _
  · intro found named
    cases found with
    | none => exact Respects.pure _
    | some agent =>
        have fills : Triple (fun _ => True) (setDefaults r run agent)
            (fun changed _ => changed.key = key) fun _ _ => True := by
          unfold setDefaults
          split
          · apply Triple.trivially.bind
            intro _
            apply Triple.trivially.bind
            intro _
            apply Triple.trivially.bind
            intro _
            exact Triple.pure fun _ _ => named agent rfl
          · exact Triple.pure fun _ _ => named agent rfl
        apply checked_keepsTo (setDefaults_keepsTo (named agent rfl)) fills
        · exact fun _ => Respects.pure _
        · exact fun _ named => reconcileChildren_keepsTo named

end Keeping

theorem afterCall_confined (r : TailpostAgentReconciler) (run : Run) (key : NamespacedName) :
    (footprint key).Confines fun cluster => cluster.afterCall r (key, run) := by
  intro base cluster
  have runs := @reconcile_keepsTo r run key base ⟨cluster, []⟩
  exact congrArg (fun ran => ran.2.cluster) runs

/-! ## Pods -/

/-- The labels have all the values that the selector asks for. -/
def Matches (selector labels : StringMap) : Prop :=
  ∀ label value, selector.lookup label = some value → labels.lookup label = some value

/-- A selector that is generated for an agent. -/
def Selects (mustParse : String → Option Quantity) (cr : TailpostAgent) (selector : StringMap) :
    Prop :=
  (createService cr).selector = some selector ∨
    ∃ workload, createStatefulSet mustParse cr = .ok workload ∧ workload.spec.selector = selector

theorem eq_getLabels_of_selects {mustParse : String → Option Quantity} {cr : TailpostAgent}
    {selector : StringMap} (selects : Selects mustParse cr selector) :
    selector = getLabels cr := by
  rcases selects with service | ⟨workload, created, rfl⟩
  · exact (Option.some.inj service).symm
  · obtain ⟨_, _, _, _, rfl⟩ := createStatefulSet_eq_ok created
    rfl

theorem lookup_instance (cr : TailpostAgent) :
    (getLabels cr).lookup "app.kubernetes.io/instance" = some cr.metadata.name := by
  simp [getLabels]

theorem not_matches_getLabels {first second : TailpostAgent}
    (different : first.metadata.name ≠ second.metadata.name) :
    ¬ Matches (getLabels first) (getLabels second) := by
  intro isMatch
  have found := isMatch _ _ (lookup_instance first)
  rw [lookup_instance] at found
  exact different (Option.some.inj found).symm

/-! ## Independent agents -/

/-- An agent and the objects that are derived from it stay as they are. -/
structure Untouched (cr : TailpostAgent) (before after : Cluster) : Prop where
  agent : after.agents.get cr.key = before.agents.get cr.key
  configMap : after.configMaps.get ⟨cr.metadata.ns, getConfigMapName cr⟩ =
    before.configMaps.get ⟨cr.metadata.ns, getConfigMapName cr⟩
  statefulSet : after.statefulSets.get ⟨cr.metadata.ns, getStatefulSetName cr⟩ =
    before.statefulSets.get ⟨cr.metadata.ns, getStatefulSetName cr⟩
  service : after.services.get ⟨cr.metadata.ns, getServiceName cr⟩ =
    before.services.get ⟨cr.metadata.ns, getServiceName cr⟩

theorem untouched_of_graft {cr : TailpostAgent} {before after : Cluster}
    (same : (footprint cr.key).graft after before = after) : Untouched cr before after := by
  rw [← same]
  constructor
  · exact Store.get_graft_self _ _ _
  · exact Store.get_graft_self _ _ _
  · exact Store.get_graft_self _ _ _
  · exact Store.get_graft_self _ _ _

/-- A call for one agent leaves another agent and its children alone, calls for two agents
lead to the same cluster in either order, and the selectors of one agent do not match the
pods of another in its namespace. -/
theorem reconcile_independent (r : TailpostAgentReconciler) (cluster : Cluster)
    {first second : TailpostAgent} (different : first.key ≠ second.key)
    (firstRun secondRun : Run) :
    Untouched second cluster (cluster.afterCall r (first.key, firstRun)) ∧
    (cluster.afterCall r (first.key, firstRun)).afterCall r (second.key, secondRun) =
      (cluster.afterCall r (second.key, secondRun)).afterCall r (first.key, firstRun) ∧
    (first.metadata.ns = second.metadata.ns → ∀ selector workload,
      Selects r.mustParse first selector → createStatefulSet r.mustParse second = .ok workload →
      ¬ Matches selector workload.spec.template.labels) := by
  have disjoint := footprint_disjoint different
  have firstConfined := afterCall_confined r firstRun first.key
  have secondConfined := afterCall_confined r secondRun second.key
  constructor
  · exact untouched_of_graft (firstConfined.graft_other disjoint cluster)
  constructor
  · exact firstConfined.comm secondConfined disjoint cluster
  · intro sameNamespace selector workload selects created
    obtain ⟨_, _, _, _, rfl⟩ := createStatefulSet_eq_ok created
    rw [eq_getLabels_of_selects selects]
    apply not_matches_getLabels
    intro sameName
    apply different
    simp only [TailpostAgent.key, ObjectMeta.key, sameNamespace, sameName]

/-- An agent that has the name of another one's ConfigMap. -/
def configAgent : TailpostAgent :=
  { sampleAgent "Always" with metadata := ⟨"agent-config", "default", "2", ∅, []⟩ }

/-- Both agents are stored and have no children yet. -/
theorem reconcile_independent_config :
    Untouched configAgent ((sampleCluster "Always").withAgent configAgent)
      (((sampleCluster "Always").withAgent configAgent).afterCall sampleReconciler
        ((sampleAgent "Always").key, .undisturbed .asAdded)) ∧
    (((sampleCluster "Always").withAgent configAgent).afterCall sampleReconciler
        ((sampleAgent "Always").key, .undisturbed .asAdded)).afterCall sampleReconciler
          (configAgent.key, .undisturbed .asAdded) =
      (((sampleCluster "Always").withAgent configAgent).afterCall sampleReconciler
        (configAgent.key, .undisturbed .asAdded)).afterCall sampleReconciler
          ((sampleAgent "Always").key, .undisturbed .asAdded) ∧
    ∀ selector workload, Selects sampleReconciler.mustParse (sampleAgent "Always") selector →
      createStatefulSet sampleReconciler.mustParse configAgent = .ok workload →
      ¬ Matches selector workload.spec.template.labels := by
  have different : (sampleAgent "Always").key ≠ configAgent.key := by
    decide
  obtain ⟨untouched, comm, apart⟩ := reconcile_independent sampleReconciler
    ((sampleCluster "Always").withAgent configAgent) different (.undisturbed .asAdded)
    (.undisturbed .asAdded)
  exact ⟨untouched, comm, apart rfl⟩

end Tailpost.Operator
