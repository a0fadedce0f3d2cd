import Tailpost.Operator.Convergence

/-!
# Ownership of the children

The operator sets the controller reference on the objects it generates.  An object that
exists already under the name of a child is updated in place, whoever controls it, and
keeps its metadata.  Only where no such object belongs to somebody else are the children
the agent's own after a run.
-/

namespace Tailpost.Operator

open Tailpost.Hoare
open Tailpost.Storage

namespace ChildKind

variable {α : Type} {nameOf : α → NamespacedName} (kind : ChildKind nameOf)
  (metadata : α → ObjectMeta) (agent : TailpostAgent) (location : NamespacedName)

/-- An object that exists under this name is controlled by the agent. -/
def OwnedBy (cluster : Cluster) : Prop :=
  ∀ live, (kind.store cluster).get location = some live → IsControlledBy (metadata live) agent

/-- An object that exists under this name and is not controlled by the agent stays as it is. -/
def KeepsForeign (before after : Cluster) : Prop :=
  ∀ live, (kind.store before).get location = some live →
    ¬ IsControlledBy (metadata live) agent → (kind.store after).get location = some live

variable {kind metadata agent location}

theorem OwnedBy.keepsForeign {before : Cluster}
    (owned : kind.OwnedBy metadata agent location before)
    (after : Cluster) : kind.KeepsForeign metadata agent location before after :=
  fun live found foreign => absurd (owned live found) foreign

/-- A child belongs to the agent after a run exactly when nobody else had it before. -/
theorem Carries.ownedBy_iff {created : Except Failure α} {before after : Cluster}
    (carries : kind.Carries created before after)
    (keeps : ∀ found desired, metadata (kind.merge found desired) = metadata found)
    (generated : ∀ desired, created = .ok desired →
      nameOf desired = location ∧ IsControlledBy (metadata desired) agent) :
    kind.OwnedBy metadata agent location after ↔
      kind.OwnedBy metadata agent location before := by
  obtain ⟨desired, object, created, settled, stored⟩ := carries
  obtain ⟨rfl, controlled⟩ := generated desired created
  have same := eq_getD_of_settled keeps settled
  have ownedAfter : kind.OwnedBy metadata agent (nameOf desired) after ↔
      IsControlledBy (metadata object) agent := by
    simp [OwnedBy, stored]
  rw [ownedAfter, same]
  unfold OwnedBy
  cases (kind.store before).get (nameOf desired) with
  | none => simp [controlled]
  | some found => simp

end ChildKind

/-! ## The children of an agent -/

/-- The objects that exist under the names of the children are controlled by the agent. -/
structure Owned (agent : TailpostAgent) (cluster : Cluster) : Prop where
  configMap : configMapKind.OwnedBy ConfigMap.metadata agent
    ⟨agent.metadata.ns, getConfigMapName agent⟩ cluster
  statefulSet : statefulSetKind.OwnedBy StatefulSet.metadata agent
    ⟨agent.metadata.ns, getStatefulSetName agent⟩ cluster
  service : serviceKind.OwnedBy Service.metadata agent
    ⟨agent.metadata.ns, getServiceName agent⟩ cluster

/-- The objects that exist under these names and are not controlled by the agent stay as they
are. -/
structure KeepsForeign (agent : TailpostAgent) (before after : Cluster) : Prop where
  configMap : configMapKind.KeepsForeign ConfigMap.metadata agent
    ⟨agent.metadata.ns, getConfigMapName agent⟩ before after
  statefulSet : statefulSetKind.KeepsForeign StatefulSet.metadata agent
    ⟨agent.metadata.ns, getStatefulSetName agent⟩ before after
  service : serviceKind.KeepsForeign Service.metadata agent
    ⟨agent.metadata.ns, getServiceName agent⟩ before after

theorem Owned.keepsForeign {agent : TailpostAgent} {before : Cluster} (owned : Owned agent before)
    (after : Cluster) : KeepsForeign agent before after where
  configMap := owned.configMap.keepsForeign after
  statefulSet := owned.statefulSet.keepsForeign after
  service := owned.service.keepsForeign after

section Generated

variable {r : TailpostAgentReconciler} {agent : TailpostAgent}

theorem desiredConfigMap_owned {order : Iteration} {desired : ConfigMap}
    (created : desiredConfigMap r order agent = .ok desired) :
    desired.key = ⟨agent.metadata.ns, getConfigMapName agent⟩ ∧
      IsControlledBy desired.metadata agent := by
  refine ⟨key_of_desiredConfigMap created, ?_⟩
  obtain ⟨_, made, rfl⟩ := map_eq_ok_iff.mp created
  obtain ⟨_, _, rfl⟩ := createConfigMap_eq_ok made
  exact r.controllerReferences.isControlledBy_set agent _ rfl

theorem desiredStatefulSet_owned {desired : StatefulSet}
    (created : desiredStatefulSet r agent = .ok desired) :
    desired.key = ⟨agent.metadata.ns, getStatefulSetName agent⟩ ∧
      IsControlledBy desired.metadata agent := by
  refine ⟨key_of_desiredStatefulSet created, ?_⟩
  obtain ⟨_, made, rfl⟩ := map_eq_ok_iff.mp created
  obtain ⟨_, _, _, _, rfl⟩ := createStatefulSet_eq_ok made
  exact r.controllerReferences.isControlledBy_set agent _ rfl

theorem desiredService_owned {desired : Service}
    (created : desiredService r agent = .ok desired) :
    desired.key = ⟨agent.metadata.ns, getServiceName agent⟩ ∧
      IsControlledBy desired.metadata agent := by
  refine ⟨key_of_desiredService created, ?_⟩
  cases created
  exact r.controllerReferences.isControlledBy_set agent _ rfl

end Generated

/-- After a run in which every call succeeds, the children are the agent's exactly when they
were nobody else's before. -/
theorem Reconciled.owned_iff {r : TailpostAgentReconciler} {run : Run} {agent : TailpostAgent}
    {before after : Cluster} (reconciled : Reconciled r run (filled r agent) before after) :
    Owned agent after ↔ Owned agent before := by
  have configMap : configMapKind.OwnedBy ConfigMap.metadata (filled r agent)
      ⟨agent.metadata.ns, getConfigMapName agent⟩ after ↔
      configMapKind.OwnedBy ConfigMap.metadata (filled r agent) _ before :=
    reconciled.configMap.ownedBy_iff (fun _ _ => rfl) fun _ => desiredConfigMap_owned
  have statefulSet : statefulSetKind.OwnedBy StatefulSet.metadata (filled r agent)
      ⟨agent.metadata.ns, getStatefulSetName agent⟩ after ↔
      statefulSetKind.OwnedBy StatefulSet.metadata (filled r agent) _ before :=
    reconciled.statefulSet.ownedBy_iff (fun _ _ => rfl) fun _ => desiredStatefulSet_owned
  have service : serviceKind.OwnedBy Service.metadata (filled r agent)
      ⟨agent.metadata.ns, getServiceName agent⟩ after ↔
      serviceKind.OwnedBy Service.metadata (filled r agent) _ before :=
    reconciled.service.ownedBy_iff (fun _ _ => rfl) fun _ => desiredService_owned
  constructor
  · intro owned
    exact ⟨configMap.mp owned.configMap, statefulSet.mp owned.statefulSet,
      service.mp owned.service⟩
  · intro owned
    exact ⟨configMap.mpr owned.configMap, statefulSet.mpr owned.statefulSet,
      service.mpr owned.service⟩

/-- For an agent that can be reconciled: every run leaves alone what the agent does not
control, and the children are the agent's after every run in which all calls succeed, exactly
when nothing that exists under their names is somebody else's. -/
theorem keepsForeign_iff_owned {r : TailpostAgentReconciler} {whole : Run} {cluster : Cluster}
    {key : NamespacedName} {agent : TailpostAgent} {effects : List Effect} {response : Response}
    {after : Session} (found : cluster.agents.get key = some agent)
    (succeeds : ∀ api, whole.fails api = none)
    (ran : exec (reconcile r whole key) ⟨cluster, effects⟩ = (.ok response, after)) :
    (∀ run outcome final, exec (reconcile r run key) ⟨cluster, effects⟩ = (outcome, final) →
      KeepsForeign agent cluster final.cluster ∧
      ((∀ api, run.fails api = none) → outcome.isOk = true → Owned agent final.cluster)) ↔
    Owned agent cluster := by
  constructor
  · intro kept
    have owned := (kept whole _ after ran).2 succeeds rfl
    exact (reconciled_of_succeeds found succeeds ran).owned_iff.mp owned
  · intro owned run outcome final executed
    constructor
    · exact owned.keepsForeign final.cluster
    · intro undisturbed returned
      cases outcome with
      | error failure => contradiction
      | ok other => exact (reconciled_of_succeeds found undisturbed executed).owned_iff.mpr owned

/-- The agent has made its children.  Every further run leaves alone what is not the
agent's, and the children stay the agent's. -/
theorem keepsForeign_iff_owned_created :
    ∃ response first agent configMap workload service,
      exec (reconcile sampleReconciler (.undisturbed .asAdded) ⟨"default", "agent"⟩)
        ⟨sampleCluster "Always", []⟩ = (.ok response, first) ∧
      first.cluster.agents.get ⟨"default", "agent"⟩ = some agent ∧
      first.cluster.configMaps.get ⟨"default", "agent-config"⟩ = some configMap ∧
      first.cluster.statefulSets.get ⟨"default", "agent"⟩ = some workload ∧
      first.cluster.services.get ⟨"default", "agent"⟩ = some service ∧
      ∀ run outcome final,
        exec (reconcile sampleReconciler run ⟨"default", "agent"⟩) ⟨first.cluster, []⟩ =
          (outcome, final) →
        KeepsForeign agent first.cluster final.cluster ∧
        ((∀ api, run.fails api = none) → outcome.isOk = true → Owned agent final.cluster) := by
  refine ⟨_, _, _, _, _, _, rfl, rfl, rfl, rfl, rfl, ?_⟩
  refine (@keepsForeign_iff_owned sampleReconciler (.undisturbed .asAdded) _
    ⟨"default", "agent"⟩ _ [] _ _ rfl (fun _ => rfl) rfl).mpr ⟨?_, ?_, ?_⟩
  all_goals
    rintro live found
    cases found
    exact ⟨_, rfl, rfl⟩

/-- A ConfigMap that nobody controls. -/
def foreignConfigMap : ConfigMap where
  metadata := ⟨"agent-config", "default", "7", ∅, []⟩
  data := none

/-- The ConfigMap has the name of the agent's; its data is overwritten, and it is still not
controlled by the agent. -/
theorem foreign_overwritten :
    ∃ response after,
      exec (reconcile sampleReconciler (.undisturbed .asAdded) ⟨"default", "agent"⟩)
        ⟨{ sampleCluster "Always" with configMaps := Store.empty.put foreignConfigMap }, []⟩ =
          (.ok response, after) ∧
      response.error = none ∧
      ¬ KeepsForeign (sampleAgent "Always")
        { sampleCluster "Always" with configMaps := Store.empty.put foreignConfigMap }
        after.cluster ∧
      ¬ Owned (sampleAgent "Always") after.cluster := by
  refine ⟨_, _, rfl, rfl, ?_, ?_⟩
  · intro kept
    have same := kept.configMap foreignConfigMap rfl (by rintro ⟨_, found, _⟩; contradiction)
    cases same
  · intro owned
    obtain ⟨_, found, _⟩ := owned.configMap _ rfl
    contradiction

end Tailpost.Operator
