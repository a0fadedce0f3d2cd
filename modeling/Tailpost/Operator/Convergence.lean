import Tailpost.Operator.Outcome

/-!
# Convergence of the reconciler

After a run in which every call succeeds the children should carry what the
agent's spec asks for.  The ConfigMap and the Service always do.  A StatefulSet
that exists is compared by its replicas and by the image and the resources of
its first container only: a change of any other field is not rolled out.
-/

namespace Tailpost.Operator

open Tailpost.Hoare
open Tailpost.Storage

/-! ## What the children should carry -/

/-- The fields of a container that come from the spec or the generator. -/
structure ContainerFields where
  image : String
  imagePullPolicy : String
  resources : ResourceRequirements
  command : List String
  args : List String
  ports : List ContainerPort
  volumeMounts : List VolumeMount
  deriving DecidableEq

/-- These fields of a container. -/
def Container.fields (container : Container) : ContainerFields where
  image := container.image
  imagePullPolicy := container.imagePullPolicy
  resources := container.resources
  command := container.command
  args := container.args
  ports := container.ports
  volumeMounts := container.volumeMounts

/-- What a StatefulSet runs. -/
structure Workload where
  replicas : Option Int32
  serviceAccountName : String
  containers : List ContainerFields
  volumes : List Volume
  deriving DecidableEq

/-- What the pods of a specification run. -/
def StatefulSetSpec.workload (spec : StatefulSetSpec) : Workload where
  replicas := spec.replicas
  serviceAccountName := spec.template.serviceAccountName
  containers := spec.template.containers.map Container.fields
  volumes := spec.template.volumes

/-- The live children carry what the generators make of the agent. -/
structure Converged (mustParse : String → Option Quantity) (order : Iteration)
    (cr : TailpostAgent) (cluster : Cluster) : Prop where
  configMap : ∃ desired live, createConfigMap order cr = .ok desired ∧
    cluster.configMaps.get desired.key = some live ∧ live.data = desired.data
  statefulSet : ∃ desired live, createStatefulSet mustParse cr = .ok desired ∧
    cluster.statefulSets.get desired.key = some live ∧
    live.spec.workload = desired.spec.workload
  service : ∃ live, cluster.services.get (createService cr).key = some live ∧
    live.selector = (createService cr).selector ∧ live.ports = (createService cr).ports

/-- The fields of a StatefulSet that are compared differ. -/
def Differs (live desired : StatefulSet) : Prop :=
  live.spec.replicas ≠ desired.spec.replicas ∨
    live.spec.template.containers.head?.map Container.image ≠
      desired.spec.template.containers.head?.map Container.image ∨
    live.spec.template.containers.head?.map Container.resources ≠
      desired.spec.template.containers.head?.map Container.resources

/-- The StatefulSet is absent, or differs in a field that is compared, or runs
what it should already. -/
def RollsOut (mustParse : String → Option Quantity) (cr : TailpostAgent)
    (cluster : Cluster) : Prop :=
  ∀ desired live, createStatefulSet mustParse cr = .ok desired →
    cluster.statefulSets.get desired.key = some live →
    Differs live desired ∨ live.spec.workload = desired.spec.workload

/-! ## Settled children -/

theorem data_of_settled {live : Option ConfigMap} {desired object : ConfigMap}
    (settled : configMapKind.settled live desired = .ok object) :
    object.data = desired.data := by
  have still := ChildKind.needsUpdate_of_settled settled (configMapKind_sound desired)
  simpa [configMapKind, configMapNeedsUpdate] using still

theorem selector_ports_of_settled {live : Option Service} {desired object : Service}
    (settled : serviceKind.settled live desired = .ok object) :
    object.selector = desired.selector ∧ object.ports = desired.ports := by
  have still := ChildKind.needsUpdate_of_settled settled (serviceKind_sound desired)
  simpa [serviceKind, serviceNeedsUpdate] using still

/-- The test for an update finds the differences in the fields it compares. -/
theorem differs_iff_needsUpdate {live desired : StatefulSet} {needed : Bool}
    (result : statefulSetNeedsUpdate live desired = .ok needed) :
    Differs live desired ↔ needed = true := by
  unfold statefulSetNeedsUpdate at result
  unfold Differs
  split at result
  next different =>
    cases result
    exact ⟨fun _ => rfl, fun _ => Or.inl different⟩
  next same =>
    split at result
    next container _ wanted _ liveContainers desiredContainers =>
      cases result
      rw [liveContainers, desiredContainers]
      simp [same]
    next => contradiction

/-- A settled StatefulSet runs what it should exactly when the one before was
absent, differed in a compared field, or ran it already. -/
theorem workload_of_settled_iff {live : Option StatefulSet} {desired object : StatefulSet}
    (settled : statefulSetKind.settled live desired = .ok object) :
    object.spec.workload = desired.spec.workload ↔
      ∀ found, live = some found →
        Differs found desired ∨ found.spec.workload = desired.spec.workload := by
  unfold ChildKind.settled at settled
  split at settled
  next =>
    cases settled
    simp
  next found =>
    have onlyFound : ∀ {condition : StatefulSet → Prop},
        (∀ other, some found = some other → condition other) ↔ condition found := by
      simp
    rw [onlyFound]
    split at settled
    next needed =>
      cases settled
      exact ⟨fun _ => Or.inl ((differs_iff_needsUpdate needed).mpr rfl), fun _ => rfl⟩
    next unneeded =>
      cases settled
      have same := (differs_iff_needsUpdate unneeded).not.mpr Bool.false_ne_true
      exact ⟨Or.inr, fun condition => condition.resolve_left same⟩
    next => contradiction

/-! ## Convergence -/

theorem Reconciled.converged_iff {r : TailpostAgentReconciler} {run : Run} {cr : TailpostAgent}
    {before after : Cluster} (reconciled : Reconciled r run cr before after) :
    Converged r.mustParse run.order cr after ↔ RollsOut r.mustParse cr before := by
  rcases reconciled.statefulSet with ⟨_, object, created, settled, stored⟩
  rcases map_eq_ok_iff.mp created with ⟨desired, result, rfl⟩
  rw [StatefulSet.key, r.controllerReferences.key_set] at settled stored
  have rollsOut : RollsOut r.mustParse cr before ↔
      object.spec.workload = desired.spec.workload := by
    rw [workload_of_settled_iff settled]
    constructor
    · intro condition found live
      exact condition desired found result live
    · intro condition other found same live
      cases result.symm.trans same
      exact condition found live
  rw [rollsOut]
  constructor
  · intro converged
    rcases converged.statefulSet with ⟨other, live, same, found, equal⟩
    cases result.symm.trans same
    cases stored.symm.trans found
    exact equal
  · intro equal
    constructor
    · rcases reconciled.configMap with ⟨_, live, created, settled, stored⟩
      rcases map_eq_ok_iff.mp created with ⟨wanted, result, rfl⟩
      rw [ConfigMap.key, r.controllerReferences.key_set] at stored
      have equal := data_of_settled settled
      exact ⟨wanted, live, result, stored, equal⟩
    · exact ⟨desired, object, result, stored, equal⟩
    · rcases reconciled.service with ⟨wanted, live, created, settled, stored⟩
      cases created
      rw [Service.key, r.controllerReferences.key_set] at stored
      have equal := selector_ports_of_settled settled
      exact ⟨live, stored, equal⟩

/-- After a run in which every call succeeds, the children carry what the spec
asks for exactly when the StatefulSet was absent, differed in its replicas or in
its first container's image or resources, or ran what it should already. -/
theorem converged_iff_rollsOut {r : TailpostAgentReconciler} {run : Run} {cluster : Cluster}
    {key : NamespacedName} {agent : TailpostAgent} {effects : List Effect}
    {response : Response} {after : Session} (found : cluster.agents.get key = some agent)
    (succeeds : ∀ api, run.fails api = none)
    (ran : exec (reconcile r run key) ⟨cluster, effects⟩ = (.ok response, after)) :
    (∃ stored, after.cluster.agents.get key = some stored ∧
        Converged r.mustParse run.order stored after.cluster) ↔
      RollsOut r.mustParse (filled r agent) cluster := by
  have reconciled := reconciled_of_succeeds found succeeds ran
  rw [← reconciled.converged_iff]
  rcases reconciled.agent with ⟨status, stored⟩
  have named : agent.key = key := cluster.agents.named found
  rw [← named]
  constructor
  · rintro ⟨other, same, converged⟩
    cases stored.symm.trans same
    exact ⟨converged.configMap, converged.statefulSet, converged.service⟩
  · intro converged
    exact ⟨_, stored, converged.configMap, converged.statefulSet, converged.service⟩

/-! ## A change that is not rolled out -/

/-- The loop visits the entries in the order in which they were added. -/
def Iteration.asAdded : Iteration where
  arrange := id
  perm := fun data => List.Perm.refl data

/-- A run in which every call succeeds. -/
def Run.undisturbed (order : Iteration) : Run where
  fails := fun _ => none
  order := order
  updateTime := 0
  conditionTime := 0

/-- A reference to an agent that controls an object. -/
def controllerReference (owner : ObjectMeta) : OwnerReference :=
  ⟨"tailpost.elastic.co/v1alpha1", "TailpostAgent", owner.name, owner.uid, true, true⟩

/-- The agent is added to the owners of an object. -/
def sampleReferences : ControllerReferences where
  set := fun owner metadata =>
    { metadata with ownerReferences := metadata.ownerReferences ++ [controllerReference owner] }
  key_set := fun _ _ => rfl
  isControlledBy_set := by
    intro agent metadata unowned
    refine ⟨controllerReference agent.metadata, ?_, rfl⟩
    simp [controllerOf, unowned, controllerReference]

/-- An operator whose agents ask for no resources. -/
def sampleReconciler : TailpostAgentReconciler where
  defaultImage := "tailpost:latest"
  resyncPeriod := 600
  requeuePeriod := 30
  mustParse := fun _ => none
  controllerReferences := sampleReferences

/-- An agent with a pull policy and no other optional field. -/
def sampleAgent (imagePullPolicy : String) : TailpostAgent where
  metadata := ⟨"agent", "default", "1", ∅, []⟩
  spec := {
    replicas := none
    image := ""
    imagePullPolicy := imagePullPolicy
    serviceAccount := ""
    logSources := []
    serverURL := "http://logs"
    batchSize := none
    flushInterval := ""
    resources := ⟨⟨"", ""⟩, ⟨"", ""⟩⟩ }
  status := ⟨[], 0, 0⟩

/-- The agent alone. -/
def sampleCluster (imagePullPolicy : String) : Cluster where
  agents := Store.empty.put (sampleAgent imagePullPolicy)
  configMaps := .empty
  statefulSets := .empty
  services := .empty

/-- The StatefulSet was made for another image, and is replaced. -/
theorem converged_iff_rollsOut_newImage :
    ∃ response after,
      exec (reconcile sampleReconciler (.undisturbed .asAdded) ⟨"default", "agent"⟩)
        ⟨{ sampleCluster "Always" with
          statefulSets := Store.empty.put
            (statefulSetOf (filled { sampleReconciler with defaultImage := "tailpost:old" }
              (sampleAgent "Always")) ⟨none, none⟩) }, []⟩ = (.ok response, after) ∧
      Effect.update .statefulSet ∈ after.effects ∧
      ∃ stored, after.cluster.agents.get ⟨"default", "agent"⟩ = some stored ∧
        Converged sampleReconciler.mustParse .asAdded stored after.cluster := by
  refine ⟨_, _, rfl, by decide, ?_⟩
  have rollsOut : RollsOut sampleReconciler.mustParse
      (filled sampleReconciler (sampleAgent "Always"))
      { sampleCluster "Always" with
        statefulSets := Store.empty.put
          (statefulSetOf (filled { sampleReconciler with defaultImage := "tailpost:old" }
            (sampleAgent "Always")) ⟨none, none⟩) } := by
    rintro desired live created found
    cases created
    cases found
    exact .inl (.inr (.inl (by decide)))
  exact (@converged_iff_rollsOut sampleReconciler (.undisturbed .asAdded) _
    ⟨"default", "agent"⟩ (sampleAgent "Always") [] _ _ rfl (fun _ => rfl) rfl).mpr rollsOut

/-- The StatefulSet was made for the pull policy `IfNotPresent`; the spec now
says `Always`, every call succeeds, and the StatefulSet stays as it was. -/
theorem pullPolicy_not_rolledOut :
    ∃ response after,
      exec (reconcile sampleReconciler (.undisturbed .asAdded) ⟨"default", "agent"⟩)
        ⟨{ sampleCluster "Always" with
          statefulSets := Store.empty.put
            (statefulSetOf (filled sampleReconciler (sampleAgent "IfNotPresent"))
              ⟨none, none⟩) }, []⟩ = (.ok response, after) ∧
      response.error = none ∧
      ¬ ∃ stored, after.cluster.agents.get ⟨"default", "agent"⟩ = some stored ∧
        Converged sampleReconciler.mustParse .asAdded stored after.cluster := by
  refine ⟨_, _, rfl, rfl, ?_⟩
  rintro ⟨stored, found, converged⟩
  cases found
  rcases converged.statefulSet with ⟨desired, live, created, found, equal⟩
  cases created
  cases found
  revert equal
  decide

end Tailpost.Operator
