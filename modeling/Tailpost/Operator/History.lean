import Tailpost.Operator.Isolation

/-!
# Histories of a cluster

Agents are applied, changed and deleted, the StatefulSet controller reports ready pods,
children are deleted by the garbage collector or by hand, and in between `Reconcile` is
called for any agent, with any calls to the API server failing.  Over all such histories
what the operator owns in a child comes whole from one version of its agent.
-/

namespace Tailpost.Operator

open Tailpost.Hoare
open Tailpost.Storage

/-! ## What happens in a cluster -/

/-- A cluster, and the agents that were applied to it so far. -/
structure World where
  cluster : Cluster
  versions : List TailpostAgent

/-- What happens to a cluster: the users, the other controllers and the operator. -/
inductive Happening
  /-- A user creates an agent, or replaces it by another version. -/
  | apply (agent : TailpostAgent)
  | deleteAgent (key : NamespacedName)
  /-- The garbage collector or a user deletes an object. -/
  | deleteChild (child : Child) (location : NamespacedName)
  /-- The StatefulSet controller counts the ready pods. -/
  | ready (location : NamespacedName) (replicas : Int32)
  | reconcile (key : NamespacedName) (run : Run)

/-- A cluster without objects. -/
def Cluster.empty : Cluster :=
  ⟨.empty, .empty, .empty, .empty⟩

/-- An object is deleted. -/
def Cluster.deleteChild (cluster : Cluster) (location : NamespacedName) : Child → Cluster
  | .configMap => { cluster with configMaps := cluster.configMaps.erase location }
  | .statefulSet => { cluster with statefulSets := cluster.statefulSets.erase location }
  | .service => { cluster with services := cluster.services.erase location }

/-- The ready replicas of a StatefulSet change. -/
def Cluster.ready (cluster : Cluster) (location : NamespacedName) (replicas : Int32) : Cluster :=
  match cluster.statefulSets.get location with
  | some live =>
      { cluster with
        statefulSets := cluster.statefulSets.put { live with readyReplicas := replicas } }
  | none => cluster

namespace World

/-- Nothing has been applied. -/
def empty : World :=
  ⟨.empty, []⟩

/-- The world after a happening. -/
def after (r : TailpostAgentReconciler) (world : World) : Happening → World
  | .apply agent => ⟨world.cluster.withAgent agent, agent :: world.versions⟩
  | .deleteAgent key =>
      { world with cluster := { world.cluster with agents := world.cluster.agents.erase key } }
  | .deleteChild child location =>
      { world with cluster := world.cluster.deleteChild location child }
  | .ready location replicas => { world with cluster := world.cluster.ready location replicas }
  | .reconcile key run => { world with cluster := world.cluster.afterCall r (key, run) }

/-- The world behind a history. -/
def behind (r : TailpostAgentReconciler) (history : List Happening) : World :=
  history.foldl (after r) empty

end World

/-! ## What a call of `Reconcile` keeps -/

section Endings

variable {r : TailpostAgentReconciler} {run : Run} {cr : TailpostAgent}
  {before final : Cluster} {outcome : Except Failure Response}

theorem exists_status_reported (run : Run) (ready : Int32) (agent : TailpostAgent) :
    ∃ status, reported run ready agent = { agent with status } := by
  rw [reported, announced_eq]
  exact ⟨_, rfl⟩

/-- What is kept by writing the agent with any status and by settling the children one
after the other, is kept by a call however it ends. -/
theorem Ending.invariant (holds : Cluster → Prop)
    (ending : Ending r run cr before outcome final) (initial : holds before)
    (agent : ∀ {cluster} status, holds cluster → holds (cluster.withAgent { cr with status }))
    (configMap : ∀ {first second}, holds first →
      configMapKind.Settles (desiredConfigMap r run.order cr) first second → holds second)
    (statefulSet : ∀ {first second third}, holds second →
      configMapKind.Settles (desiredConfigMap r run.order cr) first second →
      statefulSetKind.Settles (desiredStatefulSet r cr) second third → holds third)
    (service : ∀ {first second}, holds first →
      serviceKind.Settles (desiredService r cr) first second → holds second) : holds final := by
  have first {reached : Cluster} (stage : FirstStage r run cr before reached) : holds reached :=
    configMap (agent cr.status initial) stage
  have second {reached : Cluster} (stage : SecondStage r run cr before reached) :
      holds reached := by
    obtain ⟨middle, stage, settles⟩ := stage
    exact statefulSet (first stage) stage settles
  have last {reached : Cluster} (stage : LastStage r run cr before reached) : holds reached := by
    obtain ⟨middle, stage, settles⟩ := stage
    exact service (second stage) settles
  have arrived {reached : Cluster} (progress : Progress r run cr before reached) :
      holds reached := by
    cases progress with
    | defaulted => exact agent cr.status initial
    | first stage => exact first stage
    | second stage => exact second stage
  cases ending with
  | refused => exact initial
  | degraded progress _ =>
      unfold Run.written
      split
      · exact agent _ (arrived progress)
      · exact arrived progress
  | unreported stage _ => exact last stage
  | @reported reached _ stage _ =>
      obtain ⟨status, same⟩ := exists_status_reported run (readyReplicas reached cr) cr
      rw [same]
      exact agent status (last stage)
  | configMapPanics => exact agent cr.status initial
  | statefulSetPanics stage _ => exact first stage

end Endings

/-! ## Where the children come from -/

section Tracing

variable {α β : Type} {nameOf : α → NamespacedName}

/-- The part of each child that the operator owns is the one of an object generated for
some version of the agent. -/
def ChildKind.Traced (kind : ChildKind nameOf) (part : α → β)
    (creates : TailpostAgent → α → Prop) (versions : List TailpostAgent) (cluster : Cluster) :
    Prop :=
  ∀ location live, (kind.store cluster).get location = some live →
    ∃ version ∈ versions, ∃ desired, creates version desired ∧ nameOf desired = location ∧
      part live = part desired

variable {kind : ChildKind nameOf} {part : α → β} {creates : TailpostAgent → α → Prop}
  {versions more : List TailpostAgent} {cluster next : Cluster}

theorem ChildKind.Traced.mono (traced : kind.Traced part creates versions cluster)
    (included : versions ⊆ more) : kind.Traced part creates more cluster := by
  intro location live found
  obtain ⟨version, member, rest⟩ := traced location live found
  exact ⟨version, included member, rest⟩

/-- Nothing is new except objects with the same part. -/
theorem ChildKind.Traced.of_part (traced : kind.Traced part creates versions cluster)
    (same : ∀ location live, (kind.store next).get location = some live →
      ∃ earlier, (kind.store cluster).get location = some earlier ∧ part live = part earlier) :
    kind.Traced part creates versions next := by
  intro location live found
  obtain ⟨earlier, stored, parts⟩ := same location live found
  rw [parts]
  exact traced location earlier stored

/-- A child that is settled for an agent comes from the version that the agent is. -/
theorem ChildKind.Traced.settles {created : Except Failure α}
    (traced : kind.Traced part creates versions cluster)
    (takes : ∀ found desired, part (kind.merge found desired) = part desired)
    (generated : ∀ desired, created = .ok desired →
      ∃ version ∈ versions, creates version desired)
    (settles : kind.Settles created cluster next) :
    kind.Traced part creates versions next := by
  obtain ⟨desired, object, created, settled, rfl⟩ := settles
  obtain ⟨version, member, creates⟩ := generated desired created
  have named := ChildKind.key_of_settled settled fun _ live => (kind.store cluster).named live
  intro location live found
  rw [kind.store_withStore] at found
  rcases Store.get_put_cases found with ⟨rfl, rfl⟩ | earlier
  · unfold ChildKind.settled at settled
    split at settled
    next =>
      cases settled
      exact ⟨version, member, _, creates, rfl, rfl⟩
    next live stored =>
      split at settled
      next =>
        cases settled
        exact ⟨version, member, desired, creates, named.symm, takes live desired⟩
      next =>
        cases settled
        rw [named]
        exact traced _ _ stored
      next => contradiction
  · exact traced location live earlier

end Tracing

/-- Agents and children come from versions that were applied. -/
structure World.Traced (r : TailpostAgentReconciler) (world : World) : Prop where
  agent : ∀ key agent, world.cluster.agents.get key = some agent →
    ∃ version ∈ world.versions, ∃ status, filled r agent = { filled r version with status }
  configMap : configMapKind.Traced ConfigMap.data
    (fun version desired => ∃ order, desiredConfigMap r order (filled r version) = .ok desired)
    world.versions world.cluster
  statefulSet : statefulSetKind.Traced StatefulSet.spec
    (fun version desired => desiredStatefulSet r (filled r version) = .ok desired)
    world.versions world.cluster
  service : serviceKind.Traced (fun service => (service.selector, service.ports))
    (fun version desired => desiredService r (filled r version) = .ok desired)
    world.versions world.cluster

namespace World

variable {r : TailpostAgentReconciler} {world : World}

theorem traced_empty : Traced r empty :=
  ⟨nofun, nofun, nofun, nofun⟩

theorem Traced.apply (traced : Traced r world) (agent : TailpostAgent) :
    Traced r (world.after r (.apply agent)) where
  agent := by
    intro key stored found
    rcases Store.get_put_cases found with ⟨_, rfl⟩ | earlier
    · exact ⟨stored, List.mem_cons_self, stored.status, rfl⟩
    · obtain ⟨version, member, same⟩ := traced.agent key stored earlier
      exact ⟨version, List.mem_cons_of_mem _ member, same⟩
  configMap := traced.configMap.mono (List.subset_cons_self _ _)
  statefulSet := traced.statefulSet.mono (List.subset_cons_self _ _)
  service := traced.service.mono (List.subset_cons_self _ _)

theorem Traced.deleteChild (traced : Traced r world) (child : Child)
    (location : NamespacedName) : Traced r (world.after r (.deleteChild child location)) := by
  cases child with
  | configMap =>
      exact { traced with
        configMap := traced.configMap.of_part fun _ live found =>
          ⟨live, Store.get_of_get_erase found, rfl⟩ }
  | statefulSet =>
      exact { traced with
        statefulSet := traced.statefulSet.of_part fun _ live found =>
          ⟨live, Store.get_of_get_erase found, rfl⟩ }
  | service =>
      exact { traced with
        service := traced.service.of_part fun _ live found =>
          ⟨live, Store.get_of_get_erase found, rfl⟩ }

theorem Traced.ready (traced : Traced r world) (location : NamespacedName) (replicas : Int32) :
    Traced r (world.after r (.ready location replicas)) := by
  simp only [World.after, Cluster.ready]
  split
  next counted stored =>
    refine { traced with statefulSet := traced.statefulSet.of_part fun other live found => ?_ }
    rcases Store.get_put_cases found with ⟨rfl, rfl⟩ | earlier
    · have named : counted.key = location := world.cluster.statefulSets.named stored
      exact ⟨counted, named ▸ stored, rfl⟩
    · exact ⟨live, earlier, rfl⟩
  next => exact traced

/-- A call of `Reconcile` generates children from the version that it reads. -/
theorem Traced.call (traced : Traced r world) (key : NamespacedName) (run : Run) :
    Traced r (world.after r (.reconcile key run)) := by
  simp only [World.after]
  cases found : world.cluster.agents.get key with
  | none =>
      rw [afterCall_of_missing found]
      exact traced
  | some agent =>
      obtain ⟨version, member, status, same⟩ := traced.agent key agent found
      obtain ⟨outcome, ending⟩ :=
        @ending_afterCall r world.cluster agent (key, run) found
      rw [same] at ending
      apply ending.invariant (fun cluster => Traced r ⟨cluster, world.versions⟩) traced
      · intro cluster written kept
        refine { kept with agent := fun other stored there => ?_ }
        rcases Store.get_put_cases there with ⟨_, rfl⟩ | earlier
        · refine ⟨version, member, written, ?_⟩
          simp only [filled, withDefaults_idem]
        · exact kept.agent other stored earlier
      · intro first second kept settles
        have generated : configMapKind.Traced ConfigMap.data (fun version desired =>
            ∃ order, desiredConfigMap r order (filled r version) = .ok desired)
            world.versions second :=
          kept.configMap.settles (fun _ _ => rfl)
            (fun _ created => ⟨version, member, run.order, created⟩) settles
        obtain ⟨_, _, _, _, rfl⟩ := settles
        exact { kept with configMap := generated }
      · intro first second third kept _ settles
        have generated : statefulSetKind.Traced StatefulSet.spec (fun version desired =>
            desiredStatefulSet r (filled r version) = .ok desired) world.versions third :=
          kept.statefulSet.settles (fun _ _ => rfl)
            (fun _ created => ⟨version, member, created⟩) settles
        obtain ⟨_, _, _, _, rfl⟩ := settles
        exact { kept with statefulSet := generated }
      · intro first second kept settles
        have generated : serviceKind.Traced (fun service => (service.selector, service.ports))
            (fun version desired => desiredService r (filled r version) = .ok desired)
            world.versions second :=
          kept.service.settles (fun _ _ => rfl)
            (fun _ created => ⟨version, member, created⟩) settles
        obtain ⟨_, _, _, _, rfl⟩ := settles
        exact { kept with service := generated }

/-- One happening keeps everything traceable. -/
theorem Traced.after (traced : Traced r world) (happening : Happening) :
    Traced r (world.after r happening) := by
  cases happening with
  | apply agent => exact traced.apply agent
  | deleteAgent key =>
      exact { traced with
        agent := fun other stored found =>
          traced.agent other stored (Store.get_of_get_erase found) }
  | deleteChild child location => exact traced.deleteChild child location
  | ready location replicas => exact traced.ready location replicas
  | reconcile key run => exact traced.call key run

end World

theorem traced_behind (r : TailpostAgentReconciler) (history : List Happening) :
    (World.behind r history).Traced r :=
  List.foldlRecOn history (World.after r) World.traced_empty
    fun _ traced happening _ => traced.after happening

theorem mem_versions_foldl {r : TailpostAgentReconciler} {history : List Happening} {world : World}
    {version : TailpostAgent}
    (isVersion : version ∈ (history.foldl (World.after r) world).versions) :
    version ∈ world.versions ∨ .apply version ∈ history := by
  induction history generalizing world with
  | nil => exact Or.inl isVersion
  | cons happening history ih =>
      rcases ih isVersion with earlier | later
      · cases happening with
        | apply agent =>
            rcases List.mem_cons.mp earlier with rfl | before
            · exact Or.inr List.mem_cons_self
            · exact Or.inl before
        | _ => exact Or.inl earlier
      · exact Or.inr (List.mem_cons_of_mem _ later)

/-- The versions are the agents that were applied. -/
theorem apply_mem_of_version {r : TailpostAgentReconciler} {history : List Happening}
    {version : TailpostAgent} (isVersion : version ∈ (World.behind r history).versions) :
    .apply version ∈ history :=
  (mem_versions_foldl isVersion).resolve_left List.not_mem_nil

/-- Whatever happens, the data of every ConfigMap, the spec of every StatefulSet and the
selector and ports of every Service are the ones generated from one version of the agent
that was applied under its name, with the defaults filled in. -/
theorem children_of_one_version (r : TailpostAgentReconciler) (history : List Happening)
    (location : NamespacedName) :
    (∀ live, (World.behind r history).cluster.configMaps.get location = some live →
      ∃ version, .apply version ∈ history ∧ configMapKey version.key = location ∧
        ∃ order desired, createConfigMap order (filled r version) = .ok desired ∧
          live.data = desired.data) ∧
    (∀ live, (World.behind r history).cluster.statefulSets.get location = some live →
      ∃ version, .apply version ∈ history ∧ version.key = location ∧
        ∃ desired, createStatefulSet r.mustParse (filled r version) = .ok desired ∧
          live.spec = desired.spec) ∧
    (∀ live, (World.behind r history).cluster.services.get location = some live →
      ∃ version, .apply version ∈ history ∧ version.key = location ∧
        live.selector = (createService (filled r version)).selector ∧
        live.ports = (createService (filled r version)).ports) := by
  have traced := traced_behind r history
  refine ⟨fun live found => ?_, fun live found => ?_, fun live found => ?_⟩
  · obtain ⟨version, member, desired, ⟨order, created⟩, named, same⟩ :=
      traced.configMap location live found
    have key := (key_of_desiredConfigMap created).symm.trans named
    obtain ⟨made, generated, rfl⟩ := map_eq_ok_iff.mp created
    exact ⟨version, apply_mem_of_version member, key, order, made, generated, same⟩
  · obtain ⟨version, member, desired, created, named, same⟩ :=
      traced.statefulSet location live found
    have key := (key_of_desiredStatefulSet created).symm.trans named
    obtain ⟨made, generated, rfl⟩ := map_eq_ok_iff.mp created
    exact ⟨version, apply_mem_of_version member, key, made, generated, same⟩
  · obtain ⟨version, member, desired, created, named, same⟩ := traced.service location live found
    have key := (key_of_desiredService created).symm.trans named
    cases created
    rcases Prod.mk.inj same with ⟨selector, ports⟩
    exact ⟨version, apply_mem_of_version member, key, selector, ports⟩

/-! ## Selectors -/

theorem getLabels_congr {first second : TailpostAgent}
    (same : first.metadata.name = second.metadata.name) : getLabels first = getLabels second := by
  simp only [getLabels, same]

section Selectors

variable {r : TailpostAgentReconciler} {world : World} {location : NamespacedName}

/-- What is generated under a name has the labels of this name. -/
theorem World.Traced.exists_statefulSet (traced : world.Traced r) {live : StatefulSet}
    (found : world.cluster.statefulSets.get location = some live) :
    ∃ version ∈ world.versions, version.key = location ∧
      ∃ resources, live.spec = (statefulSetOf (filled r version) resources).spec := by
  obtain ⟨version, member, desired, created, named, same⟩ := traced.statefulSet location live found
  refine ⟨version, member, (key_of_desiredStatefulSet created).symm.trans named, ?_⟩
  obtain ⟨_, made, rfl⟩ := map_eq_ok_iff.mp created
  obtain ⟨limits, requests, _, _, rfl⟩ := createStatefulSet_eq_ok made
  exact ⟨⟨limits, requests⟩, same⟩

theorem World.Traced.exists_service (traced : world.Traced r) {live : Service}
    (found : world.cluster.services.get location = some live) :
    ∃ version ∈ world.versions, version.key = location ∧
      live.selector = some (getLabels version) := by
  obtain ⟨version, member, desired, created, named, same⟩ := traced.service location live found
  have key := (key_of_desiredService created).symm.trans named
  cases created
  exact ⟨version, member, key, congrArg Prod.fst same⟩

/-- A selector that is in use under a name. -/
def Cluster.Uses (cluster : Cluster) (location : NamespacedName) (selector : StringMap) : Prop :=
  (∃ service, cluster.services.get location = some service ∧ service.selector = some selector) ∨
    ∃ workload, cluster.statefulSets.get location = some workload ∧
      workload.spec.selector = selector

theorem World.Traced.uses (traced : world.Traced r) {selector : StringMap}
    (uses : world.cluster.Uses location selector) :
    ∃ version, version.key = location ∧ selector = getLabels version := by
  rcases uses with ⟨service, found, selects⟩ | ⟨workload, found, rfl⟩
  · obtain ⟨version, _, named, same⟩ := traced.exists_service found
    exact ⟨version, named, Option.some.inj (selects.symm.trans same)⟩
  · obtain ⟨version, _, named, resources, same⟩ := traced.exists_statefulSet found
    exact ⟨version, named, by rw [same]; rfl⟩

end Selectors

/-- Whatever happens, a selector that a Service or a StatefulSet uses matches the pods of
the StatefulSet of its own agent, and of no other agent in the namespace. -/
theorem selector_matches_iff (r : TailpostAgentReconciler) (history : List Happening)
    {source target : NamespacedName} {selector : StringMap} {workload : StatefulSet}
    (namespaces : source.ns = target.ns)
    (uses : (World.behind r history).cluster.Uses source selector)
    (found : (World.behind r history).cluster.statefulSets.get target = some workload) :
    Matches selector workload.spec.template.labels ↔ source = target := by
  have traced := traced_behind r history
  obtain ⟨selecting, rfl, rfl⟩ := traced.uses uses
  obtain ⟨selected, _, rfl, resources, same⟩ := traced.exists_statefulSet found
  have labels : workload.spec.template.labels = getLabels selected := by
    rw [same]
    rfl
  rw [labels]
  constructor
  · intro isMatch
    by_contra different
    apply not_matches_getLabels _ isMatch
    intro sameName
    apply different
    simp only [TailpostAgent.key, ObjectMeta.key] at namespaces ⊢
    rw [namespaces, sameName]
  · intro sameKey
    rw [getLabels_congr (congrArg NamespacedName.name sameKey)]
    exact fun _ _ => id

/-- Two agents are applied and reconciled; in the first call for the second one the Service
cannot be created, and its StatefulSet is deleted by hand before the next call. -/
def twoAgents : List Happening :=
  [.apply (sampleAgent "Always"), .apply configAgent,
    .reconcile (sampleAgent "Always").key (.undisturbed .asAdded),
    .reconcile configAgent.key
      { Run.undisturbed .asAdded with
        fails := fun api => if api = .create .service then some "timeout" else none },
    .ready (sampleAgent "Always").key 1, .deleteChild .statefulSet configAgent.key,
    .reconcile configAgent.key (.undisturbed .asAdded)]

/-- The Service of the second agent does not select the pods of the first. -/
theorem selector_matches_iff_twoAgents :
    ∃ selector workload,
      (World.behind sampleReconciler twoAgents).cluster.Uses configAgent.key selector ∧
      (World.behind sampleReconciler twoAgents).cluster.statefulSets.get
        (sampleAgent "Always").key = some workload ∧
      ¬ Matches selector workload.spec.template.labels := by
  have uses : (World.behind sampleReconciler twoAgents).cluster.Uses configAgent.key
      (getLabels configAgent) := Or.inl ⟨_, rfl, rfl⟩
  obtain ⟨workload, found⟩ : ∃ workload,
      (World.behind sampleReconciler twoAgents).cluster.statefulSets.get
        (sampleAgent "Always").key = some workload := ⟨_, rfl⟩
  refine ⟨_, workload, uses, found, fun isMatch => ?_⟩
  have namespaces : configAgent.key.ns = (sampleAgent "Always").key.ns := rfl
  have same := (selector_matches_iff sampleReconciler twoAgents namespaces uses found).mp isMatch
  revert same
  decide

/-- Whatever happens between two moments, a StatefulSet of one name has the same selector and
the same Service at both, so that no update changes what the API server keeps fixed. -/
theorem selector_fixed (r : TailpostAgentReconciler) (history more : List Happening)
    {location : NamespacedName} {old new : StatefulSet}
    (before : (World.behind r history).cluster.statefulSets.get location = some old)
    (behind : (World.behind r (history ++ more)).cluster.statefulSets.get location = some new) :
    new.spec.selector = old.spec.selector ∧ new.spec.serviceName = old.spec.serviceName := by
  obtain ⟨first, _, firstNamed, _, firstSpec⟩ :=
    (traced_behind r history).exists_statefulSet before
  obtain ⟨second, _, secondNamed, _, secondSpec⟩ :=
    (traced_behind r (history ++ more)).exists_statefulSet behind
  have sameName : second.metadata.name = first.metadata.name :=
    congrArg NamespacedName.name (secondNamed.trans firstNamed.symm)
  rw [firstSpec, secondSpec]
  exact ⟨getLabels_congr sameName, sameName⟩

/-- The StatefulSet of the second agent is deleted and created again. -/
theorem selector_fixed_twoAgents :
    ∃ old new,
      (World.behind sampleReconciler (twoAgents.take 4)).cluster.statefulSets.get
        configAgent.key = some old ∧
      (World.behind sampleReconciler
        (twoAgents.take 4 ++ twoAgents.drop 4)).cluster.statefulSets.get
          configAgent.key = some new ∧
      new.spec.selector = old.spec.selector ∧
      new.spec.serviceName = old.spec.serviceName := by
  obtain ⟨old, before⟩ : ∃ old,
      (World.behind sampleReconciler (twoAgents.take 4)).cluster.statefulSets.get
        configAgent.key = some old := ⟨_, rfl⟩
  obtain ⟨new, behind⟩ : ∃ new,
      (World.behind sampleReconciler
        (twoAgents.take 4 ++ twoAgents.drop 4)).cluster.statefulSets.get
          configAgent.key = some new := ⟨_, rfl⟩
  exact ⟨old, new, before, behind, selector_fixed sampleReconciler _ _ before behind⟩

/-! ## The config file -/

/-- Where there is a StatefulSet, there is the ConfigMap of the same agent. -/
def Cluster.Supplied (cluster : Cluster) : Prop :=
  ∀ location workload, cluster.statefulSets.get location = some workload →
    ∃ config, cluster.configMaps.get (configMapKey location) = some config

section Supply

variable {r : TailpostAgentReconciler} {cluster next : Cluster}

theorem Cluster.Supplied.frame (supplied : cluster.Supplied)
    (same : next.configMaps = cluster.configMaps)
    (workloads : ∀ location workload, next.statefulSets.get location = some workload →
      ∃ earlier, cluster.statefulSets.get location = some earlier) : next.Supplied := by
  intro location workload found
  obtain ⟨earlier, stored⟩ := workloads location workload found
  rw [same]
  exact supplied location earlier stored

/-- The ConfigMap is settled first. -/
theorem Cluster.Supplied.afterCall (supplied : cluster.Supplied) (call : NamespacedName × Run) :
    (cluster.afterCall r call).Supplied := by
  cases found : cluster.agents.get call.1 with
  | none =>
      rw [afterCall_of_missing found]
      exact supplied
  | some agent =>
      obtain ⟨outcome, ending⟩ := @ending_afterCall r cluster agent call found
      apply ending.invariant Cluster.Supplied supplied
      · exact fun _ kept => kept
      · rintro first _ kept ⟨_, object, _, _, rfl⟩ location workload there
        obtain ⟨config, stored⟩ := kept location workload there
        exact Store.exists_get_put stored object
      · intro first second _ kept settlesConfig settles
        obtain ⟨config, object, generated, _, stored⟩ := settlesConfig.carries
        rw [key_of_desiredConfigMap generated] at stored
        obtain ⟨desired, workload, created, settled, rfl⟩ := settles
        have named := (ChildKind.key_of_settled settled
          fun _ live => second.statefulSets.named live).trans (key_of_desiredStatefulSet created)
        intro location live there
        rcases Store.get_put_cases there with ⟨rfl, _⟩ | earlier
        · rw [named]
          exact ⟨object, stored⟩
        · exact kept location live earlier
      · rintro first _ kept ⟨_, _, _, _, rfl⟩
        exact kept

/-- Unless a ConfigMap is deleted, every StatefulSet keeps the ConfigMap it needs. -/
theorem Cluster.Supplied.after {world : World} (supplied : world.cluster.Supplied)
    {happening : Happening}
    (kept : ∀ location, happening ≠ .deleteChild .configMap location) :
    (world.after r happening).cluster.Supplied := by
  cases happening with
  | apply | deleteAgent => exact supplied
  | reconcile key run => exact supplied.afterCall (key, run)
  | ready location replicas =>
      simp only [World.after, Cluster.ready]
      split
      next counted stored =>
        refine supplied.frame rfl fun other live there => ?_
        rcases Store.get_put_cases there with ⟨rfl, _⟩ | earlier
        · exact ⟨counted, world.cluster.statefulSets.named stored ▸ stored⟩
        · exact ⟨live, earlier⟩
      next => exact supplied
  | deleteChild child location =>
      cases child with
      | configMap => exact absurd rfl (kept location)
      | service => exact supplied
      | statefulSet =>
          exact supplied.frame rfl fun _ live there => ⟨live, Store.get_of_get_erase there⟩

end Supply

/-- Unless somebody deletes a ConfigMap, the pods of every StatefulSet find their config file,
whatever fails and whenever: the file named on the command line lies in a volume whose
ConfigMap exists, and it is rendered from a version of the same agent. -/
theorem pods_find_config (r : TailpostAgentReconciler) (history : List Happening)
    (kept : ∀ location, .deleteChild .configMap location ∉ history)
    {location : NamespacedName} {workload : StatefulSet}
    (found : (World.behind r history).cluster.statefulSets.get location = some workload) :
    ∃ container mount volume config text,
      workload.spec.template.containers = [container] ∧
      mount ∈ container.volumeMounts ∧
      container.args = ["-config", mount.mountPath ++ "/" ++ configFileName] ∧
      ⟨mount.name, .configMap volume⟩ ∈ workload.spec.template.volumes ∧
      (World.behind r history).cluster.configMaps.get ⟨location.ns, volume⟩ = some config ∧
      config.data = some (configFile text) ∧
      ∃ version order batchSize, .apply version ∈ history ∧ version.key = location ∧
        text = yaml order (configData (filled r version) batchSize) := by
  have traced := traced_behind r history
  have supplied : (World.behind r history).cluster.Supplied :=
    List.foldlRecOn history (World.after r)
      (motive := fun world : World => world.cluster.Supplied)
      nofun
      fun _ supplied happening member => supplied.after fun location same =>
        kept location (same ▸ member)
  obtain ⟨generating, _, named, resources, same⟩ := traced.exists_statefulSet found
  obtain ⟨config, stored⟩ := supplied location workload found
  obtain ⟨version, member, desired, ⟨order, created⟩, key, data⟩ :=
    traced.configMap _ config stored
  have versionNamed := configMapKey_injective ((key_of_desiredConfigMap created).symm.trans key)
  obtain ⟨made, generated, rfl⟩ := map_eq_ok_iff.mp created
  obtain ⟨batchSize, _, rfl⟩ := createConfigMap_eq_ok generated
  rw [same]
  subst named
  exact ⟨_, _, getConfigMapName generating, config, _, rfl, List.mem_cons_self, rfl,
    List.mem_cons_self, stored, data, version, order, batchSize, apply_mem_of_version member,
    versionNamed, rfl⟩

/-- The pods of the agent whose name is that of the other's ConfigMap. -/
theorem pods_find_config_twoAgents :
    ∃ workload container volume config, ∃ mount : VolumeMount,
      (World.behind sampleReconciler twoAgents).cluster.statefulSets.get configAgent.key =
        some workload ∧
      workload.spec.template.containers = [container] ∧
      container.args = ["-config", mount.mountPath ++ "/" ++ configFileName] ∧
      ⟨mount.name, .configMap volume⟩ ∈ workload.spec.template.volumes ∧
      (World.behind sampleReconciler twoAgents).cluster.configMaps.get
        ⟨configAgent.metadata.ns, volume⟩ = some config := by
  obtain ⟨container, mount, volume, config, _, containers, _, args, mounted, stored, _⟩ :=
    pods_find_config sampleReconciler twoAgents (by simp [twoAgents])
      (rfl : (World.behind sampleReconciler twoAgents).cluster.statefulSets.get
        configAgent.key = some _)
  exact ⟨_, container, volume, config, mount, rfl, containers, args, mounted, stored⟩

end Tailpost.Operator
