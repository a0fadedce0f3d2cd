import Tailpost.Hoare.Triple
import Tailpost.Operator.Resources
import Tailpost.Storage.Named

/-!
# The reconciler

`Reconcile` reads an agent, fills in defaults, brings the ConfigMap, the
StatefulSet and the Service up to date one after the other, and writes the
status.  Any call to the API server and to the library may fail; a write that
succeeds stores exactly the object it is given.  The three functions that reconcile a child
have one shape, which is modelled once.

A session keeps the cluster and, in order, the writes that were issued and the
events that were recorded.
-/

namespace Tailpost.Operator

open Tailpost.Hoare
open Tailpost.Storage

/-! ## The cluster and the API server -/

/-- The objects that the API server stores, as far as the operator knows them. -/
structure Cluster where
  agents : Store TailpostAgent.key
  configMaps : Store ConfigMap.key
  statefulSets : Store StatefulSet.key
  services : Store Service.key

/-- Change an agent that is stored. -/
def Cluster.modifyAgent (cluster : Cluster) (key : NamespacedName)
    (change : TailpostAgent → TailpostAgent) : Cluster :=
  match cluster.agents.get key with
  | some stored => { cluster with agents := cluster.agents.put (change stored) }
  | none => cluster

/-- The three objects that an agent owns. -/
inductive Child
  | configMap
  | statefulSet
  | service
  deriving DecidableEq

/-- The calls to the API server and to the library in the source; a run makes each at
most once. -/
inductive ApiCall
  | getAgent
  | updateAgent
  /-- `ctrl.SetControllerReference`, which fails for an owner that the scheme does not know. -/
  | setControllerReference (child : Child)
  | get (child : Child)
  | create (child : Child)
  | update (child : Child)
  /-- `updateStatus` gets the StatefulSet. -/
  | getReadyReplicas
  | updateStatus
  | setCondition
  | removeCondition
  deriving DecidableEq

/-- What a run does besides reading. -/
inductive Effect
  | updateAgent
  | create (child : Child)
  | update (child : Child)
  | updateStatus
  | event (reason message : String)
  deriving DecidableEq

/-- What one reconciliation works on: the cluster, and the effects it had so far. -/
structure Session where
  cluster : Cluster
  effects : List Effect

/-- The choices the environment makes in one run. -/
structure Run where
  /-- The error texts of the calls that fail. -/
  fails : ApiCall → Option String
  /-- The order in which the config data is iterated. -/
  order : Iteration
  /-- What `metav1.Now()` returns in `updateStatus`. -/
  updateTime : Nat
  /-- What `metav1.Now()` returns in `setCondition`. -/
  conditionTime : Nat

/-- Code of the operator. -/
abbrev Op :=
  Program Session Failure

/-- A call that may fail, whose error is wrapped in a text. -/
def call (run : Run) (api : ApiCall) (context : String) : Op Unit :=
  match run.fails api with
  | some message => throw (.error (context ++ message))
  | none => pure ()

/-- Record an effect. -/
def issue (effect : Effect) : Op Unit :=
  modify fun session => { session with effects := session.effects ++ [effect] }

/-- Change the cluster. -/
def write (change : Cluster → Cluster) : Op Unit :=
  modify fun session => { session with cluster := change session.cluster }

/-- Code that tests the error a function returns; a panic is not caught. -/
def checked {α β : Type} (stage : Op α) (onError : String → Op β) (next : α → Op β) : Op β := do
  match ← attempt stage with
  | .ok value => next value
  | .error (.error message) => onError message
  | .error .panic => throw .panic

/-! ## Defaults -/

/-- The library function `ctrl.SetControllerReference`, where it does not fail. -/
structure ControllerReferences where
  /-- What the metadata of the owner makes of the metadata of an object. -/
  set : ObjectMeta → ObjectMeta → ObjectMeta
  /-- The object keeps its name. -/
  key_set : ∀ owner metadata, (set owner metadata).key = metadata.key
  /-- An object that nobody owned is controlled by the owner. -/
  isControlledBy_set : ∀ (agent : TailpostAgent) metadata, metadata.ownerReferences = [] →
    IsControlledBy (set agent.metadata metadata) agent

/-- The settings of the operator, and the library functions that it calls. -/
structure TailpostAgentReconciler where
  defaultImage : String
  resyncPeriod : Nat
  requeuePeriod : Nat
  /-- The library function `resource.MustParse`; it panics where there is no
  value. -/
  mustParse : String → Option Quantity
  controllerReferences : ControllerReferences

/-- The pull policy of an agent that names none. -/
def defaultImagePullPolicy : String :=
  "IfNotPresent"

/-- The replicas of an agent that names none. -/
def defaultReplicas : Int32 :=
  1

/-- The batch size of an agent that names none. -/
def defaultBatchSize : Int32 :=
  10

/-- The flush interval of an agent that names none. -/
def defaultFlushInterval : String :=
  "5s"

/-- A text, or its default when it is missing. -/
def orDefault (text fallback : String) : String :=
  if text = "" then fallback else text

/-- The spec with its missing fields filled in. -/
def withDefaults (r : TailpostAgentReconciler) (spec : TailpostAgentSpec) : TailpostAgentSpec :=
  { spec with
    image := orDefault spec.image r.defaultImage
    imagePullPolicy := orDefault spec.imagePullPolicy defaultImagePullPolicy
    replicas := spec.replicas.or (some defaultReplicas)
    batchSize := spec.batchSize.or (some defaultBatchSize)
    flushInterval := orDefault spec.flushInterval defaultFlushInterval }

/-- Some field is missing. -/
def needsDefaults (spec : TailpostAgentSpec) : Bool :=
  spec.image = "" || spec.imagePullPolicy = "" || spec.replicas.isNone ||
    spec.batchSize.isNone || spec.flushInterval = ""

/-- The agent with its missing fields filled in. -/
def filled (r : TailpostAgentReconciler) (agent : TailpostAgent) : TailpostAgent :=
  { agent with spec := withDefaults r agent.spec }

/-- The defaults are written back, and only when one of them is needed. -/
def setDefaults (r : TailpostAgentReconciler) (run : Run) (agent : TailpostAgent) :
    Op TailpostAgent := do
  if needsDefaults agent.spec then
    issue .updateAgent
    call run .updateAgent "failed to update instance with defaults: "
    write fun cluster => cluster.modifyAgent agent.key fun stored =>
      { stored with spec := (filled r agent).spec }
  return filled r agent

/-! ## Children -/

/-- What distinguishes the children of one kind. -/
structure ChildKind {α : Type} (key : α → NamespacedName) where
  child : Child
  title : String
  store : Cluster → Store key
  withStore : Cluster → Store key → Cluster
  needsUpdate : α → α → Except Failure Bool
  /-- The live object with what is taken over from the desired one. -/
  merge : α → α → α
  withStore_store : ∀ cluster, withStore cluster (store cluster) = cluster
  store_withStore : ∀ cluster objects, store (withStore cluster objects) = objects
  eq_panic : ∀ {found desired failure}, needsUpdate found desired = .error failure →
    failure = .panic
  key_merge : ∀ found desired, key (merge found desired) = key found
  /-- Nothing is left to update in a merged object. -/
  needsUpdate_merge : ∀ found desired, needsUpdate (merge found desired) desired =
    needsUpdate desired desired

/-- Write a child, and record an event when that succeeds. -/
def writeChild {α : Type} {key : α → NamespacedName} (kind : ChildKind key) (run : Run)
    (api : ApiCall) (effect : Effect) (verb past : String) (object : α) : Op Unit := do
  issue effect
  call run api ("failed to " ++ verb ++ " " ++ kind.title ++ ": ")
  write fun cluster => kind.withStore cluster ((kind.store cluster).put object)
  issue (.event (kind.title ++ past) (past ++ " " ++ kind.title ++ " " ++ (key object).name))

/-- Own a child, get it, create it when there is none, and update it when it needs
to be. -/
def reconcileChild {α : Type} {key : α → NamespacedName} (kind : ChildKind key) (run : Run)
    (desired : α) : Op Unit := do
  call run (.setControllerReference kind.child)
    ("failed to set owner reference on " ++ kind.title ++ ": ")
  call run (.get kind.child) ("failed to get " ++ kind.title ++ ": ")
  match (kind.store (← get).cluster).get (key desired) with
  | none =>
      writeChild kind run (.create kind.child) (.create kind.child) "create" "Created" desired
  | some found =>
      if ← lift (kind.needsUpdate found desired) then
        writeChild kind run (.update kind.child) (.update kind.child) "update" "Updated"
          (kind.merge found desired)

/-- The ConfigMap: its data is replaced. -/
def configMapKind : ChildKind ConfigMap.key where
  child := .configMap
  title := "ConfigMap"
  store := Cluster.configMaps
  withStore := fun cluster store => { cluster with configMaps := store }
  needsUpdate := fun found desired => .ok (configMapNeedsUpdate found desired)
  merge := fun found desired => { found with data := desired.data }
  withStore_store := fun _ => rfl
  store_withStore := fun _ _ => rfl
  eq_panic := nofun
  key_merge := fun _ _ => rfl
  needsUpdate_merge := fun _ _ => rfl

/-- The StatefulSet: its whole specification is replaced. -/
def statefulSetKind : ChildKind StatefulSet.key where
  child := .statefulSet
  title := "StatefulSet"
  store := Cluster.statefulSets
  withStore := fun cluster store => { cluster with statefulSets := store }
  needsUpdate := statefulSetNeedsUpdate
  merge := fun found desired => { found with spec := desired.spec }
  withStore_store := fun _ => rfl
  store_withStore := fun _ _ => rfl
  eq_panic := statefulSetNeedsUpdate_eq_error
  key_merge := fun _ _ => rfl
  needsUpdate_merge := fun _ _ => rfl

/-- The Service: its selector and its ports are replaced. -/
def serviceKind : ChildKind Service.key where
  child := .service
  title := "Service"
  store := Cluster.services
  withStore := fun cluster store => { cluster with services := store }
  needsUpdate := fun found desired => .ok (serviceNeedsUpdate found desired)
  merge := fun found desired =>
    { found with selector := desired.selector, ports := desired.ports }
  withStore_store := fun _ => rfl
  store_withStore := fun _ _ => rfl
  eq_panic := nofun
  key_merge := fun _ _ => rfl
  needsUpdate_merge := fun _ _ => rfl

/-- The ConfigMap that is looked up, created or taken over from. -/
def desiredConfigMap (r : TailpostAgentReconciler) (order : Iteration) (agent : TailpostAgent) :
    Except Failure ConfigMap :=
  (createConfigMap order agent).map fun configMap =>
    { configMap with metadata := r.controllerReferences.set agent.metadata configMap.metadata }

/-- The StatefulSet to be stored, owned by the agent. -/
def desiredStatefulSet (r : TailpostAgentReconciler) (agent : TailpostAgent) :
    Except Failure StatefulSet :=
  (createStatefulSet r.mustParse agent).map fun statefulSet =>
    { statefulSet with metadata := r.controllerReferences.set agent.metadata statefulSet.metadata }

/-- The Service to be stored, owned by the agent. -/
def desiredService (r : TailpostAgentReconciler) (agent : TailpostAgent) :
    Except Failure Service :=
  let service := createService agent
  .ok { service with metadata := r.controllerReferences.set agent.metadata service.metadata }

/-- The first child. -/
def reconcileConfigMap (r : TailpostAgentReconciler) (run : Run) (agent : TailpostAgent) :
    Op Unit := do
  reconcileChild configMapKind run (← lift (desiredConfigMap r run.order agent))

/-- The second child, whose quantities may fail to parse. -/
def reconcileStatefulSet (r : TailpostAgentReconciler) (run : Run) (agent : TailpostAgent) :
    Op Unit := do
  reconcileChild statefulSetKind run (← lift (desiredStatefulSet r agent))

/-- The third child. -/
def reconcileService (r : TailpostAgentReconciler) (run : Run) (agent : TailpostAgent) :
    Op Unit := do
  reconcileChild serviceKind run (← lift (desiredService r agent))

/-! ## Status -/

/-- The type of the condition that a reconciliation went through. -/
def conditionTypeAvailable : String :=
  "Available"

/-- The type of the condition that a child failed. -/
def conditionTypeDegraded : String :=
  "Degraded"

/-- `r.Status().Update` stores the status of an agent and nothing else. -/
def writeStatus (run : Run) (api : ApiCall) (context : String) (key : NamespacedName)
    (status : TailpostAgentStatus) : Op Unit := do
  issue .updateStatus
  call run api context
  write fun cluster => cluster.modifyAgent key fun stored => { stored with status }

/-- The ready replicas are read back and stored in the status. -/
def updateStatus (run : Run) (agent : TailpostAgent) : Op TailpostAgent := do
  call run .getReadyReplicas "failed to get StatefulSet: "
  let found :=
    (← get).cluster.statefulSets.get ⟨agent.metadata.ns, getStatefulSetName agent⟩
  let status := { agent.status with
    availableReplicas := (found.map StatefulSet.readyReplicas).getD 0
    lastUpdateTime := run.updateTime }
  writeStatus run .updateStatus "failed to update status: " agent.key status
  return { agent with status }

/-- The conditions after the first one of the type is changed, if its status
changes, or a new one is added. -/
def withCondition (condition : TailpostAgentCondition) :
    List TailpostAgentCondition → List TailpostAgentCondition
  | [] => [condition]
  | existing :: rest =>
      if existing.type = condition.type then
        if existing.status ≠ condition.status then
          { existing with
            status := condition.status
            lastTransitionTime := condition.lastTransitionTime
            reason := condition.reason
            message := condition.message } :: rest
        else
          existing :: rest
      else
        existing :: withCondition condition rest

/-- A status write that fails is only logged. -/
def setCondition (run : Run) (agent : TailpostAgent) (condType status reason message : String) :
    Op TailpostAgent := do
  let condition := ⟨condType, status, run.conditionTime, reason, message⟩
  let status := { agent.status with
    conditions := withCondition condition agent.status.conditions }
  let _ ← attempt (writeStatus run .setCondition "" agent.key status)
  return { agent with status }

/-- The first condition of the type is removed, and a failed write is only logged. -/
def removeCondition (run : Run) (agent : TailpostAgent) (condType : String) :
    Op TailpostAgent := do
  match agent.status.conditions.findIdx? fun condition => condition.type == condType with
  | none => return agent
  | some index =>
      let status := { agent.status with conditions := agent.status.conditions.eraseIdx index }
      let _ ← attempt (writeStatus run .removeCondition "" agent.key status)
      return { agent with status }

/-! ## Reconcile -/

/-- What `Reconcile` returns; a period of zero is no requeue. -/
structure Response where
  requeueAfter : Nat
  error : Option String
  deriving DecidableEq

/-- A child that cannot be reconciled makes the agent degraded. -/
def degrade (r : TailpostAgentReconciler) (run : Run) (agent : TailpostAgent)
    (reason message : String) : Op Response := do
  let _ ← setCondition run agent conditionTypeDegraded "True" reason message
  return ⟨r.requeuePeriod, some message⟩

/-- The agent that is to be reconciled, if it still exists. -/
def getAgent (run : Run) (key : NamespacedName) : Op (Option TailpostAgent) := do
  call run .getAgent ""
  return (← get).cluster.agents.get key

/-- The end of a successful run. -/
def announce (r : TailpostAgentReconciler) (run : Run) (agent : TailpostAgent) : Op Response := do
  let agent ← setCondition run agent conditionTypeAvailable "True" "AgentAvailable"
    "The agent is available"
  let _ ← removeCondition run agent conditionTypeDegraded
  return ⟨r.resyncPeriod, none⟩

/-- The last part of `Reconcile`, behind the children. -/
def report (r : TailpostAgentReconciler) (run : Run) (agent : TailpostAgent) : Op Response :=
  checked (updateStatus run agent) (fun message => return ⟨r.requeuePeriod, some message⟩)
    (announce r run)

/-- `Reconcile` behind the defaults. -/
def reconcileChildren (r : TailpostAgentReconciler) (run : Run) (agent : TailpostAgent) :
    Op Response :=
  checked (reconcileConfigMap r run agent) (degrade r run agent "ConfigMapReconcileFailed")
    fun _ =>
  checked (reconcileStatefulSet r run agent) (degrade r run agent "StatefulSetReconcileFailed")
    fun _ =>
  checked (reconcileService r run agent) (degrade r run agent "ServiceReconcileFailed")
    fun _ =>
  report r run agent

/-- One call of `Reconcile`. An agent that is gone ends it without an error. -/
def reconcile (r : TailpostAgentReconciler) (run : Run) (key : NamespacedName) : Op Response :=
  checked (getAgent run key) (fun message => return ⟨0, some message⟩) fun
    | none => return ⟨0, none⟩
    | some agent =>
        checked (setDefaults r run agent)
          (fun message => return ⟨r.requeuePeriod, some message⟩)
          (reconcileChildren r run)

end Tailpost.Operator
