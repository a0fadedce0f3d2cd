import Mathlib.Data.Finmap
import Tailpost.Hoare.Triple

/-!
# The children of an agent

A `TailpostAgent` owns a ConfigMap, a StatefulSet and a Service.  This file
models the objects as far as the operator reads and writes them, the functions
that generate them from an agent, and the tests for whether a live one has to
be updated.

Maps that are compared are finite maps.  The config data is only iterated; a
`range` loop visits its entries in an order that the runtime chooses anew for
each loop.
-/

namespace Tailpost.Operator

open Tailpost.Hoare (Failure)

/-! ## API objects -/

/-- The type `map[string]string`. -/
abbrev StringMap :=
  Finmap fun _ : String => String

/-- A namespace and a name in it. -/
structure NamespacedName where
  ns : String
  name : String
  deriving DecidableEq

/-- An entry of `ownerReferences`: the object whose deletion takes this one along. -/
structure OwnerReference where
  apiVersion : String
  kind : String
  name : String
  uid : String
  controller : Bool
  blockOwnerDeletion : Bool
  deriving DecidableEq

/-- The metadata of an object, as far as the operator reads or writes it. -/
structure ObjectMeta where
  name : String
  ns : String
  uid : String
  labels : StringMap
  ownerReferences : List OwnerReference
  deriving DecidableEq

/-- Where an object is stored. -/
def ObjectMeta.key (metadata : ObjectMeta) : NamespacedName :=
  ⟨metadata.ns, metadata.name⟩

/-- A parsed resource quantity, with the text it caches. -/
structure Quantity where
  unscaled : Int
  scale : Int
  format : String
  s : String
  deriving DecidableEq

/-- Quantities by the name of the resource. -/
abbrev ResourceList :=
  Finmap fun _ : String => Quantity

/-- A missing list is a nil map. -/
structure ResourceRequirements where
  limits : Option ResourceList
  requests : Option ResourceList
  deriving DecidableEq

/-- A port that a container exposes. -/
structure ContainerPort where
  name : String
  containerPort : Int32
  protocol : String
  deriving DecidableEq

/-- Where a volume comes from. -/
inductive VolumeSource
  | configMap (name : String)
  | hostPath (path : String)
  /-- A source the operator does not generate. -/
  | other (description : String)
  deriving DecidableEq

/-- A volume of a pod. -/
structure Volume where
  name : String
  source : VolumeSource
  deriving DecidableEq

/-- A volume mounted into a container. -/
structure VolumeMount where
  name : String
  mountPath : String
  readOnly : Bool
  deriving DecidableEq

/-- An HTTP probe. -/
structure Probe where
  path : String
  port : Int32
  scheme : String
  initialDelaySeconds : Int32
  timeoutSeconds : Int32
  periodSeconds : Int32
  deriving DecidableEq

/-- The container of the agent, with every field that the operator sets or
compares. -/
structure Container where
  name : String
  image : String
  imagePullPolicy : String
  command : List String
  args : List String
  ports : List ContainerPort
  volumeMounts : List VolumeMount
  resources : ResourceRequirements
  livenessProbe : Option Probe
  readinessProbe : Option Probe
  deriving DecidableEq

/-- The pods of a StatefulSet. -/
structure PodTemplateSpec where
  labels : StringMap
  serviceAccountName : String
  containers : List Container
  volumes : List Volume
  deriving DecidableEq

/-- The specification of a StatefulSet; `replicas` is a pointer. -/
structure StatefulSetSpec where
  replicas : Option Int32
  selector : StringMap
  serviceName : String
  template : PodTemplateSpec
  deriving DecidableEq

/-- A StatefulSet with the one field of its status that the operator reads. -/
structure StatefulSet where
  metadata : ObjectMeta
  spec : StatefulSetSpec
  readyReplicas : Int32
  deriving DecidableEq

/-- Missing data is a nil map. -/
structure ConfigMap where
  metadata : ObjectMeta
  data : Option StringMap
  deriving DecidableEq

/-- A port by its number or by its name. -/
inductive IntOrString
  | int (value : Int32)
  | string (value : String)
  deriving DecidableEq

/-- A port of a Service. -/
structure ServicePort where
  name : String
  port : Int32
  targetPort : IntOrString
  protocol : String
  deriving DecidableEq

/-- A missing selector is a nil map. -/
structure Service where
  metadata : ObjectMeta
  selector : Option StringMap
  ports : List ServicePort
  deriving DecidableEq

/-! ## The agent -/

/-- One log source of an agent. -/
structure LogSourceSpec where
  type : String
  path : String := ""
  containerName : String := ""
  deriving DecidableEq

/-- CPU and memory as they are written; an empty text is an absent entry. -/
structure ResourceListSpec where
  cpu : String
  memory : String
  deriving DecidableEq

/-- The limits and requests as they are written. -/
structure ResourceRequirementsSpec where
  limits : ResourceListSpec
  requests : ResourceListSpec
  deriving DecidableEq

/-- Optional integers are pointers in the source; other missing fields are
empty. -/
structure TailpostAgentSpec where
  replicas : Option Int32
  image : String
  imagePullPolicy : String
  serviceAccount : String
  logSources : List LogSourceSpec
  serverURL : String
  batchSize : Option Int32
  flushInterval : String
  resources : ResourceRequirementsSpec
  deriving DecidableEq

/-- A condition in the status of an agent. -/
structure TailpostAgentCondition where
  type : String
  status : String
  lastTransitionTime : Nat
  reason : String
  message : String
  deriving DecidableEq

/-- The status of an agent. -/
structure TailpostAgentStatus where
  conditions : List TailpostAgentCondition
  availableReplicas : Int32
  lastUpdateTime : Nat
  deriving DecidableEq

/-- The custom resource. -/
structure TailpostAgent where
  metadata : ObjectMeta
  spec : TailpostAgentSpec
  status : TailpostAgentStatus
  deriving DecidableEq

/-- The reference to the controller of an object. -/
def controllerOf (metadata : ObjectMeta) : Option OwnerReference :=
  metadata.ownerReferences.find? OwnerReference.controller

/-- The object is controlled by the agent. -/
def IsControlledBy (metadata : ObjectMeta) (agent : TailpostAgent) : Prop :=
  ∃ reference, controllerOf metadata = some reference ∧ reference.uid = agent.metadata.uid

/-- The namespace and name of an agent. -/
def TailpostAgent.key (cr : TailpostAgent) : NamespacedName :=
  cr.metadata.key

/-- The namespace and name of a ConfigMap. -/
def ConfigMap.key (configMap : ConfigMap) : NamespacedName :=
  configMap.metadata.key

/-- The namespace and name of a StatefulSet. -/
def StatefulSet.key (statefulSet : StatefulSet) : NamespacedName :=
  statefulSet.metadata.key

/-- The namespace and name of a Service. -/
def Service.key (service : Service) : NamespacedName :=
  service.metadata.key

/-! ## Names and labels -/

/-- The component name used in labels. -/
def component : String :=
  "tailpost-agent"

/-- The name of the config file in the ConfigMap. -/
def configFileName : String :=
  "config.yaml"

/-- The port for exposing metrics. -/
def metricsPort : Int32 :=
  8080

/-- The labels of every object of an agent; they also select its pods. -/
def getLabels (cr : TailpostAgent) : StringMap :=
  [⟨"app.kubernetes.io/name", component⟩,
    ⟨"app.kubernetes.io/instance", cr.metadata.name⟩,
    ⟨"app.kubernetes.io/managed-by", "tailpost-operator"⟩].toFinmap

/-- The name of the ConfigMap of an agent. -/
def getConfigMapName (cr : TailpostAgent) : String :=
  cr.metadata.name ++ "-config"

/-- The name of the StatefulSet of an agent. -/
def getStatefulSetName (cr : TailpostAgent) : String :=
  cr.metadata.name

/-- The name of the Service of an agent, the same as that of its StatefulSet. -/
def getServiceName (cr : TailpostAgent) : String :=
  cr.metadata.name

/-- The metadata of a generated child. -/
def childMeta (cr : TailpostAgent) (name : String) : ObjectMeta where
  name := name
  ns := cr.metadata.ns
  uid := ""
  labels := getLabels cr
  ownerReferences := []

/-! ## The config file -/

/-- The values of the config data. -/
inductive ConfigValue
  | string (value : String)
  | int32 (value : Int32)
  deriving DecidableEq

/-- The entries of the config data, in the order in which they are added. -/
abbrev ConfigData :=
  List (String × ConfigValue)

/-- An order in which `range` loops visit the entries. -/
structure Iteration where
  arrange : ConfigData → ConfigData
  perm : ∀ data, (arrange data).Perm data

/-- How a value is printed. -/
def ConfigValue.format : ConfigValue → String
  | .string value => value
  | .int32 value => toString value.toInt

/-- The line of one entry. -/
def yamlLine (entry : String × ConfigValue) : String :=
  entry.1 ++ ": " ++ entry.2.format ++ "\n"

/-- The configuration file: one line for each entry, in the order of the
iteration. -/
def yaml (order : Iteration) (data : ConfigData) : String :=
  String.join ((order.arrange data).map yamlLine)

/-- The path of the first file source that has one. -/
def logPath (sources : List LogSourceSpec) : Option String :=
  (sources.find? fun source => source.type == "file" && source.path != "").map
    LogSourceSpec.path

/-- The data of the config file; `batchSize` is the pointer's target. -/
def configData (cr : TailpostAgent) (batchSize : Int32) : ConfigData :=
  [("server_url", .string cr.spec.serverURL), ("batch_size", .int32 batchSize),
    ("flush_interval", .string cr.spec.flushInterval)] ++
    ((logPath cr.spec.logSources).map fun path => ("log_path", .string path)).toList

/-- The data of a ConfigMap that holds the config file. -/
def configFile (text : String) : StringMap :=
  Finmap.singleton configFileName text

theorem configFile_inj {text other : String} :
    configFile text = configFile other ↔ text = other := by
  constructor
  · intro same
    have looked := congrArg (Finmap.lookup configFileName) same
    simpa [configFile] using looked
  · intro same
    rw [same]

/-- The ConfigMap of an agent whose batch size is given. -/
def configMapOf (order : Iteration) (cr : TailpostAgent) (batchSize : Int32) : ConfigMap where
  metadata := childMeta cr (getConfigMapName cr)
  data := some (configFile (yaml order (configData cr batchSize)))

/-- A missing batch size is a nil pointer that is dereferenced. -/
def createConfigMap (order : Iteration) (cr : TailpostAgent) : Except Failure ConfigMap :=
  match cr.spec.batchSize with
  | none => .error .panic
  | some batchSize => .ok (configMapOf order cr batchSize)

theorem createConfigMap_eq_error {order : Iteration} {cr : TailpostAgent} {failure : Failure}
    (failed : createConfigMap order cr = .error failure) : failure = .panic := by
  unfold createConfigMap at failed
  split at failed
  · cases failed
    rfl
  · contradiction

theorem createConfigMap_eq_ok {order : Iteration} {cr : TailpostAgent} {desired : ConfigMap}
    (created : createConfigMap order cr = .ok desired) :
    ∃ batchSize, cr.spec.batchSize = some batchSize ∧
      desired = configMapOf order cr batchSize := by
  unfold createConfigMap at created
  split at created
  next => contradiction
  next batchSize size =>
    cases created
    exact ⟨batchSize, size, rfl⟩

/-! ## The pods -/

/-- `resource.MustParse` panics when the text is not a quantity. -/
def parseQuantity (mustParse : String → Option Quantity) (value : String) :
    Except Failure Quantity :=
  match mustParse value with
  | some quantity => .ok quantity
  | none => .error .panic

/-- Add a resource to a list when it is given. -/
def addResource (mustParse : String → Option Quantity) (name value : String)
    (list : ResourceList) : Except Failure ResourceList :=
  if value ≠ "" then do
    return list.insert name (← parseQuantity mustParse value)
  else
    return list

/-- The limits, or the requests; nothing given is a nil map. -/
def resourceList (mustParse : String → Option Quantity) (spec : ResourceListSpec) :
    Except Failure (Option ResourceList) :=
  if spec.cpu ≠ "" ∨ spec.memory ≠ "" then do
    let list ← addResource mustParse "cpu" spec.cpu ∅
    let list ← addResource mustParse "memory" spec.memory list
    return some list
  else
    return none

/-- An HTTP probe of the agent's health server; the two probes differ in path and
delay. -/
def probe (path : String) (initialDelaySeconds : Int32) : Probe where
  path := path
  port := metricsPort
  scheme := "HTTP"
  initialDelaySeconds := initialDelaySeconds
  timeoutSeconds := 5
  periodSeconds := 10

/-- The agent's container. -/
def agentContainer (cr : TailpostAgent) (resources : ResourceRequirements) : Container where
  name := "tailpost-agent"
  image := cr.spec.image
  imagePullPolicy := cr.spec.imagePullPolicy
  command := ["/app/tailpost"]
  args := ["-config", "/app/config/" ++ configFileName]
  ports := [⟨"metrics", metricsPort, "TCP"⟩]
  volumeMounts := [⟨"config", "/app/config", false⟩, ⟨"log-volume", "/host/var/log", true⟩]
  resources := resources
  livenessProbe := some (probe "/health" 30)
  readinessProbe := some (probe "/ready" 5)

/-- The StatefulSet of an agent whose resources have been parsed. -/
def statefulSetOf (cr : TailpostAgent) (resources : ResourceRequirements) : StatefulSet where
  metadata := childMeta cr (getStatefulSetName cr)
  spec := {
    replicas := cr.spec.replicas
    selector := getLabels cr
    serviceName := getServiceName cr
    template := {
      labels := getLabels cr
      serviceAccountName := cr.spec.serviceAccount
      containers := [agentContainer cr resources]
      volumes := [⟨"config", .configMap (getConfigMapName cr)⟩,
        ⟨"log-volume", .hostPath "/var/log"⟩] } }
  readyReplicas := 0

/-- The desired StatefulSet. The quantities are parsed on the way, and one that
does not parse panics. -/
def createStatefulSet (mustParse : String → Option Quantity) (cr : TailpostAgent) :
    Except Failure StatefulSet := do
  let limits ← resourceList mustParse cr.spec.resources.limits
  let requests ← resourceList mustParse cr.spec.resources.requests
  return statefulSetOf cr ⟨limits, requests⟩

/-- A resource list that cannot be built is a panic of the parser. -/
theorem resourceList_eq_error {mustParse : String → Option Quantity} {spec : ResourceListSpec}
    {failure : Failure} (failed : resourceList mustParse spec = .error failure) :
    failure = .panic := by
  have added : ∀ {name value list}, addResource mustParse name value list = .error failure →
      failure = .panic := by
    intro name value list failed
    unfold addResource parseQuantity at failed
    split at failed
    · cases parsed : mustParse value with
      | some quantity =>
          rw [parsed] at failed
          contradiction
      | none =>
          rw [parsed] at failed
          cases failed
          rfl
    · contradiction
  unfold resourceList at failed
  split at failed
  · cases cpu : addResource mustParse "cpu" spec.cpu ∅ with
    | error error =>
        rw [cpu] at failed
        cases failed
        exact added cpu
    | ok list =>
        rw [cpu] at failed
        cases memory : addResource mustParse "memory" spec.memory list with
        | error error =>
            simp only [bind, Except.bind, memory] at failed
            cases failed
            exact added memory
        | ok list =>
            simp only [bind, Except.bind, memory] at failed
            contradiction
  · contradiction

theorem createStatefulSet_eq_error {mustParse : String → Option Quantity} {cr : TailpostAgent}
    {failure : Failure} (failed : createStatefulSet mustParse cr = .error failure) :
    failure = .panic := by
  unfold createStatefulSet at failed
  cases limits : resourceList mustParse cr.spec.resources.limits with
  | error error =>
      rw [limits] at failed
      cases failed
      exact resourceList_eq_error limits
  | ok list =>
      cases requests : resourceList mustParse cr.spec.resources.requests with
      | error error =>
          rw [limits, requests] at failed
          cases failed
          exact resourceList_eq_error requests
      | ok list =>
          rw [limits, requests] at failed
          contradiction

theorem createStatefulSet_eq_ok {mustParse : String → Option Quantity} {cr : TailpostAgent}
    {desired : StatefulSet} (created : createStatefulSet mustParse cr = .ok desired) :
    ∃ limits requests, resourceList mustParse cr.spec.resources.limits = .ok limits ∧
      resourceList mustParse cr.spec.resources.requests = .ok requests ∧
      desired = statefulSetOf cr ⟨limits, requests⟩ := by
  unfold createStatefulSet at created
  cases limits : resourceList mustParse cr.spec.resources.limits with
  | error error =>
      rw [limits] at created
      contradiction
  | ok limitList =>
      cases requests : resourceList mustParse cr.spec.resources.requests with
      | error error =>
          rw [limits, requests] at created
          contradiction
      | ok requestList =>
          rw [limits, requests] at created
          cases created
          exact ⟨limitList, requestList, rfl, rfl, rfl⟩

/-- The desired Service, on the port of the metrics. -/
def createService (cr : TailpostAgent) : Service where
  metadata := childMeta cr (getServiceName cr)
  selector := some (getLabels cr)
  ports := [⟨"metrics", metricsPort, .int metricsPort, "TCP"⟩]

/-! ## Whether a live object has to be updated -/

/-- Only the data is compared. -/
def configMapNeedsUpdate (current desired : ConfigMap) : Bool :=
  current.data != desired.data

/-- The images and resources are compared only when the replicas agree; a
template without containers is indexed out of its bounds. -/
def statefulSetNeedsUpdate (current desired : StatefulSet) : Except Failure Bool :=
  if current.spec.replicas ≠ desired.spec.replicas then
    .ok true
  else
    match current.spec.template.containers, desired.spec.template.containers with
    | container :: _, wanted :: _ =>
        .ok (container.image != wanted.image || container.resources != wanted.resources)
    | _, _ => .error .panic

theorem statefulSetNeedsUpdate_eq_error {current desired : StatefulSet} {failure : Failure}
    (failed : statefulSetNeedsUpdate current desired = .error failure) : failure = .panic := by
  unfold statefulSetNeedsUpdate at failed
  split at failed
  · contradiction
  · split at failed
    · contradiction
    · cases failed
      rfl

/-- The selector and the ports are compared. -/
def serviceNeedsUpdate (current desired : Service) : Bool :=
  current.selector != desired.selector || current.ports != desired.ports

end Tailpost.Operator
