import Tailpost.Memory.Objects
import Tailpost.Operator.Resources

/-!
# Deep copies of the custom resource

The API machinery hands out copies of the objects it caches, and the operator writes into
them.  The copy functions of the resource types begin with the assignment `*out = *in`,
which shares every pointer, slice and map with the original, and then replace what they
know to be shared.

Each type is a record with parameters for the fields that refer to other objects: pointers
and slices in memory, and what they refer to in the value that a reader sees.  The metadata
and the label selectors come from the API library with copy functions of their own; their
types and their copies are parameters, and the only thing known about the copies is that
they are deep.
-/

namespace Tailpost.Operator.DeepCopy

open Memory

/-! ## The types -/

/-- The types of the API library. -/
structure Library where
  ObjectMeta : Type
  ListMeta : Type
  LabelSelector : Type

/-- The kind of an object and the version of its group. -/
structure TypeMeta where
  kind : String
  apiVersion : String
  deriving DecidableEq

/-- A `LogSourceSpec`, with its two selectors. -/
structure LogSource (Selector : Type) where
  type : String
  path : String
  containerName : String
  podSelector : Selector
  namespaceSelector : Selector
  deriving DecidableEq

/-- A `TailpostAgentSpec`, with its integers by pointer and its log sources. -/
structure Spec (Integer Sources : Type) where
  replicas : Integer
  image : String
  imagePullPolicy : String
  serviceAccount : String
  logSources : Sources
  serverURL : String
  batchSize : Integer
  flushInterval : String
  resources : ResourceRequirementsSpec
  deriving DecidableEq

/-- A `TailpostAgentStatus`, with its conditions. -/
structure Status (Conditions : Type) where
  conditions : Conditions
  availableReplicas : Int32
  lastUpdateTime : Nat
  deriving DecidableEq

/-- A `TailpostAgent`. -/
structure Agent (Meta SpecType StatusType : Type) where
  typeMeta : TypeMeta
  metadata : Meta
  spec : SpecType
  status : StatusType
  deriving DecidableEq

/-- A `TailpostAgentList`. -/
structure AgentList (Meta Items : Type) where
  typeMeta : TypeMeta
  metadata : Meta
  items : Items
  deriving DecidableEq

/-- A log source in memory: the selector is a pointer. -/
abbrev LogSourceRecord :=
  LogSource (Option Nat)

/-- A specification in memory: the replicas are a pointer, the log sources a
slice. -/
abbrev SpecRecord :=
  Spec (Option Nat) (Option Slice)

/-- A status in memory: the conditions are a slice. -/
abbrev StatusRecord :=
  Status (Option Slice)

/-- An agent in memory, held in one cell with its specification and status. -/
abbrev AgentRecord (records : Library) :=
  Agent records.ObjectMeta SpecRecord StatusRecord

/-- A list of agents in memory: the items are a slice. -/
abbrev AgentListRecord (records : Library) :=
  AgentList records.ListMeta (Option Slice)

/-- The log source that a record stands for, with the selector itself. -/
abbrev LogSourceValue (values : Library) :=
  LogSource (Option values.LabelSelector)

/-- The specification that a record stands for; nil and empty slices differ. -/
abbrev SpecValue (values : Library) :=
  Spec (Option Int32) (Option (List (LogSourceValue values)))

/-- The status that a record stands for. -/
abbrev StatusValue :=
  Status (Option (List TailpostAgentCondition))

/-- The agent that a record stands for. -/
abbrev AgentValue (values : Library) :=
  Agent values.ObjectMeta (SpecValue values) StatusValue

/-- The list of agents that a record stands for. -/
abbrev AgentListValue (values : Library) :=
  AgentList values.ListMeta (Option (List (AgentValue values)))

/-! ## Memory -/

/-- What pointers and slices refer to. -/
inductive CellKind
  | int32
  | selector
  | logSources
  | conditions
  | agent
  | agents
  | agentList
  /-- What the fields of the API library's types refer to. -/
  | foreign
  deriving DecidableEq

/-- What a cell of each kind holds. -/
abbrev CellKind.Content (records : Library) (Foreign : Type) : CellKind → Type
  | int32 => Int32
  | selector => records.LabelSelector
  | logSources => List LogSourceRecord
  | conditions => List TailpostAgentCondition
  | agent => AgentRecord records
  | agents => List (AgentRecord records)
  | agentList => AgentListRecord records
  | foreign => Foreign

/-- A cell: its kind and its content. -/
abbrev Cell (records : Library) (Foreign : Type) :=
  Sigma (CellKind.Content records Foreign)

/-- The memory that the copies are made in. -/
abbrev Memory (records : Library) (Foreign : Type) :=
  Objects (Cell records Foreign)

open Objects

section Functions

variable {records values : Library} {Foreign : Type}

/-- The cells of a kind. -/
abbrev cells (kind : CellKind) :
    Embeds (Cell records Foreign) (kind.Content records Foreign) :=
  .tagged kind

/-- What the API library has for one of its types. -/
structure LibraryType (records : Library) (Foreign ρ β : Type) where
  zero : ρ
  read : ρ → Memory records Foreign → Option β
  deepCopyInto : ρ → Memory records Foreign → Option (ρ × Memory records Foreign)

/-- The copy function of the API library makes deep copies. -/
structure LibraryType.Deep {ρ β : Type} (type : LibraryType records Foreign ρ β) : Prop where
  steady : ∀ record, Steady (type.read record)
  copies : Copies type.read type.deepCopyInto

/-- What the API library has for its types. -/
structure Machinery (records values : Library) (Foreign : Type) where
  objectMeta : LibraryType records Foreign records.ObjectMeta values.ObjectMeta
  listMeta : LibraryType records Foreign records.ListMeta values.ListMeta
  labelSelector : LibraryType records Foreign records.LabelSelector values.LabelSelector

/-- All the copy functions of the API library make deep copies. -/
structure Machinery.Deep (machinery : Machinery records values Foreign) : Prop where
  objectMeta : machinery.objectMeta.Deep
  listMeta : machinery.listMeta.Deep
  labelSelector : machinery.labelSelector.Deep

variable (machinery : Machinery records values Foreign)

/-! ## Readers -/

/-- The log source that a record stands for. -/
def LogSource.read (record : LogSourceRecord) (memory : Memory records Foreign) :
    Option (LogSourceValue values) :=
  (readObject (cells .selector) machinery.labelSelector.read record.podSelector memory).bind
    fun podSelector =>
  (readObject (cells .selector) machinery.labelSelector.read record.namespaceSelector memory).bind
    fun namespaceSelector => some { record with podSelector, namespaceSelector }

/-- The spec that a record stands for. -/
def Spec.read (record : SpecRecord) (memory : Memory records Foreign) :
    Option (SpecValue values) :=
  (readObject (cells .int32) plain record.replicas memory).bind fun replicas =>
  (readObject (cells .int32) plain record.batchSize memory).bind fun batchSize =>
  (readSlice (cells .logSources) (LogSource.read machinery) record.logSources memory).bind
    fun logSources => some { record with replicas, batchSize, logSources }

/-- The status that a record stands for. -/
def Status.read (record : StatusRecord) (memory : Memory records Foreign) :
    Option StatusValue :=
  (readSlice (cells .conditions) plain record.conditions memory).bind fun conditions =>
    some { record with conditions }

/-- The agent that a record stands for. -/
def Agent.read (record : AgentRecord records) (memory : Memory records Foreign) :
    Option (AgentValue values) :=
  (machinery.objectMeta.read record.metadata memory).bind fun metadata =>
  (record.spec.read machinery memory).bind fun spec =>
  (record.status.read memory).bind fun status =>
  some { record with metadata, spec, status }

/-- The list of agents that a record stands for. -/
def AgentList.read (record : AgentListRecord records) (memory : Memory records Foreign) :
    Option (AgentListValue values) :=
  (machinery.listMeta.read record.metadata memory).bind fun metadata =>
  (readSlice (cells .agents) (Agent.read machinery) record.items memory).bind fun items =>
  some { record with metadata, items }

/-! ## Copies -/

/-- The zero value of a log source. -/
def LogSource.zero : LogSourceRecord :=
  ⟨"", "", "", none, none⟩

/-- The zero value of a condition. -/
def Condition.zero : TailpostAgentCondition :=
  ⟨"", "", 0, "", ""⟩

/-- The zero value of an agent. -/
def Agent.zero : AgentRecord records where
  typeMeta := ⟨"", ""⟩
  metadata := machinery.objectMeta.zero
  spec := ⟨none, "", "", "", none, "", none, "", ⟨⟨"", ""⟩, ⟨"", ""⟩⟩⟩
  status := ⟨none, 0, 0⟩

/-- The zero value of a list of agents. -/
def AgentList.zero : AgentListRecord records :=
  ⟨⟨"", ""⟩, machinery.listMeta.zero, none⟩

/-- Each selector is copied into a new one. -/
def LogSource.deepCopyInto (record : LogSourceRecord) (memory : Memory records Foreign) :
    Option (LogSourceRecord × Memory records Foreign) := do
  let selector := machinery.labelSelector
  let (podSelector, memory) ←
    copyObject (cells .selector) selector.zero selector.deepCopyInto record.podSelector memory
  let (namespaceSelector, memory) ←
    copyObject (cells .selector) selector.zero selector.deepCopyInto record.namespaceSelector
      memory
  some ({ record with podSelector, namespaceSelector }, memory)

/-- The amounts are texts. -/
def ResourceList.deepCopyInto :
    ResourceListSpec → Memory records Foreign →
      Option (ResourceListSpec × Memory records Foreign) :=
  assign

/-- The limits, and then the requests. -/
def ResourceRequirements.deepCopyInto (record : ResourceRequirementsSpec)
    (memory : Memory records Foreign) :
    Option (ResourceRequirementsSpec × Memory records Foreign) := do
  let (limits, memory) ← ResourceList.deepCopyInto record.limits memory
  let (requests, memory) ← ResourceList.deepCopyInto record.requests memory
  some (⟨limits, requests⟩, memory)

/-- The integers and the log sources are copied into new objects. -/
def Spec.deepCopyInto (record : SpecRecord) (memory : Memory records Foreign) :
    Option (SpecRecord × Memory records Foreign) := do
  let (replicas, memory) ← copyObject (cells .int32) 0 assign record.replicas memory
  let (batchSize, memory) ← copyObject (cells .int32) 0 assign record.batchSize memory
  let (logSources, memory) ← copySlice (cells .logSources) LogSource.zero
    (LogSource.deepCopyInto machinery) record.logSources memory
  let (resources, memory) ← ResourceRequirements.deepCopyInto record.resources memory
  some ({ record with replicas, batchSize, logSources, resources }, memory)

/-- A condition refers to nothing. -/
def Condition.deepCopyInto :
    TailpostAgentCondition → Memory records Foreign →
      Option (TailpostAgentCondition × Memory records Foreign) :=
  assign

/-- The conditions are copied into a new array. -/
def Status.deepCopyInto (record : StatusRecord) (memory : Memory records Foreign) :
    Option (StatusRecord × Memory records Foreign) := do
  let (conditions, memory) ←
    copySlice (cells .conditions) Condition.zero Condition.deepCopyInto record.conditions memory
  some ({ record with conditions }, memory)

/-- The metadata, the spec and the status, each with its own copy function. -/
def Agent.deepCopyInto (record : AgentRecord records) (memory : Memory records Foreign) :
    Option (AgentRecord records × Memory records Foreign) := do
  let (metadata, memory) ← machinery.objectMeta.deepCopyInto record.metadata memory
  let (spec, memory) ← record.spec.deepCopyInto machinery memory
  let (status, memory) ← record.status.deepCopyInto memory
  some ({ record with metadata, spec, status }, memory)

/-- The metadata of the list, and the agents into a new array. -/
def AgentList.deepCopyInto (record : AgentListRecord records)
    (memory : Memory records Foreign) :
    Option (AgentListRecord records × Memory records Foreign) := do
  let (metadata, memory) ← machinery.listMeta.deepCopyInto record.metadata memory
  let (items, memory) ← copySlice (cells .agents) (Agent.zero machinery)
    (Agent.deepCopyInto machinery) record.items memory
  some ({ record with metadata, items }, memory)

/-- The method `DeepCopy` of an agent. -/
def Agent.deepCopy : Option Nat → Memory records Foreign →
    Option (Option Nat × Memory records Foreign) :=
  copyObject (cells .agent) (Agent.zero machinery) (Agent.deepCopyInto machinery)

/-- The method `DeepCopy` of a list of agents. -/
def AgentList.deepCopy : Option Nat → Memory records Foreign →
    Option (Option Nat × Memory records Foreign) :=
  copyObject (cells .agentList) (AgentList.zero machinery) (AgentList.deepCopyInto machinery)

/-- The types of the package that implement `runtime.Object`, by pointer. -/
inductive RuntimeObject
  | agent (pointer : Option Nat)
  | agentList (pointer : Option Nat)
  deriving DecidableEq

/-- What is behind the pointer of an object. -/
inductive ObjectValue (values : Library)
  | agent (value : AgentValue values)
  | agentList (value : AgentListValue values)

namespace RuntimeObject

/-- The dynamic value of an interface that is not nil may still be a nil pointer. -/
def IsNil : RuntimeObject → Prop
  | agent pointer | agentList pointer => pointer = none

/-- What a reader finds behind the pointer. -/
def read (object : RuntimeObject) (memory : Memory records Foreign) :
    Option (Option (ObjectValue values)) :=
  match object with
  | agent pointer =>
      (readObject (cells .agent) (Agent.read machinery) pointer memory).bind fun value =>
        some (value.map .agent)
  | agentList pointer =>
      (readObject (cells .agentList) (AgentList.read machinery) pointer memory).bind fun value =>
        some (value.map .agentList)

/-- The method `DeepCopyObject` returns the nil interface for a nil pointer. -/
def deepCopyObject (object : RuntimeObject) (memory : Memory records Foreign) :
    Option (Option RuntimeObject × Memory records Foreign) :=
  match object with
  | agent pointer => do
      let (copy, memory) ← Agent.deepCopy machinery pointer memory
      match copy with
      | some address => some (some (agent (some address)), memory)
      | none => some (none, memory)
  | agentList pointer => do
      let (copy, memory) ← AgentList.deepCopy machinery pointer memory
      match copy with
      | some address => some (some (agentList (some address)), memory)
      | none => some (none, memory)

/-- What is behind an interface that may be nil. -/
def readInterface (object : Option RuntimeObject) (memory : Memory records Foreign) :
    Option (Option (ObjectValue values)) :=
  match object with
  | none => some none
  | some object => object.read machinery memory

end RuntimeObject

end Functions

/-! ## Each copy function is right -/

section Correctness

variable {records values : Library} {Foreign : Type}
  {machinery : Machinery records values Foreign}

theorem LogSource.steady_read (deep : machinery.Deep) (record : LogSourceRecord) :
    Steady (record.read machinery) :=
  (steady_readObject deep.labelSelector.steady record.podSelector).bind fun _ =>
    (steady_readObject deep.labelSelector.steady record.namespaceSelector).bind
      fun _ => Steady.pure _

theorem Spec.steady_read (deep : machinery.Deep) (record : SpecRecord) :
    Steady (record.read machinery) :=
  (steady_readObject steady_plain record.replicas).bind fun _ =>
    (steady_readObject steady_plain record.batchSize).bind fun _ =>
      (steady_readSlice (LogSource.steady_read deep) record.logSources).bind fun _ => Steady.pure _

theorem Status.steady_read (record : StatusRecord) :
    Steady (record.read : Memory records Foreign → Option StatusValue) :=
  (steady_readSlice steady_plain record.conditions).bind fun _ => Steady.pure _

theorem Agent.steady_read (deep : machinery.Deep) (record : AgentRecord records) :
    Steady (record.read machinery) :=
  (deep.objectMeta.steady record.metadata).bind fun _ => (record.spec.steady_read deep).bind
    fun _ => record.status.steady_read.bind fun _ => Steady.pure _

theorem AgentList.steady_read (deep : machinery.Deep) (record : AgentListRecord records) :
    Steady (record.read machinery) :=
  (deep.listMeta.steady record.metadata).bind fun _ =>
    (steady_readSlice (Agent.steady_read deep) record.items).bind fun _ => Steady.pure _

theorem LogSource.copies (deep : machinery.Deep) :
    Copies (LogSource.read machinery) (LogSource.deepCopyInto machinery) := by
  intro record memory value found
  obtain ⟨_, podsFound, rest⟩ := Option.bind_eq_some_iff.mp found
  obtain ⟨_, namespacesFound, same⟩ := Option.bind_eq_some_iff.mp rest
  cases same
  have selectors := copies_object (cells .selector) machinery.labelSelector.zero
    deep.labelSelector.copies deep.labelSelector.steady
  obtain ⟨pods, first, podsCopied, grows, podsShown⟩ := selectors _ _ _ podsFound
  obtain ⟨namespaces, second, namespacesCopied, further, namespacesShown⟩ :=
    selectors.afterwards (steady_readObject deep.labelSelector.steady _) namespacesFound grows
  refine ⟨{ record with podSelector := pods, namespaceSelector := namespaces }, second, ?_,
    grows.trans further, ?_⟩
  · simp only [deepCopyInto, podsCopied, namespacesCopied, Option.bind_eq_bind, Option.bind_some]
  · exact (podsShown.carry further).bind (namespacesShown.bind (Shows.pure _))

theorem ResourceRequirements.deepCopyInto_eq (record : ResourceRequirementsSpec)
    (memory : Memory records Foreign) :
    ResourceRequirements.deepCopyInto record memory = some (record, memory) :=
  rfl

theorem Spec.copies (deep : machinery.Deep) :
    Copies (Spec.read machinery) (Spec.deepCopyInto machinery) := by
  intro record memory value found
  obtain ⟨_, replicasFound, rest⟩ := Option.bind_eq_some_iff.mp found
  obtain ⟨_, batchFound, rest⟩ := Option.bind_eq_some_iff.mp rest
  obtain ⟨_, sourcesFound, same⟩ := Option.bind_eq_some_iff.mp rest
  cases same
  have integers : Copies (readObject (cells .int32) plain)
      (copyObject (cells .int32 : Embeds (Cell records Foreign) Int32) 0 assign) :=
    copies_object (cells .int32) 0 copies_assign steady_plain
  have steady := LogSource.steady_read deep
  obtain ⟨replicas, first, replicasCopied, grows₁, replicasShown⟩ := integers _ _ _ replicasFound
  obtain ⟨batchSize, second, batchCopied, grows₂, batchShown⟩ :=
    integers.afterwards (steady_readObject steady_plain _) batchFound grows₁
  obtain ⟨logSources, third, sourcesCopied, grows₃, sourcesShown⟩ :=
    (copies_slice (cells .logSources) LogSource.zero (LogSource.copies deep) steady).afterwards
      (steady_readSlice steady _) sourcesFound (grows₁.trans grows₂)
  refine ⟨{ record with replicas := replicas, batchSize := batchSize, logSources := logSources },
    third, ?_, (grows₁.trans grows₂).trans grows₃, ?_⟩
  · simp only [deepCopyInto, replicasCopied, batchCopied, sourcesCopied,
      ResourceRequirements.deepCopyInto_eq, Option.bind_eq_bind, Option.bind_some]
  · exact (replicasShown.carry (grows₂.trans grows₃)).bind
      ((batchShown.carry grows₃).bind (sourcesShown.bind (Shows.pure _)))

theorem Status.copies :
    Copies (Status.read : StatusRecord → Memory records Foreign → Option StatusValue)
      Status.deepCopyInto := by
  intro record memory value found
  obtain ⟨_, conditionsFound, same⟩ := Option.bind_eq_some_iff.mp found
  cases same
  obtain ⟨conditions, after, conditionsCopied, grows, conditionsShown⟩ :=
    copies_slice (cells .conditions) Condition.zero copies_assign steady_plain _ _ _
      conditionsFound
  refine ⟨{ record with conditions := conditions }, after, ?_, grows, ?_⟩
  · simp only [deepCopyInto, Condition.deepCopyInto, conditionsCopied, Option.bind_eq_bind,
      Option.bind_some]
  · exact conditionsShown.bind (Shows.pure _)

theorem Agent.copies (deep : machinery.Deep) :
    Copies (Agent.read machinery) (Agent.deepCopyInto machinery) := by
  intro record memory value found
  obtain ⟨_, metadataFound, rest⟩ := Option.bind_eq_some_iff.mp found
  obtain ⟨_, specFound, rest⟩ := Option.bind_eq_some_iff.mp rest
  obtain ⟨_, statusFound, same⟩ := Option.bind_eq_some_iff.mp rest
  cases same
  obtain ⟨metadata, first, metadataCopied, grows₁, metadataShown⟩ :=
    deep.objectMeta.copies _ _ _ metadataFound
  obtain ⟨spec, second, specCopied, grows₂, specShown⟩ :=
    (Spec.copies deep).afterwards (record.spec.steady_read deep) specFound grows₁
  obtain ⟨status, third, statusCopied, grows₃, statusShown⟩ :=
    Status.copies.afterwards record.status.steady_read statusFound (grows₁.trans grows₂)
  refine ⟨{ record with metadata := metadata, spec := spec, status := status }, third, ?_,
    (grows₁.trans grows₂).trans grows₃, ?_⟩
  · simp only [deepCopyInto, metadataCopied, specCopied, statusCopied, Option.bind_eq_bind,
      Option.bind_some]
  · exact (metadataShown.carry (grows₂.trans grows₃)).bind
      ((specShown.carry grows₃).bind (statusShown.bind (Shows.pure _)))

theorem AgentList.copies (deep : machinery.Deep) :
    Copies (AgentList.read machinery) (AgentList.deepCopyInto machinery) := by
  intro record memory value found
  obtain ⟨_, metadataFound, rest⟩ := Option.bind_eq_some_iff.mp found
  obtain ⟨_, itemsFound, same⟩ := Option.bind_eq_some_iff.mp rest
  cases same
  have steady := Agent.steady_read deep
  obtain ⟨metadata, first, metadataCopied, grows, metadataShown⟩ :=
    deep.listMeta.copies _ _ _ metadataFound
  obtain ⟨items, second, itemsCopied, further, itemsShown⟩ :=
    (copies_slice (cells .agents) (Agent.zero machinery) (Agent.copies deep) steady).afterwards
      (steady_readSlice steady _) itemsFound grows
  refine ⟨{ record with metadata := metadata, items := items }, second, ?_,
    grows.trans further, ?_⟩
  · simp only [deepCopyInto, metadataCopied, itemsCopied, Option.bind_eq_bind, Option.bind_some]
  · exact (metadataShown.carry further).bind (itemsShown.bind (Shows.pure _))

/-! ## Independence -/

namespace RuntimeObject

theorem steady_read (deep : machinery.Deep) (object : RuntimeObject) :
    Steady (object.read machinery) := by
  cases object with
  | agent pointer =>
      exact (steady_readObject (Agent.steady_read deep) _).bind fun _ => Steady.pure _
  | agentList pointer =>
      exact (steady_readObject (AgentList.steady_read deep) _).bind fun _ => Steady.pure _

/-- The copy is behind a pointer that is not nil, in cells that were allocated for it. -/
theorem shows_deepCopyObject (deep : machinery.Deep) {object : RuntimeObject}
    {memory : Memory records Foreign} {value : Option (ObjectValue values)}
    (found : object.read machinery memory = some value) :
    ∃ copy after, object.deepCopyObject machinery memory = some (copy, after) ∧
      (∀ result, copy = some result → ¬ result.IsNil) ∧ Grows memory after ∧
      Shows (Between memory after) after (readInterface machinery copy) value := by
  cases object with
  | agent pointer =>
      obtain ⟨content, agentFound, same⟩ := Option.bind_eq_some_iff.mp found
      cases same
      obtain ⟨copy, after, copied, grows, shown⟩ :=
        copies_object (cells .agent) (Agent.zero machinery) (Agent.copies deep)
          (Agent.steady_read deep) _ _ _ agentFound
      cases copy with
      | none =>
          cases shown.now
          refine ⟨none, after, ?_, nofun, grows, Shows.pure none⟩
          simp only [deepCopyObject, Agent.deepCopy, copied, Option.bind_eq_bind, Option.bind_some]
      | some address =>
          refine ⟨some (agent (some address)), after, ?_, ?_, grows, shown.bind (Shows.pure _)⟩
          · simp only [deepCopyObject, Agent.deepCopy, copied, Option.bind_eq_bind,
              Option.bind_some]
          · rintro _ ⟨⟩
            exact nofun
  | agentList pointer =>
      obtain ⟨content, listFound, same⟩ := Option.bind_eq_some_iff.mp found
      cases same
      obtain ⟨copy, after, copied, grows, shown⟩ :=
        copies_object (cells .agentList) (AgentList.zero machinery) (AgentList.copies deep)
          (AgentList.steady_read deep) _ _ _ listFound
      cases copy with
      | none =>
          cases shown.now
          refine ⟨none, after, ?_, nofun, grows, Shows.pure none⟩
          simp only [deepCopyObject, AgentList.deepCopy, copied, Option.bind_eq_bind,
            Option.bind_some]
      | some address =>
          refine ⟨some (agentList (some address)), after, ?_, ?_, grows,
            shown.bind (Shows.pure _)⟩
          · simp only [deepCopyObject, AgentList.deepCopy, copied, Option.bind_eq_bind,
              Option.bind_some]
          · rintro _ ⟨⟩
            exact nofun

/-- With deep copies from the API library, a deep copy shows what its original shows.
Whatever is written into the cells of the copy does not change the original, whatever is
written into the older cells does not change the copy, and the copy is never an interface
around a nil pointer. -/
theorem deepCopyObject_independent (deep : machinery.Deep) {object : RuntimeObject}
    {memory : Memory records Foreign} {value : Option (ObjectValue values)}
    (found : object.read machinery memory = some value) :
    ∃ copy after, object.deepCopyObject machinery memory = some (copy, after) ∧
      (∀ result, copy = some result → ¬ result.IsNil) ∧
      (∀ later, AgreesOn (memory.size ≤ ·) after later →
        readInterface machinery copy later = some value) ∧
      ∀ later, AgreesOn (· < memory.size) after later →
        object.read machinery later = some value := by
  obtain ⟨copy, after, copied, notNil, grows, shown⟩ := shows_deepCopyObject deep found
  refine ⟨copy, after, copied, notNil, fun later kept => ?_, fun later kept => ?_⟩
  · exact shown later (kept.mono fun _ between => between.1)
  · exact object.steady_read deep memory value found later (grows.agrees.trans kept)

end RuntimeObject

end Correctness

namespace RuntimeObject

/-- A library whose records have labels behind a pointer. -/
def sampleRecords : Library :=
  ⟨Option Nat, Option Nat, Option Nat⟩

/-- What these records stand for. -/
def sampleValues : Library :=
  ⟨Option StringMap, Option StringMap, Option StringMap⟩

/-- A map behind a pointer, with a copy that makes a new map. -/
def labelMap : LibraryType sampleRecords StringMap (Option Nat) (Option StringMap) where
  zero := none
  read := readObject (cells .foreign) plain
  deepCopyInto := copyObject (cells .foreign) ∅ assign

theorem deep_labelMap : labelMap.Deep where
  steady := steady_readObject steady_plain
  copies := copies_object (cells .foreign) ∅ copies_assign steady_plain

/-- All three types are such maps. -/
def sampleMachinery : Machinery sampleRecords sampleValues StringMap :=
  ⟨labelMap, labelMap, labelMap⟩

theorem deep_sampleMachinery : sampleMachinery.Deep :=
  ⟨deep_labelMap, deep_labelMap, deep_labelMap⟩

/-- A list with one agent that has labels, and a source that has a selector. -/
def sampleMemory : Memory sampleRecords StringMap :=
  ⟨[⟨.int32, (3 : Int32)⟩,
    ⟨.foreign, Finmap.singleton "app" "web"⟩,
    ⟨.selector, (some 1 : Option Nat)⟩,
    ⟨.logSources, [⟨"pod", "", "", some 2, none⟩]⟩,
    ⟨.agents, [{ Agent.zero sampleMachinery with
      metadata := some 1
      spec := { (Agent.zero sampleMachinery).spec with
        replicas := some 0, logSources := some ⟨3, 1⟩ } }]⟩,
    ⟨.agentList, { AgentList.zero sampleMachinery with items := some ⟨4, 1⟩ }⟩]⟩

/-- It is copied, labels and selector included. -/
theorem deepCopyObject_independent_list :
    ∃ value copy after,
      (agentList (some 5)).deepCopyObject sampleMachinery sampleMemory = some (some copy, after) ∧
      ¬ copy.IsNil ∧ sampleMemory.size < after.size ∧
      (∀ later, AgreesOn (sampleMemory.size ≤ ·) after later →
        copy.read sampleMachinery later = some (some value)) ∧
      ∀ later, AgreesOn (· < sampleMemory.size) after later →
        (agentList (some 5)).read sampleMachinery later = some (some value) := by
  obtain ⟨value, found⟩ : ∃ value,
      (agentList (some 5)).read sampleMachinery sampleMemory = some (some value) := ⟨_, rfl⟩
  obtain ⟨copy, after, copied, notNil, copyKept, originalKept⟩ :=
    deepCopyObject_independent deep_sampleMachinery found
  obtain ⟨result, larger, made, grown⟩ : ∃ result larger,
      (agentList (some 5)).deepCopyObject sampleMachinery sampleMemory =
        some (some result, larger) ∧ sampleMemory.size < larger.size :=
    ⟨_, _, rfl, by decide⟩
  rw [made] at copied
  cases copied
  exact ⟨value, result, after, made, notNil result rfl, grown, copyKept, originalKept⟩

end RuntimeObject

end Tailpost.Operator.DeepCopy
