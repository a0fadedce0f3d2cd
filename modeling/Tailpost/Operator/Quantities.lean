import Tailpost.Operator.ConfigText
import Tailpost.Operator.Ending

/-!
# Quantities

The schema admits texts for the resources by two patterns, and the operator hands them to
a parser that panics on a text outside the grammar of quantities.  The patterns agree with
the grammar but for one unit: the schema has `K` where the grammar has `k`.
-/

namespace Tailpost.Operator

open Tailpost.Hoare
open Tailpost.Storage

/-! ## The grammar -/

/-- The text behind its sign. -/
def dropSign : List Char → List Char
  | '+' :: rest => rest
  | '-' :: rest => rest
  | text => text

/-- One or more decimal digits. -/
def isDecimal (text : List Char) : Bool :=
  !text.isEmpty && text.all Char.isDigit

/-- The suffixes of a quantity, decimal and binary. -/
def suffixes : List (List Char) :=
  [[], ['n'], ['u'], ['m'], ['k'], ['M'], ['G'], ['T'], ['P'], ['E'],
    ['K', 'i'], ['M', 'i'], ['G', 'i'], ['T', 'i'], ['P', 'i'], ['E', 'i']]

/-- A suffix that is an exponent. -/
def isDecimalExponent : List Char → Bool
  | 'e' :: rest => isDecimal (dropSign rest)
  | 'E' :: rest => isDecimal (dropSign rest)
  | _ => false

/-- What may stand behind the number. -/
def isSuffix (text : List Char) : Bool :=
  text ∈ suffixes || isDecimalExponent text

/-- A number with a suffix; digits may be missing on one side of the point. -/
def isQuantity (text : List Char) : Bool :=
  let unsigned := dropSign text
  let whole := unsigned.takeWhile Char.isDigit
  match unsigned.dropWhile Char.isDigit with
  | '.' :: rest =>
      !(whole ++ rest.takeWhile Char.isDigit).isEmpty && isSuffix (rest.dropWhile Char.isDigit)
  | rest => !whole.isEmpty && isSuffix rest

/-- The parser panics exactly on the texts outside the grammar. -/
def StandardQuantities (mustParse : String → Option Quantity) : Prop :=
  ∀ text, (mustParse text).isSome ↔ isQuantity text.toList = true

section Grammar

variable {digits fraction tail : List Char}

theorem dropSign_append (decimal : isDecimal digits = true) :
    dropSign (digits ++ tail) = digits ++ tail := by
  cases digits with
  | nil => contradiction
  | cons first rest =>
      simp only [List.cons_append]
      unfold dropSign
      split
      next same =>
        cases same
        contradiction
      next same =>
        cases same
        contradiction
      next => rfl

theorem ne_nil_of_isDecimal (decimal : isDecimal digits = true) : digits ≠ [] := by
  rintro rfl
  contradiction

/-- The digits in front of a text are found. -/
theorem span_append (decimal : isDecimal digits = true)
    (boundary : ∀ next, tail.head? = some next → next.isDigit = false) :
    (digits ++ tail).takeWhile Char.isDigit = digits ∧
      (digits ++ tail).dropWhile Char.isDigit = tail := by
  have inside : ∀ digit ∈ digits, digit.isDigit = true :=
    List.all_eq_true.mp (Bool.and_eq_true_iff.mp decimal).2
  rw [List.takeWhile_append_of_pos inside, List.dropWhile_append_of_pos inside]
  cases tail with
  | nil => exact ⟨List.append_nil digits, rfl⟩
  | cons next rest => simp [boundary next rfl]

theorem isQuantity_append (decimal : isDecimal digits = true)
    (boundary : ∀ next, tail.head? = some next → next.isDigit = false)
    (noPoint : tail.head? ≠ some '.') : isQuantity (digits ++ tail) = isSuffix tail := by
  obtain ⟨whole, rest⟩ := span_append decimal boundary
  unfold isQuantity
  simp only [dropSign_append decimal, whole, rest]
  split
  next => exact absurd rfl noPoint
  next => simp [ne_nil_of_isDecimal decimal]

theorem isQuantity_point (decimal : isDecimal digits = true)
    (decimalFraction : isDecimal fraction = true) :
    isQuantity (digits ++ '.' :: fraction) = true := by
  have boundary : ∀ next, ('.' :: fraction).head? = some next → next.isDigit = false := by
    rintro next ⟨⟩
    rfl
  obtain ⟨whole, rest⟩ := span_append decimal boundary
  obtain ⟨_, behind⟩ := @span_append fraction [] decimalFraction (fun _ same => by cases same)
  rw [List.append_nil] at behind
  unfold isQuantity
  have noSuffix : isSuffix [] = true := by decide
  simp only [dropSign_append decimal, whole, rest, behind, noSuffix]
  simp [ne_nil_of_isDecimal decimal]

end Grammar

/-! ## The schema -/

/-- The units of the memory pattern. -/
inductive MemoryUnit
  | Ki
  | Mi
  | Gi
  | Ti
  | Pi
  | Ei
  | K
  | M
  | G
  | T
  | P
  | E
  deriving DecidableEq

/-- The unit as it is written. -/
def MemoryUnit.text : MemoryUnit → List Char
  | .Ki => ['K', 'i']
  | .Mi => ['M', 'i']
  | .Gi => ['G', 'i']
  | .Ti => ['T', 'i']
  | .Pi => ['P', 'i']
  | .Ei => ['E', 'i']
  | .K => ['K']
  | .M => ['M']
  | .G => ['G']
  | .T => ['T']
  | .P => ['P']
  | .E => ['E']

/-- The pattern of a CPU resource: digits, perhaps with an `m` or a fraction behind. -/
def MatchesCpu (text : List Char) : Prop :=
  ∃ digits, isDecimal digits = true ∧
    (text = digits ∨ text = digits ++ ['m'] ∨
      ∃ fraction, isDecimal fraction = true ∧ text = digits ++ '.' :: fraction)

/-- The pattern of a memory resource: digits with a unit. -/
def MatchesMemory (text : List Char) : Prop :=
  ∃ digits unit, isDecimal digits = true ∧ text = digits ++ MemoryUnit.text unit

/-- The limits that the schema puts on the resources; a field that is missing is empty. -/
structure ResourceListSpec.Admitted (spec : ResourceListSpec) : Prop where
  cpu : spec.cpu ≠ "" → MatchesCpu spec.cpu.toList
  memory : spec.memory ≠ "" → MatchesMemory spec.memory.toList

/-- The limits that the schema puts on the fields of a spec. -/
structure SchemaAdmitted (spec : TailpostAgentSpec) : Prop extends Admitted spec where
  replicas : ∀ count, spec.replicas = some count → 1 ≤ count
  imagePullPolicy : spec.imagePullPolicy ∈ ["", "Always", "IfNotPresent", "Never"]
  limits : spec.resources.limits.Admitted
  requests : spec.resources.requests.Admitted

/-- What the API server admits: agents of the schema, and pods with a container. -/
structure Cluster.Admitted (cluster : Cluster) : Prop where
  agents : ∀ {key agent}, cluster.agents.get key = some agent → SchemaAdmitted agent.spec
  statefulSets : ∀ {key statefulSet}, cluster.statefulSets.get key = some statefulSet →
    statefulSet.spec.template.containers ≠ []

/-- The memory is given in the unit `K`. -/
def UsesK (spec : ResourceListSpec) : Prop :=
  spec.memory.toList.getLast? = some 'K'

theorem isQuantity_of_matchesCpu {text : List Char} (admitted : MatchesCpu text) :
    isQuantity text = true := by
  obtain ⟨digits, decimal, rfl | rfl | ⟨fraction, decimalFraction, rfl⟩⟩ := admitted
  · have whole := @isQuantity_append text [] decimal (fun _ same => by cases same) (by simp)
    rw [List.append_nil] at whole
    rw [whole]
    decide
  · rw [isQuantity_append decimal]
    · decide
    · rintro next ⟨⟩
      rfl
    · decide
  · exact isQuantity_point decimal decimalFraction

/-- The two grammars of the memory differ in one unit. -/
theorem isQuantity_iff_of_matchesMemory {text : List Char} (admitted : MatchesMemory text) :
    isQuantity text = true ↔ text.getLast? ≠ some 'K' := by
  obtain ⟨digits, unit, decimal, rfl⟩ := admitted
  rw [isQuantity_append decimal]
  · rw [List.getLast?_append_of_ne_nil]
    · cases unit <;> decide
    · cases unit <;> decide
  · cases unit <;>
    · rintro next ⟨⟩
      rfl
  · cases unit <;> decide

/-! ## Resources that can be parsed -/

section Resources

variable {mustParse : String → Option Quantity} {cr : TailpostAgent}

theorem exists_addResource_iff (standard : StandardQuantities mustParse) (name value : String)
    (list : ResourceList) :
    (∃ added, addResource mustParse name value list = .ok added) ↔
      (value ≠ "" → isQuantity value.toList = true) := by
  unfold addResource
  by_cases given : value ≠ ""
  · rw [if_pos given, ← standard]
    unfold parseQuantity
    cases mustParse value with
    | none => simp [given, bind, Except.bind]
    | some quantity => simp [bind, Except.bind, pure, Except.pure]
  · rw [if_neg given]
    exact iff_of_true ⟨list, rfl⟩ fun missing => absurd missing given

theorem exists_resourceList_iff (standard : StandardQuantities mustParse)
    (spec : ResourceListSpec) :
    (∃ list, resourceList mustParse spec = .ok list) ↔
      (spec.cpu ≠ "" → isQuantity spec.cpu.toList = true) ∧
        (spec.memory ≠ "" → isQuantity spec.memory.toList = true) := by
  unfold resourceList
  split
  next given =>
    rw [← exists_addResource_iff standard "cpu" spec.cpu ∅]
    constructor
    · rintro ⟨_, made⟩
      obtain ⟨cpu, cpuAdded, rest⟩ := bind_eq_ok_iff.mp made
      obtain ⟨memory, memoryAdded, _⟩ := bind_eq_ok_iff.mp rest
      exact ⟨⟨cpu, cpuAdded⟩, (exists_addResource_iff standard _ _ cpu).mp ⟨memory, memoryAdded⟩⟩
    · rintro ⟨⟨cpu, cpuAdded⟩, valid⟩
      obtain ⟨memory, memoryAdded⟩ := (exists_addResource_iff standard "memory" _ cpu).mpr valid
      exact ⟨some memory, bind_eq_ok_iff.mpr ⟨cpu, cpuAdded,
        bind_eq_ok_iff.mpr ⟨memory, memoryAdded, rfl⟩⟩⟩
  next missing =>
    rw [not_or] at missing
    exact iff_of_true ⟨none, rfl⟩
      ⟨fun given => absurd given missing.1, fun given => absurd given missing.2⟩

/-- What the schema admits can be parsed, but for one unit. -/
theorem exists_resourceList_iff_not_usesK (standard : StandardQuantities mustParse)
    {spec : ResourceListSpec} (admitted : spec.Admitted) :
    (∃ list, resourceList mustParse spec = .ok list) ↔ ¬ UsesK spec := by
  rw [exists_resourceList_iff standard]
  constructor
  · rintro ⟨_, valid⟩ usesK
    have given : spec.memory ≠ "" := by
      intro missing
      rw [UsesK, missing] at usesK
      contradiction
    exact (isQuantity_iff_of_matchesMemory (admitted.memory given)).mp (valid given) usesK
  · intro avoidsK
    constructor
    · exact fun given => isQuantity_of_matchesCpu (admitted.cpu given)
    · exact fun given => (isQuantity_iff_of_matchesMemory (admitted.memory given)).mpr avoidsK

theorem exists_createStatefulSet_iff :
    (∃ workload, createStatefulSet mustParse cr = .ok workload) ↔
      (∃ limits, resourceList mustParse cr.spec.resources.limits = .ok limits) ∧
        ∃ requests, resourceList mustParse cr.spec.resources.requests = .ok requests := by
  constructor
  · rintro ⟨workload, made⟩
    obtain ⟨limits, requests, limitsMade, requestsMade, _⟩ := createStatefulSet_eq_ok made
    exact ⟨⟨limits, limitsMade⟩, requests, requestsMade⟩
  · rintro ⟨⟨limits, limitsMade⟩, requests, requestsMade⟩
    exact ⟨_, bind_eq_ok_iff.mpr ⟨limits, limitsMade,
      bind_eq_ok_iff.mpr ⟨requests, requestsMade, rfl⟩⟩⟩

end Resources

/-! ## Panics -/

/-- No memory of the agent is given in the unit `K`. -/
def AvoidsK (spec : TailpostAgentSpec) : Prop :=
  ¬ UsesK spec.resources.limits ∧ ¬ UsesK spec.resources.requests

section Panics

variable {r : TailpostAgentReconciler} {cluster : Cluster} {key : NamespacedName}
  {agent : TailpostAgent}

/-- The objects of an agent can be built exactly when no memory is in the unit `K`. -/
theorem exists_createStatefulSet_iff_avoidsK (standard : StandardQuantities r.mustParse)
    (admitted : SchemaAdmitted agent.spec) :
    (∃ workload, createStatefulSet r.mustParse (filled r agent) = .ok workload) ↔
      AvoidsK agent.spec := by
  rw [exists_createStatefulSet_iff]
  exact and_congr (exists_resourceList_iff_not_usesK standard admitted.limits)
    (exists_resourceList_iff_not_usesK standard admitted.requests)

theorem not_panics_configMap (order : Iteration) (agent : TailpostAgent) (reached : Cluster) :
    ¬ configMapKind.Panics (desiredConfigMap r order (filled r agent)) reached := by
  have size : ∃ batchSize, (filled r agent).spec.batchSize = some batchSize := by
    cases given : agent.spec.batchSize with
    | none => exact ⟨defaultBatchSize, by simp [filled, withDefaults, given]⟩
    | some batchSize => exact ⟨batchSize, by simp [filled, withDefaults, given]⟩
  obtain ⟨batchSize, given⟩ := size
  rintro (failed | ⟨_, _, _, _, failed⟩)
  · simp [desiredConfigMap, createConfigMap, given, Except.map] at failed
  · simp [configMapKind] at failed

theorem not_panics_statefulSet {reached : Cluster} (admitted : cluster.Admitted)
    (same : reached.statefulSets = cluster.statefulSets)
    (built : ∃ workload, createStatefulSet r.mustParse (filled r agent) = .ok workload) :
    ¬ statefulSetKind.Panics (desiredStatefulSet r (filled r agent)) reached := by
  obtain ⟨workload, made⟩ := built
  obtain ⟨_, _, _, _, rfl⟩ := createStatefulSet_eq_ok made
  rintro (failed | ⟨desired, found, created, live, failed⟩)
  · simp [desiredStatefulSet, made, Except.map] at failed
  · simp only [desiredStatefulSet, made, Except.map] at created
    cases created
    have containers : found.spec.template.containers ≠ [] := by
      apply admitted.statefulSets
      rw [← same]
      exact live
    obtain ⟨container, rest, isContainers⟩ := List.exists_cons_of_ne_nil containers
    simp only [statefulSetKind, statefulSetNeedsUpdate, isContainers] at failed
    split at failed <;> contradiction

/-- A run for an agent whose objects can be built does not panic. -/
theorem not_panics_of_avoidsK (standard : StandardQuantities r.mustParse)
    (admitted : cluster.Admitted) (found : cluster.agents.get key = some agent)
    (avoidsK : AvoidsK agent.spec) (run : Run) (effects : List Effect) :
    (exec (reconcile r run key) ⟨cluster, effects⟩).1 ≠ .error .panic := by
  have built := (exists_createStatefulSet_iff_avoidsK standard (admitted.agents found)).mpr avoidsK
  rcases ran : exec (reconcile r run key) ⟨cluster, effects⟩ with ⟨outcome, after⟩
  have ending := ending_of_exec found ran
  generalize after.cluster = final at ending
  rintro rfl
  cases ending with
  | configMapPanics panics => exact not_panics_configMap _ _ _ panics
  | statefulSetPanics first panics =>
      obtain ⟨_, _, _, _, rfl⟩ := first
      exact not_panics_statefulSet admitted rfl built panics

/-- A run for an agent whose objects cannot be built panics when no call fails. -/
theorem avoidsK_of_not_panics (standard : StandardQuantities r.mustParse)
    (admitted : SchemaAdmitted agent.spec) (found : cluster.agents.get key = some agent)
    {run : Run} {effects : List Effect} (succeeds : ∀ api, run.fails api = none)
    (calm : (exec (reconcile r run key) ⟨cluster, effects⟩).1 ≠ .error .panic) :
    AvoidsK agent.spec := by
  have ends := @reconcile_reconciled r run cluster key agent found ⟨cluster, effects⟩ rfl
  rcases ran : exec (reconcile r run key) ⟨cluster, effects⟩ with ⟨failure | response, after⟩
  · rw [ran] at ends calm
    exact absurd (congrArg Except.error ends) calm
  · obtain ⟨_, _, created, _, _⟩ := (reconciled_of_succeeds found succeeds ran).statefulSet
    obtain ⟨workload, made, _⟩ := map_eq_ok_iff.mp created
    exact (exists_createStatefulSet_iff_avoidsK standard admitted).mp ⟨workload, made⟩

end Panics

/-- In a cluster as the API server admits it, no run for a name panics exactly when the agent
of that name has no memory in the unit `K`. -/
theorem never_panics_iff_avoidsK {r : TailpostAgentReconciler} {cluster : Cluster}
    (standard : StandardQuantities r.mustParse) (admitted : cluster.Admitted)
    (key : NamespacedName) :
    (∀ run effects, (exec (reconcile r run key) ⟨cluster, effects⟩).1 ≠ .error .panic) ↔
      ∀ agent, cluster.agents.get key = some agent → AvoidsK agent.spec := by
  constructor
  · intro calm agent found
    have succeeds (api : ApiCall) : (Run.undisturbed .asAdded).fails api = none := rfl
    exact avoidsK_of_not_panics standard (admitted.agents found) found succeeds (calm _ [])
  · intro avoidsK run effects
    cases found : cluster.agents.get key with
    | none =>
        intro panicked
        have ends := @reconcile_of_missing r run cluster key found ⟨cluster, effects⟩ rfl
        rcases ran : exec (reconcile r run key) ⟨cluster, effects⟩ with ⟨failure | response, after⟩
        · rw [ran] at ends
          exact ends
        · rw [ran] at panicked
          contradiction
    | some agent =>
        exact not_panics_of_avoidsK standard admitted found (avoidsK agent found) run effects

/-- A parser of quantities.  It caches no text. -/
def parseSample (text : String) : Option Quantity :=
  if text = "64Mi" then some ⟨67108864, 0, "BinarySI", ""⟩
  else if isQuantity text.toList then some ⟨0, 0, "DecimalSI", ""⟩
  else none

theorem standardQuantities_parseSample : StandardQuantities parseSample := by
  intro text
  unfold parseSample
  split
  next same =>
    subst same
    exact iff_of_true rfl (by decide)
  next =>
    split
    next valid => exact iff_of_true rfl valid
    next invalid => exact iff_of_false (by simp) invalid

/-- An agent whose memory is limited. -/
def limitedAgent (memory : String) : TailpostAgent :=
  { sampleAgent "Always" with
    spec := { (sampleAgent "Always").spec with resources := ⟨⟨"", memory⟩, ⟨"", ""⟩⟩ } }

/-- The agent alone. -/
def limitedCluster (memory : String) : Cluster where
  agents := Store.empty.put (limitedAgent memory)
  configMaps := .empty
  statefulSets := .empty
  services := .empty

theorem admitted_limitedCluster {memory : String} (admitted : MatchesMemory memory.toList) :
    (limitedCluster memory).Admitted where
  agents := by
    intro key agent found
    have same : agent = limitedAgent memory := by
      by_cases named : key = (limitedAgent memory).key
      · rw [named] at found
        have stored : (limitedCluster memory).agents.get (limitedAgent memory).key =
            some (limitedAgent memory) := Store.get_put_self _ _
        exact Option.some.inj (found.symm.trans stored)
      · have missing : (limitedCluster memory).agents.get key = none :=
          (Store.empty : Store TailpostAgent.key).get_put_of_ne named
        rw [missing] at found
        contradiction
    subst same
    exact {
      sources := fun _ member => absurd member List.not_mem_nil
      batchSize := fun _ given => by cases given
      flushInterval := fun given => absurd rfl given
      replicas := fun _ given => by cases given
      imagePullPolicy := by simp [limitedAgent, sampleAgent]
      limits := ⟨fun given => absurd rfl given, fun _ => admitted⟩
      requests := ⟨fun given => absurd rfl given, fun given => absurd rfl given⟩ }
  statefulSets := by
    intro key statefulSet found
    cases found

/-- No run panics at a memory of 64 mebibytes. -/
theorem never_panics_iff_avoidsK_mebibytes :
    (limitedCluster "64Mi").agents.get ⟨"default", "agent"⟩ = some (limitedAgent "64Mi") ∧
      ∀ run effects, (exec (reconcile { sampleReconciler with mustParse := parseSample } run
        ⟨"default", "agent"⟩) ⟨limitedCluster "64Mi", effects⟩).1 ≠ .error .panic := by
  have admitted : MatchesMemory "64Mi".toList := ⟨['6', '4'], .Mi, by decide, by decide⟩
  have standard : StandardQuantities
      ({ sampleReconciler with mustParse := parseSample } : TailpostAgentReconciler).mustParse :=
    standardQuantities_parseSample
  have present : (limitedCluster "64Mi").agents.get ⟨"default", "agent"⟩ =
      some (limitedAgent "64Mi") := by
    decide
  refine ⟨present, (never_panics_iff_avoidsK standard (admitted_limitedCluster admitted)
    ⟨"default", "agent"⟩).mpr ?_⟩
  intro agent found
  cases Option.some.inj (present.symm.trans found)
  constructor <;> simp [UsesK, limitedAgent]

/-- A memory of 64 kilobytes matches the pattern of the schema, and makes the operator
panic. -/
theorem kilobytes_panic :
    StandardQuantities parseSample ∧ (limitedCluster "64K").Admitted ∧
      (exec (reconcile { sampleReconciler with mustParse := parseSample } (.undisturbed .asAdded)
        ⟨"default", "agent"⟩) ⟨limitedCluster "64K", []⟩).1 = .error .panic := by
  have admitted : MatchesMemory "64K".toList := ⟨['6', '4'], .K, by decide, by decide⟩
  exact ⟨standardQuantities_parseSample, admitted_limitedCluster admitted, by decide⟩

end Tailpost.Operator
