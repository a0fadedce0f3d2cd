import Mathlib.Data.List.Nodup
import Tailpost.Operator.Convergence
import Tailpost.Operator.Ending

/-!
# The conditions of an agent

A run that succeeds sets `Available` and removes `Degraded`; one that breaks off at a
child sets `Degraded`.  The list keeps one condition of each type, and a condition keeps
its time as long as it keeps its status.  The writes of the conditions may fail without
the run noticing, so that success need not be visible.
-/

namespace Tailpost.Operator

open Tailpost.Hoare
open Tailpost.Storage

/-! ## Lists of conditions -/

section Lists

variable {condition : TailpostAgentCondition} {conditions : List TailpostAgentCondition}

/-- The types of a list of conditions. -/
def types (conditions : List TailpostAgentCondition) : List String :=
  conditions.map TailpostAgentCondition.type

/-- A condition of the type. -/
def ofType (type : String) (condition : TailpostAgentCondition) : Bool :=
  condition.type == type

/-- The condition that a child failed. -/
def isDegraded (condition : TailpostAgentCondition) : Bool :=
  condition.type == conditionTypeDegraded

/-- A condition of the type after another one is set. -/
def renewed (condition existing : TailpostAgentCondition) : TailpostAgentCondition :=
  if existing.status ≠ condition.status then { condition with type := existing.type }
  else existing

theorem type_renewed {existing : TailpostAgentCondition} :
    (renewed condition existing).type = existing.type := by
  unfold renewed
  split <;> rfl

theorem status_renewed {existing : TailpostAgentCondition} :
    (renewed condition existing).status = condition.status := by
  unfold renewed
  split
  next => rfl
  next unchanged => exact not_not.mp unchanged

/-- Conditions of other types are passed by. -/
theorem withCondition_append {front back : List TailpostAgentCondition}
    (missing : condition.type ∉ types front) :
    withCondition condition (front ++ back) = front ++ withCondition condition back := by
  induction front with
  | nil => rfl
  | cons existing rest inductionHypothesis =>
      have apart := List.not_mem_of_not_mem_cons missing
      have other : existing.type ≠ condition.type :=
        fun same => missing (same ▸ List.mem_cons_self)
      rw [List.cons_append, withCondition, if_neg other, inductionHypothesis apart]
      rfl

/-- A condition of a new type is added at the end; otherwise the first one of its type
is renewed. -/
theorem withCondition_cases (condition : TailpostAgentCondition)
    (conditions : List TailpostAgentCondition) :
    condition.type ∉ types conditions ∧
        withCondition condition conditions = conditions ++ [condition] ∨
      ∃ front existing back, condition.type ∉ types front ∧ existing.type = condition.type ∧
        conditions = front ++ existing :: back ∧
        withCondition condition conditions = front ++ renewed condition existing :: back := by
  cases search : conditions.find? (ofType condition.type) with
  | none =>
      have missing : condition.type ∉ types conditions := by
        intro member
        obtain ⟨existing, inside, same⟩ := List.mem_map.mp member
        exact List.find?_eq_none.mp search existing inside (beq_iff_eq.mpr same)
      have added : withCondition condition (conditions ++ []) = conditions ++ [condition] :=
        withCondition_append missing
      exact Or.inl ⟨missing, by rwa [List.append_nil] at added⟩
  | some existing =>
      obtain ⟨found, front, back, rfl, others⟩ := List.find?_eq_some_iff_append.mp search
      have same : existing.type = condition.type := beq_iff_eq.mp found
      have missing : condition.type ∉ types front := by
        intro member
        obtain ⟨earlier, inside, type⟩ := List.mem_map.mp member
        have other := others earlier inside
        simp [ofType, type] at other
      refine Or.inr ⟨front, existing, back, missing, same, rfl, ?_⟩
      rw [withCondition_append missing, withCondition, if_pos same, renewed]
      split <;> rfl

theorem find?_of_not_mem {type : String} (missing : type ∉ types conditions) :
    conditions.find? (ofType type) = none := by
  apply List.find?_eq_none.mpr
  intro existing inside found
  exact missing (List.mem_map.mpr ⟨existing, inside, beq_iff_eq.mp found⟩)

theorem find?_append_cons {type : String} {front back : List TailpostAgentCondition}
    (missing : type ∉ types front) (same : condition.type = type) :
    (front ++ condition :: back).find? (ofType type) = some condition := by
  have found : ofType type condition = true := beq_iff_eq.mpr same
  rw [List.find?_append, find?_of_not_mem missing, List.find?_cons_of_pos found]
  rfl

/-- The first condition of the type afterwards. -/
theorem find?_withCondition :
    (withCondition condition conditions).find? (ofType condition.type) =
      some ((conditions.find? (ofType condition.type)).elim condition (renewed condition)) := by
  rcases withCondition_cases condition conditions with
    ⟨missing, added⟩ | ⟨front, existing, back, missing, same, rfl, renews⟩
  · rw [added, find?_append_cons missing rfl, find?_of_not_mem missing]
    rfl
  · rw [renews, find?_append_cons missing (type_renewed.trans same),
      find?_append_cons missing same]
    rfl

theorem types_withCondition :
    types (withCondition condition conditions) =
      if condition.type ∈ types conditions then types conditions
      else types conditions ++ [condition.type] := by
  rcases withCondition_cases condition conditions with
    ⟨missing, added⟩ | ⟨front, existing, back, _, same, rfl, renews⟩
  · rw [if_neg missing, added]
    simp [types]
  · rw [renews]
    simp [types, type_renewed, same]

theorem nodup_types_withCondition (distinct : (types conditions).Nodup) :
    (types (withCondition condition conditions)).Nodup := by
  rw [types_withCondition]
  split
  next => exact distinct
  next missing =>
    apply distinct.append (List.nodup_singleton _)
    intro type member single
    rw [List.mem_singleton.mp single] at member
    exact missing member

/-- Conditions of other types are left alone. -/
theorem filter_withCondition {keep : TailpostAgentCondition → Bool}
    (other : ∀ kept, keep kept = true → kept.type ≠ condition.type) :
    (withCondition condition conditions).filter keep = conditions.filter keep := by
  have dropped {existing : TailpostAgentCondition} (same : existing.type = condition.type) :
      ¬ keep existing = true :=
    fun kept => other existing kept same
  rcases withCondition_cases condition conditions with
    ⟨_, added⟩ | ⟨front, existing, back, _, same, rfl, renews⟩
  · rw [added, List.filter_append, List.filter_cons_of_neg (dropped rfl), List.filter_nil,
      List.append_nil]
  · rw [renews, List.filter_append, List.filter_append, List.filter_cons_of_neg (dropped same),
      List.filter_cons_of_neg (dropped (type_renewed.trans same))]

theorem exists_withCondition :
    ∃ set ∈ withCondition condition conditions,
      set.type = condition.type ∧ set.status = condition.status := by
  rcases withCondition_cases condition conditions with
    ⟨_, added⟩ | ⟨front, existing, back, _, same, _, renews⟩
  · rw [added]
    exact ⟨condition, List.mem_append_right _ (List.mem_singleton_self _), rfl, rfl⟩
  · rw [renews]
    exact ⟨renewed condition existing, List.mem_append_right _ List.mem_cons_self,
      type_renewed.trans same, status_renewed⟩

/-- A condition in the new list stood in the old one, or is one whose status was
changed, or is new. -/
theorem mem_withCondition {found : TailpostAgentCondition}
    (member : found ∈ withCondition condition conditions) :
    found ∈ conditions ∨ found.type = condition.type ∧
      (condition.type ∉ types conditions ∨
        ∃ existing ∈ conditions, existing.type = condition.type ∧
          existing.status ≠ found.status) := by
  rcases withCondition_cases condition conditions with
    ⟨missing, added⟩ | ⟨front, existing, back, _, same, rfl, renews⟩
  · rw [added] at member
    rcases List.mem_append.mp member with old | new
    · exact Or.inl old
    · cases List.mem_singleton.mp new
      exact Or.inr ⟨rfl, Or.inl missing⟩
  · rw [renews] at member
    rcases List.mem_append.mp member with old | later
    · exact Or.inl (List.mem_append_left _ old)
    · rcases List.mem_cons.mp later with rfl | old
      · by_cases changed : existing.status ≠ condition.status
        · refine Or.inr ⟨type_renewed.trans same, Or.inr ⟨existing, ?_, same, ?_⟩⟩
          · exact List.mem_append_right _ List.mem_cons_self
          · rwa [status_renewed]
        · rw [renewed, if_neg changed]
          exact Or.inl (List.mem_append_right _ List.mem_cons_self)
      · exact Or.inl (List.mem_append_right _ (List.mem_cons_of_mem _ old))

end Lists

/-! ## Success in the status -/

/-- The agent is marked as available. -/
def MarkedAvailable (conditions : List TailpostAgentCondition) : Prop :=
  ∃ condition ∈ conditions, condition.type = conditionTypeAvailable ∧ condition.status = "True"

/-- The agent is marked as available, and not as degraded. -/
def Visible (conditions : List TailpostAgentCondition) : Prop :=
  MarkedAvailable conditions ∧
    ∀ condition ∈ conditions, condition.type ≠ conditionTypeDegraded

/-- The writes succeed that are needed to make success visible; of several conditions
`Degraded` only the first is removed. -/
def Announces (run : Run) (conditions : List TailpostAgentCondition) : Prop :=
  conditions.countP isDegraded = 0 ∧
      (run.fails .setCondition = none ∨ MarkedAvailable conditions) ∨
    conditions.countP isDegraded = 1 ∧ run.fails .removeCondition = none

/-- The conditions that `setCondition` writes at the end of a successful run. -/
def availableConditions (run : Run) (conditions : List TailpostAgentCondition) :
    List TailpostAgentCondition :=
  withCondition ⟨conditionTypeAvailable, "True", run.conditionTime, "AgentAvailable",
    "The agent is available"⟩ conditions

section Success

variable {run : Run} {conditions : List TailpostAgentCondition}

theorem visible_iff :
    Visible conditions ↔ MarkedAvailable conditions ∧ conditions.countP isDegraded = 0 := by
  simp [Visible, isDegraded, List.countP_eq_zero]

theorem not_isDegraded_of_available {condition : TailpostAgentCondition}
    (available : condition.type = conditionTypeAvailable) : ¬ isDegraded condition = true := by
  unfold isDegraded
  rw [available]
  decide

/-- Setting `Available` leaves the conditions `Degraded` alone. -/
theorem countP_availableConditions (run : Run) (conditions : List TailpostAgentCondition) :
    (availableConditions run conditions).countP isDegraded = conditions.countP isDegraded := by
  rw [List.countP_eq_length_filter, List.countP_eq_length_filter, availableConditions,
    filter_withCondition fun _ degraded available =>
      not_isDegraded_of_available available degraded]

theorem markedAvailable_availableConditions :
    MarkedAvailable (availableConditions run conditions) :=
  exists_withCondition

theorem MarkedAvailable.eraseP (marked : MarkedAvailable conditions) :
    MarkedAvailable (conditions.eraseP isDegraded) := by
  obtain ⟨condition, member, available, status⟩ := marked
  have kept := (List.mem_eraseP_of_neg (not_isDegraded_of_available available)).mpr member
  exact ⟨condition, kept, available, status⟩

theorem countP_eraseP :
    (conditions.eraseP isDegraded).countP isDegraded = conditions.countP isDegraded - 1 := by
  induction conditions with
  | nil => rfl
  | cons condition rest inductionHypothesis =>
      by_cases degraded : isDegraded condition = true
      · simp [degraded]
      · simp [degraded, inductionHypothesis]

end Success

theorem degradedIndex_eq_none_iff (agent : TailpostAgent) :
    degradedIndex agent = none ↔ agent.status.conditions.countP isDegraded = 0 := by
  rw [degradedIndex, List.findIdx?_eq_none_iff, List.countP_eq_zero]
  simp [isDegraded]

/-- The conditions that a successful run leaves behind. -/
theorem conditions_announced (run : Run) (agent : TailpostAgent) :
    (announced run agent).status.conditions =
      if agent.status.conditions.countP isDegraded ≠ 0 ∧ run.fails .removeCondition = none then
        (availableConditions run agent.status.conditions).eraseP isDegraded
      else if run.fails .setCondition = none then
        availableConditions run agent.status.conditions
      else
        agent.status.conditions := by
  have count := countP_availableConditions run agent.status.conditions
  have kept : (if run.fails .setCondition = none then available run agent
      else agent).status.conditions = if run.fails .setCondition = none then
        availableConditions run agent.status.conditions else agent.status.conditions := by
    split <;> rfl
  unfold announced
  cases found : degradedIndex (available run agent) with
  | none =>
      have absent := (degradedIndex_eq_none_iff _).mp found
      apply kept.trans (if_neg _).symm
      exact fun removed => removed.1 (count.symm.trans absent)
  | some index =>
      have present : agent.status.conditions.countP isDegraded ≠ 0 := by
        intro absent
        have missing := (degradedIndex_eq_none_iff (available run agent)).mpr (count.trans absent)
        rw [found] at missing
        contradiction
      dsimp only
      by_cases removes : run.fails .removeCondition = none
      · rw [if_pos removes, if_pos (And.intro present removes), List.eraseP_eq_eraseIdx]
        have same : (availableConditions run agent.status.conditions).findIdx? isDegraded =
          some index := found
        rw [same]
        rfl
      · rw [if_neg removes]
        exact kept.trans (if_neg fun removed => removes removed.2).symm

theorem visible_iff_announces (run : Run) (agent : TailpostAgent) :
    Visible (announced run agent).status.conditions ↔
      Announces run agent.status.conditions := by
  have marked := @markedAvailable_availableConditions run agent.status.conditions
  have count := countP_availableConditions run agent.status.conditions
  rw [conditions_announced, visible_iff]
  unfold Announces
  split
  next removed =>
    rw [countP_eraseP, count]
    constructor
    · intro visible
      exact Or.inr ⟨by omega, removed.2⟩
    · rintro (⟨absent, _⟩ | ⟨single, _⟩)
      · exact absurd absent removed.1
      · exact ⟨marked.eraseP, by omega⟩
  next unremoved =>
    have removes : agent.status.conditions.countP isDegraded = 1 →
        ¬ run.fails .removeCondition = none :=
      fun single succeeds => unremoved ⟨by omega, succeeds⟩
    split
    next set =>
      rw [count]
      constructor
      · exact fun visible => Or.inl ⟨visible.2, Or.inl set⟩
      · rintro (⟨absent, _⟩ | ⟨single, succeeds⟩)
        · exact ⟨marked, absent⟩
        · exact absurd succeeds (removes single)
    next unset =>
      constructor
      · exact fun visible => Or.inl ⟨visible.2, Or.inr visible.1⟩
      · rintro (⟨absent, set | before⟩ | ⟨single, succeeds⟩)
        · exact absurd set unset
        · exact ⟨before, absent⟩
        · exact absurd succeeds (removes single)

/-- A run that returns no error is visible in the status exactly when the writes of the
conditions that are needed for it succeed. -/
theorem success_visible_iff {r : TailpostAgentReconciler} {run : Run} {cluster : Cluster}
    {key : NamespacedName} {agent : TailpostAgent} {effects : List Effect}
    {response : Response} {after : Session} (found : cluster.agents.get key = some agent)
    (ran : exec (reconcile r run key) ⟨cluster, effects⟩ = (.ok response, after))
    (succeeded : response.error = none) :
    (∃ stored, after.cluster.agents.get key = some stored ∧ Visible stored.status.conditions) ↔
      Announces run agent.status.conditions := by
  have named : agent.key = key := cluster.agents.named found
  have key_filled : (filled r agent).key = agent.key := rfl
  obtain ⟨reached, _, final⟩ := reported_of_exec found ran succeeded
  have visible := visible_iff_announces run
    (counted run (readyReplicas reached (filled r agent)) (filled r agent))
  have stored := reached.get_withAgent ((key_reported run
    (readyReplicas reached (filled r agent)) (filled r agent)).trans (key_filled.trans named))
  rw [final]
  constructor
  · rintro ⟨other, same, shown⟩
    cases stored.symm.trans same
    exact visible.mp shown
  · exact fun announces => ⟨_, stored, visible.mpr announces⟩

/-- The first run for an agent, in which every call succeeds, is visible. -/
theorem success_visible_iff_undisturbed :
    ∃ response after stored,
      exec (reconcile sampleReconciler (.undisturbed .asAdded) ⟨"default", "agent"⟩)
        ⟨sampleCluster "Always", []⟩ = (.ok response, after) ∧
      after.cluster.agents.get ⟨"default", "agent"⟩ = some stored ∧
      Visible stored.status.conditions := by
  have announces : Announces (.undisturbed .asAdded) (sampleAgent "Always").status.conditions :=
    .inl ⟨rfl, .inl rfl⟩
  obtain ⟨stored, found, visible⟩ := (@success_visible_iff sampleReconciler
    (.undisturbed .asAdded) (sampleCluster "Always") ⟨"default", "agent"⟩ (sampleAgent "Always")
    [] _ _ rfl rfl rfl).mpr announces
  exact ⟨_, _, stored, rfl, found, visible⟩

/-- A run in which one call fails. -/
def Run.failing (api : ApiCall) : Run :=
  { Run.undisturbed .asAdded with
    fails := fun made => if made = api then some "conflict" else none }

/-- The condition `Available` cannot be written; the run returns no error, and the status
shows no condition at all. -/
theorem success_not_visible :
    ∃ response after,
      exec (reconcile sampleReconciler (.failing .setCondition) ⟨"default", "agent"⟩)
        ⟨sampleCluster "Always", []⟩ = (.ok response, after) ∧
      response.error = none ∧
      ¬ ∃ stored, after.cluster.agents.get ⟨"default", "agent"⟩ = some stored ∧
        Visible stored.status.conditions := by
  refine ⟨_, _, rfl, rfl, ?_⟩
  rintro ⟨stored, found, ⟨condition, member, _⟩, _⟩
  cases found
  exact List.not_mem_nil member

/-! ## The list of conditions over runs -/

/-- A condition of a type that the reconciler does not use. -/
def isOther (condition : TailpostAgentCondition) : Bool :=
  condition.type != conditionTypeAvailable && condition.type != conditionTypeDegraded

/-- A condition that is there before and after keeps its time with its status. -/
def KeepsTimes (before after : List TailpostAgentCondition) : Prop :=
  ∀ old ∈ before, ∀ new ∈ after, new.type = old.type →
    new.lastTransitionTime ≠ old.lastTransitionTime → new.status ≠ old.status

/-- What a call does to the conditions, if their types are distinct. -/
structure Evolves (before after : List TailpostAgentCondition) : Prop where
  distinct : (types after).Nodup
  others : after.filter isOther = before.filter isOther
  times : KeepsTimes before after

section Evolution

variable {before after : List TailpostAgentCondition} {condition : TailpostAgentCondition}

theorem Evolves.refl (distinct : (types before).Nodup) : Evolves before before where
  distinct := distinct
  others := rfl
  times := by
    intro old oldMember new newMember sameType moved
    cases List.inj_on_of_nodup_map distinct newMember oldMember sameType
    exact absurd rfl moved

theorem Evolves.withCondition (distinct : (types before).Nodup)
    (own : isOther condition = false) : Evolves before (withCondition condition before) where
  distinct := nodup_types_withCondition distinct
  others := by
    apply filter_withCondition
    intro kept other sameType
    unfold isOther at own other
    rw [sameType, own] at other
    contradiction
  times := by
    intro old oldMember new newMember sameType moved
    rcases mem_withCondition newMember with
      kept | ⟨type, missing | ⟨existing, member, found, changed⟩⟩
    · cases List.inj_on_of_nodup_map distinct kept oldMember sameType
      exact absurd rfl moved
    · exact absurd (List.mem_map.mpr ⟨old, oldMember, sameType.symm.trans type⟩) missing
    · have same := List.inj_on_of_nodup_map distinct member oldMember
        (found.trans (type.symm.trans sameType))
      rw [← same]
      exact changed.symm

theorem Evolves.eraseP (evolves : Evolves before after) :
    Evolves before (after.eraseP isDegraded) where
  distinct := evolves.distinct.sublist (List.eraseP_sublist.map _)
  others := by
    rw [← evolves.others]
    rcases List.exists_or_eq_self_of_eraseP isDegraded after with
      same | ⟨degraded, front, back, _, type, whole, erased⟩
    · rw [same]
    · have own : isOther degraded = false := by
        simp [isOther, beq_iff_eq.mp type]
      rw [erased, whole]
      simp [own]
  times := fun old oldMember new newMember =>
    evolves.times old oldMember new (List.mem_of_mem_eraseP newMember)

end Evolution

/-- What a call leaves of the conditions of its agent. -/
theorem evolves_of_ending {r : TailpostAgentReconciler} {run : Run} {cluster after : Cluster}
    {agent : TailpostAgent} {outcome : Except Failure Response}
    (found : cluster.agents.get agent.key = some agent)
    (distinct : (types agent.status.conditions).Nodup)
    (ending : Ending r run (filled r agent) cluster outcome after) :
    ∃ later, after.agents.get agent.key = some later ∧
      Evolves agent.status.conditions later.status.conditions := by
  have kept {reached : Cluster}
      (agents : reached.agents = (cluster.withAgent (filled r agent)).agents) :
      ∃ later, reached.agents.get agent.key = some later ∧
        Evolves agent.status.conditions later.status.conditions := by
    rw [agents]
    exact ⟨_, cluster.get_withAgent rfl, .refl distinct⟩
  cases ending with
  | refused => exact ⟨agent, found, .refl distinct⟩
  | degraded progress _ =>
      unfold Run.written
      split
      · exact ⟨_, Cluster.get_withAgent _ rfl, .withCondition distinct rfl⟩
      · exact kept progress.agents
  | unreported last _ => exact kept last.agents
  | reported last _ =>
      refine ⟨_, Cluster.get_withAgent _ (key_reported _ _ _), ?_⟩
      unfold reported
      rw [conditions_announced]
      have set : Evolves agent.status.conditions
          (availableConditions run agent.status.conditions) :=
        .withCondition distinct rfl
      split
      · exact set.eraseP
      · split
        · exact set
        · exact .refl distinct
  | configMapPanics _ => exact kept rfl
  | statefulSetPanics first _ => exact kept first.agents

theorem evolves_afterCall {r : TailpostAgentReconciler} {cluster : Cluster} {agent : TailpostAgent}
    {key : NamespacedName} (call : NamespacedName × Run)
    (found : cluster.agents.get key = some agent)
    (distinct : (types agent.status.conditions).Nodup) :
    ∃ later, (cluster.afterCall r call).agents.get key = some later ∧
      Evolves agent.status.conditions later.status.conditions := by
  cases called : cluster.agents.get call.1 with
  | none =>
      rw [afterCall_of_missing called]
      exact ⟨agent, found, .refl distinct⟩
  | some other =>
      obtain ⟨outcome, ending⟩ := @ending_afterCall r cluster other call called
      by_cases same : key = call.1
      · subst same
        cases called.symm.trans found
        have named : agent.key = call.1 := cluster.agents.named found
        rw [← named] at found ⊢
        exact evolves_of_ending found distinct ending
      · have named : other.key = call.1 := cluster.agents.named called
        have different : key ≠ (filled r other).key := fun equal => same (equal.trans named)
        rw [ending.get_agents_of_ne different]
        exact ⟨agent, found, .refl distinct⟩

/-- Over any calls of `Reconcile` the types of an agent's conditions stay distinct and the
conditions of other types stay as they are, and in each call a condition keeps its time
with its status. -/
theorem conditions_evolve (r : TailpostAgentReconciler) (start : Cluster)
    (calls : List (NamespacedName × Run)) (call : NamespacedName × Run) {key : NamespacedName}
    {agent : TailpostAgent} (found : start.agents.get key = some agent)
    (distinct : (types agent.status.conditions).Nodup) :
    ∃ earlier later,
      (calls.foldl (Cluster.afterCall r) start).agents.get key = some earlier ∧
      ((calls.foldl (Cluster.afterCall r) start).afterCall r call).agents.get key = some later ∧
      (types later.status.conditions).Nodup ∧
      later.status.conditions.filter isOther = agent.status.conditions.filter isOther ∧
      KeepsTimes earlier.status.conditions later.status.conditions := by
  have reached : ∃ earlier,
      (calls.foldl (Cluster.afterCall r) start).agents.get key = some earlier ∧
      (types earlier.status.conditions).Nodup ∧
      earlier.status.conditions.filter isOther = agent.status.conditions.filter isOther := by
    induction calls using List.reverseRecOn with
    | nil => exact ⟨agent, found, distinct, rfl⟩
    | append_singleton calls last inductionHypothesis =>
        obtain ⟨earlier, stored, kept, others⟩ := inductionHypothesis
        obtain ⟨later, storedLater, evolves⟩ := evolves_afterCall last stored kept
        rw [List.foldl_append]
        exact ⟨later, storedLater, evolves.distinct, evolves.others.trans others⟩
  obtain ⟨earlier, stored, kept, others⟩ := reached
  obtain ⟨later, storedLater, evolves⟩ := evolves_afterCall call stored kept
  exact ⟨earlier, later, stored, storedLater, evolves.distinct, evolves.others.trans others,
    evolves.times⟩

/-- The agent with a status that holds conditions. -/
def sampleConditions (conditions : List TailpostAgentCondition) : Cluster :=
  (sampleCluster "Always").withAgent
    { sampleAgent "Always" with status := ⟨conditions, 0, 0⟩ }

/-- The first call breaks off at the ConfigMap, the second one succeeds. -/
theorem conditions_evolve_two :
    ∃ earlier later,
      ([(⟨"default", "agent"⟩, Run.failing (.create .configMap))].foldl
        (Cluster.afterCall sampleReconciler)
        (sampleConditions [⟨"Ready", "True", 0, "", ""⟩])).agents.get ⟨"default", "agent"⟩ =
          some earlier ∧
      (([(⟨"default", "agent"⟩, Run.failing (.create .configMap))].foldl
        (Cluster.afterCall sampleReconciler)
        (sampleConditions [⟨"Ready", "True", 0, "", ""⟩])).afterCall sampleReconciler
          (⟨"default", "agent"⟩, .undisturbed .asAdded)).agents.get ⟨"default", "agent"⟩ =
          some later ∧
      (types later.status.conditions).Nodup ∧
      later.status.conditions.filter isOther = [⟨"Ready", "True", 0, "", ""⟩] ∧
      KeepsTimes earlier.status.conditions later.status.conditions := by
  have found : (sampleConditions [⟨"Ready", "True", 0, "", ""⟩]).agents.get
      ⟨"default", "agent"⟩ = some { sampleAgent "Always" with
        status := ⟨[⟨"Ready", "True", 0, "", ""⟩], 0, 0⟩ } := rfl
  exact conditions_evolve _ _ _ _ found (List.nodup_singleton _)

end Tailpost.Operator
