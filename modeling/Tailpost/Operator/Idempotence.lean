import Tailpost.Operator.Convergence
import Tailpost.Text.Rendering

/-!
# Idempotence of the reconciler

A second run for an agent that has just been reconciled finds the StatefulSet
and the Service as it wants them.  The text of the config file, however, depends
on the order in which the config data is iterated, and the order is chosen anew
in each run: the ConfigMap is written again exactly when the order differs.
-/

namespace Tailpost.Operator

open Tailpost.Hoare
open Tailpost.Storage
open Tailpost.Text

/-! ## The text of the config file -/

theorem head?_yamlLine {key : String} (nonempty : key ≠ "") (value : ConfigValue) :
    (yamlLine (key, value)).toList.head? = key.toList.head? := by
  have front : key.toList ≠ [] := by simpa using nonempty
  simp only [yamlLine, String.toList_append, List.append_assoc]
  exact List.head?_append_of_ne_nil _ front

/-- The lines of the config file start with different letters. -/
theorem nodup_heads (cr : TailpostAgent) (batchSize : Int32) :
    ((configData cr batchSize).map fun entry => (yamlLine entry).toList.head?).Nodup := by
  unfold configData
  cases logPath cr.spec.logSources with
  | none => simp [head?_yamlLine]
  | some path => simp [head?_yamlLine]

/-- Different orders of iteration give different texts. -/
theorem yaml_eq_iff (first second : Iteration) (cr : TailpostAgent) (batchSize : Int32) :
    yaml first (configData cr batchSize) = yaml second (configData cr batchSize) ↔
      first.arrange (configData cr batchSize) = second.arrange (configData cr batchSize) := by
  constructor
  · intro same
    have rendered := congrArg String.toList same
    simp only [yaml, String.toList_join, List.flatMap_map] at rendered
    have member : ∀ entry, entry ∈ first.arrange (configData cr batchSize) ↔
        entry ∈ configData cr batchSize :=
      fun _ => (first.perm _).mem_iff
    apply eq_of_flatMap_eq ((second.perm _).trans (first.perm _).symm) _ _ rendered
    · intro entry _
      simp [yamlLine]
    · intro entry inside other behind heads
      exact List.inj_on_of_nodup_map (nodup_heads cr batchSize) ((member entry).mp inside)
        ((member other).mp behind) heads
  · intro same
    rw [yaml, same, yaml]

/-- Two runs iterate the config data of an agent in the same order. -/
def SameOrder (first second : Iteration) (cr : TailpostAgent) : Prop :=
  ∀ batchSize, cr.spec.batchSize = some batchSize →
    first.arrange (configData cr batchSize) = second.arrange (configData cr batchSize)

/-- A ConfigMap written in one order is up to date in another exactly when the
orders agree. -/
theorem upToDate_iff_sameOrder {r : TailpostAgentReconciler} {first second : Iteration}
    {cr : TailpostAgent} {cluster : Cluster}
    (upToDate : configMapKind.UpToDate (desiredConfigMap r first cr) cluster) :
    configMapKind.UpToDate (desiredConfigMap r second cr) cluster ↔ SameOrder first second cr := by
  rcases upToDate with ⟨_, live, created, stored, unneeded⟩
  rcases map_eq_ok_iff.mp created with ⟨_, result, rfl⟩
  rcases createConfigMap_eq_ok result with ⟨batchSize, size, rfl⟩
  have data : live.data = some (configFile (yaml first (configData cr batchSize))) := by
    simpa [configMapKind, configMapNeedsUpdate, configMapOf] using unneeded
  have order : SameOrder first second cr ↔
      yaml first (configData cr batchSize) = yaml second (configData cr batchSize) := by
    rw [yaml_eq_iff]
    simp [SameOrder, size]
  rw [order]
  constructor
  · rintro ⟨_, other, created, found, unneeded⟩
    rcases map_eq_ok_iff.mp created with ⟨_, result, rfl⟩
    rcases createConfigMap_eq_ok result with ⟨other, sameSize, rfl⟩
    cases size.symm.trans sameSize
    cases stored.symm.trans found
    have same : live.data = some (configFile (yaml second (configData cr batchSize))) := by
      simpa [configMapKind, configMapNeedsUpdate, configMapOf] using unneeded
    exact configFile_inj.mp (Option.some.inj (data.symm.trans same))
  · intro same
    have equal : desiredConfigMap r second cr = desiredConfigMap r first cr := by
      simp [desiredConfigMap, createConfigMap, size, configMapOf, same]
    rw [equal]
    exact ⟨_, live, created, stored, unneeded⟩

/-! ## Runs that write no child -/

/-- A call that creates or updates a child. -/
def Effect.writesChild : Effect → Bool
  | .create _ | .update _ => true
  | _ => false

/-- No call that creates or updates a child was issued. -/
def Quiet (effects : List Effect) : Prop :=
  ∀ effect ∈ effects, effect.writesChild = false

theorem Quiet.append {effects : List Effect} (quiet : Quiet effects) {effect : Effect}
    (harmless : effect.writesChild = false) : Quiet (effects ++ [effect]) := by
  intro issued member
  rcases List.mem_append.mp member with earlier | last
  · exact quiet issued earlier
  · rw [List.mem_singleton.mp last]
    exact harmless

/-- Nothing was written but the agent, and its spec is as before. -/
structure Calm (key : NamespacedName) (before : Cluster) (session : Session) : Prop where
  unchanged : Unchanged key before session.cluster
  quiet : Quiet session.effects

theorem statusInvariant_calm (key : NamespacedName) (before : Cluster) :
    StatusInvariant key (Calm key before) where
  issues := fun _ calm => ⟨calm.unchanged, calm.quiet.append rfl⟩
  writes := fun session status calm =>
    ⟨(statusInvariant_unchanged key before).writes session status calm.unchanged, calm.quiet⟩

/-- A child that is in the cluster is updated exactly when it needs to be. -/
theorem reconcileChild_found {α : Type} {key : α → NamespacedName} {kind : ChildKind key}
    {run : Run} {desired found : α} {needed : Bool} {invariant : Session → Prop}
    {post : Unit → Session → Prop} {failed : Failure → Session → Prop}
    (live : ∀ session, invariant session →
      (kind.store session.cluster).get (key desired) = some found)
    (tested : kind.needsUpdate found desired = .ok needed)
    (unanswered : ∀ {api message}, run.fails api = some message → ∀ failure session,
      invariant session → failed failure session)
    (rest : Triple invariant
      (if needed then
        writeChild kind run (.update kind.child) (.update kind.child) "update" "Updated"
          (kind.merge found desired)
      else
        Pure.pure ()) post failed) :
    Triple invariant (reconcileChild kind run desired) post failed := by
  unfold reconcileChild
  apply (triple_call fun _ fails => unanswered fails _).andThen
  intro _
  apply (triple_call fun _ fails => unanswered fails _).andThen
  intro _
  apply Triple.reads.bind
  intro session
  apply Triple.suppose ((kind.store session.cluster).get (key desired) = some found)
  · rintro _ ⟨rfl, holds⟩
    exact live session holds
  · intro stored
    simp only [stored, tested]
    exact fun state holds => rest state holds.2

/-- A child that needs no update is left alone. -/
theorem reconcileChild_calm {α : Type} {key : α → NamespacedName} {kind : ChildKind key}
    {run : Run} {desired found : α} {invariant : Session → Prop}
    (live : ∀ session, invariant session →
      (kind.store session.cluster).get (key desired) = some found)
    (unneeded : kind.needsUpdate found desired = .ok false) :
    Triple invariant (reconcileChild kind run desired) (fun _ => invariant)
      (fun failure session => invariant session ∧ Blames run failure) := by
  apply reconcileChild_found live unneeded
  · exact fun fails failure _ holds => ⟨holds, blames_of_fails failure fails⟩
  · exact Triple.pure fun _ holds => holds

/-- The same with the step that creates the desired object. -/
theorem reconcileCreated_calm {α : Type} {key : α → NamespacedName} {kind : ChildKind key}
    {run : Run} {created : Except Failure α} {before : Cluster} {invariant : Session → Prop}
    (upToDate : kind.UpToDate created before)
    (same : ∀ desired, created = .ok desired → ∀ session, invariant session →
      (kind.store session.cluster).get (key desired) = (kind.store before).get (key desired)) :
    Triple invariant (do reconcileChild kind run (← lift created)) (fun _ => invariant)
      (fun failure session => invariant session ∧ Blames run failure) := by
  rcases upToDate with ⟨desired, live, rfl, stored, unneeded⟩
  exact reconcileChild_calm
    (fun session holds => (same desired rfl session holds).trans stored) unneeded

/-- Filling in defaults that are filled in already does not change the agent. -/
theorem setDefaults_calm {r : TailpostAgentReconciler} {run : Run} {agent : TailpostAgent}
    {before : Cluster} (found : before.agents.get agent.key = some agent)
    (complete : filled r agent = agent) :
    Triple (Calm agent.key before) (setDefaults r run agent)
      (fun value session => value = filled r agent ∧ Calm agent.key before session)
      (fun failure session => (Calm agent.key before session ∧ Blames run failure) ∧
        run.fails .updateAgent ≠ none) := by
  unfold setDefaults
  cases needsDefaults agent.spec with
  | false => exact Triple.pure fun _ calm => ⟨rfl, calm⟩
  | true =>
      apply Triple.andThen
      · exact Triple.modifies fun _ calm => ⟨calm.unchanged, calm.quiet.append rfl⟩
      · intro _
        apply (triple_call fun _ fails _ calm =>
          ⟨⟨calm, blames_of_fails _ fails⟩, by simp [fails]⟩).andThen
        intro _
        apply Triple.andThen
        · apply Triple.modifies
          intro session calm
          refine ⟨calm.unchanged.modifyAgent (fun _ => rfl) ?_, calm.quiet⟩
          intro stored live
          have same := calm.unchanged.agent
          rw [live, found] at same
          rw [complete]
          exact (congrArg Prod.snd (Option.some.inj same)).symm
        · intro _
          exact Triple.pure fun _ calm => ⟨rfl, calm⟩

/-- An agent is stored with its defaults, and its children need no update. -/
structure Steady (r : TailpostAgentReconciler) (order : Iteration) (cr : TailpostAgent)
    (cluster : Cluster) : Prop where
  complete : filled r cr = cr
  agent : cluster.agents.get cr.key = some cr
  configMap : configMapKind.UpToDate (desiredConfigMap r order cr) cluster
  statefulSet : statefulSetKind.UpToDate (desiredStatefulSet r cr) cluster
  service : serviceKind.UpToDate (desiredService r cr) cluster

theorem calm_of_eq {key : NamespacedName} {cluster : Cluster} (session : Session)
    (initial : session.cluster = cluster ∧ Quiet session.effects) : Calm key cluster session := by
  rcases initial with ⟨rfl, quiet⟩
  exact ⟨Unchanged.refl _ _, quiet⟩

/-- A run for a steady agent writes no child, whatever calls fail. -/
theorem reconcile_calm {r : TailpostAgentReconciler} {run : Run} {cr : TailpostAgent}
    {cluster : Cluster} (steady : Steady r run.order cr cluster) :
    Triple (fun session => session.cluster = cluster ∧ Quiet session.effects)
      (reconcile r run cr.key) (fun _ => Calm cr.key cluster) (fun _ => Calm cr.key cluster) := by
  have configMap : Triple (Calm cr.key cluster) (reconcileConfigMap r run cr)
      (fun _ => Calm cr.key cluster)
      (fun failure session => Calm cr.key cluster session ∧ Blames run failure) := by
    apply reconcileCreated_calm steady.configMap
    intro desired created session calm
    rw [key_of_desiredConfigMap created]
    exact calm.unchanged.configMap
  have statefulSet : Triple (Calm cr.key cluster) (reconcileStatefulSet r run cr)
      (fun _ => Calm cr.key cluster)
      (fun failure session => Calm cr.key cluster session ∧ Blames run failure) := by
    apply reconcileCreated_calm steady.statefulSet
    intro desired created session calm
    rw [key_of_desiredStatefulSet created]
    exact calm.unchanged.statefulSet
  have service : Triple (Calm cr.key cluster) (reconcileService r run cr)
      (fun _ => Calm cr.key cluster)
      (fun failure session => Calm cr.key cluster session ∧ Blames run failure) := by
    apply reconcileCreated_calm steady.service
    intro desired created session calm
    rw [key_of_desiredService created]
    exact calm.unchanged.service
  have keeps := statusInvariant_calm cr.key cluster
  have children := reconcileChildren_spec configMap statefulSet service keeps keeps
  rw [← steady.complete] at children
  apply (reconcile_spec steady.agent (fun _ => And.left) (fun _ => calm_of_eq)
    ((setDefaults_calm steady.agent steady.complete).weaken calm_of_eq (fun _ _ => id)
      (fun _ _ => And.left)) children).weaken (fun _ => id)
  · exact fun _ _ ends => ends.invariant
  · exact fun _ _ panics => panics.invariant

/-! ## Runs that write a child -/

section Issued

variable {α : Type} {key : α → NamespacedName} {kind : ChildKind key} {run : Run}

/-- A call was issued. -/
def Issued (effect : Effect) (session : Session) : Prop :=
  effect ∈ session.effects

theorem Issued.append {effect other : Effect} {session : Session} (issued : Issued effect session) :
    Issued effect { session with effects := session.effects ++ [other] } :=
  List.mem_append_left _ issued

theorem statusInvariant_issued (key : NamespacedName) (effect : Effect) :
    StatusInvariant key (Issued effect) where
  issues := fun _ issued => issued.append
  writes := fun _ _ issued => issued

/-- What was issued stays issued while a child is written, and the call that
writes it is issued whether it succeeds or not. -/
theorem writeChild_issued {pre : Session → Prop} {api : ApiCall} {earlier effect : Effect}
    {verb past : String} {object : α}
    (known : ∀ session, pre session → Issued earlier session ∨ earlier = effect) :
    Triple pre (writeChild kind run api effect verb past object) (fun _ => Issued earlier)
      (fun failure session => Issued earlier session ∧ Blames run failure) := by
  have issued : Triple pre (issue effect) (fun _ => Issued earlier)
      (fun failure session => Issued earlier session ∧ Blames run failure) := by
    apply Triple.modifies
    intro session holds
    rcases known session holds with before | rfl
    · exact before.append
    · exact List.mem_append_right _ (List.mem_singleton_self earlier)
  unfold writeChild
  apply issued.bind
  intro _
  apply (triple_call fun _ fails _ holds => ⟨holds, blames_of_fails _ fails⟩).andThen
  intro _
  apply Triple.andThen
  · exact Triple.modifies fun _ holds => holds
  · intro _
    exact Triple.modifies fun _ holds => holds.append

theorem reconcileChild_keepsIssued {earlier : Effect} {desired : α} :
    Triple (Issued earlier) (reconcileChild kind run desired) (fun _ => Issued earlier)
      (fun failure session => Issued earlier session ∧ Blames run failure) := by
  unfold reconcileChild
  apply (triple_call fun _ fails _ holds => ⟨holds, blames_of_fails _ fails⟩).andThen
  intro _
  apply (triple_call fun _ fails _ holds => ⟨holds, blames_of_fails _ fails⟩).andThen
  intro _
  apply Triple.andThen
  · exact fun _ holds => holds
  · intro session
    split
    next => exact writeChild_issued fun _ => Or.inl
    next found _ =>
      apply Triple.andThen
      · apply Triple.lifts
        · exact fun _ _ _ holds => holds
        · intro failure failed session holds
          exact ⟨holds, kind.eq_panic failed ▸ blames_panic run⟩
      · intro needed
        cases needed with
        | true => exact writeChild_issued fun _ => Or.inl
        | false => exact Triple.pure fun _ holds => holds

/-- A stale child is updated. -/
theorem reconcileChild_issues {desired found : α} {invariant : Session → Prop}
    (live : ∀ session, invariant session →
      (kind.store session.cluster).get (key desired) = some found)
    (needed : kind.needsUpdate found desired = .ok true)
    (succeeds : ∀ api, run.fails api = none) :
    Triple invariant (reconcileChild kind run desired)
      (fun _ => Issued (.update kind.child))
      (fun failure session => Issued (.update kind.child) session ∧ Blames run failure) := by
  apply reconcileChild_found live needed
  · intro api message fails
    rw [succeeds] at fails
    contradiction
  · exact writeChild_issued fun _ _ => Or.inr rfl

end Issued

/-- A ConfigMap written in one order is stale in another. -/
theorem exists_stale {r : TailpostAgentReconciler} {first second : Iteration}
    {cr : TailpostAgent} {cluster : Cluster}
    (upToDate : configMapKind.UpToDate (desiredConfigMap r first cr) cluster)
    (other : ¬ SameOrder first second cr) :
    ∃ desired live, desiredConfigMap r second cr = .ok desired ∧
      cluster.configMaps.get desired.key = some live ∧
      configMapKind.needsUpdate live desired = .ok true := by
  rw [← upToDate_iff_sameOrder upToDate] at other
  rcases upToDate with ⟨_, live, created, stored, _⟩
  rcases map_eq_ok_iff.mp created with ⟨_, result, rfl⟩
  rcases createConfigMap_eq_ok result with ⟨batchSize, size, rfl⟩
  have createdSecond : desiredConfigMap r second cr = .ok { configMapOf second cr batchSize with
      metadata := r.controllerReferences.set cr.metadata
        (childMeta cr (getConfigMapName cr)) } := by
    rw [desiredConfigMap, createConfigMap, size]
    rfl
  refine ⟨_, live, createdSecond, stored, ?_⟩
  cases tested : configMapKind.needsUpdate live _ with
  | error failure => exact absurd tested nofun
  | ok needed =>
      cases needed with
      | true => rfl
      | false => exact absurd ⟨_, live, createdSecond, stored, tested⟩ other

/-- A run for a steady agent in another order updates the ConfigMap. -/
theorem reconcile_issues {r : TailpostAgentReconciler} {run : Run} {first : Iteration}
    {cr : TailpostAgent} {cluster : Cluster} (steady : Steady r first cr cluster)
    (succeeds : ∀ api, run.fails api = none) (other : ¬ SameOrder first run.order cr) :
    Triple (fun session => session.cluster = cluster ∧ Quiet session.effects)
      (reconcile r run cr.key) (fun _ => Issued (.update .configMap))
      (fun _ => Issued (.update .configMap)) := by
  have configMap : Triple (Calm cr.key cluster) (reconcileConfigMap r run cr)
      (fun _ => Issued (.update .configMap))
      (fun failure session => Issued (.update .configMap) session ∧ Blames run failure) := by
    rcases exists_stale steady.configMap other with ⟨desired, live, created, stored, needed⟩
    have present : ∀ session, Calm cr.key cluster session →
        (configMapKind.store session.cluster).get desired.key = some live := by
      intro session calm
      rw [key_of_desiredConfigMap created] at stored ⊢
      exact calm.unchanged.configMap.trans stored
    rw [reconcileConfigMap, created]
    exact reconcileChild_issues present needed succeeds
  have statefulSet : Triple (Issued (.update .configMap)) (reconcileStatefulSet r run cr)
      (fun _ => Issued (.update .configMap))
      (fun failure session => Issued (.update .configMap) session ∧ Blames run failure) := by
    rcases steady.statefulSet with ⟨desired, _, created, _, _⟩
    rw [reconcileStatefulSet, created]
    exact reconcileChild_keepsIssued
  have service : Triple (Issued (.update .configMap)) (reconcileService r run cr)
      (fun _ => Issued (.update .configMap))
      (fun failure session => Issued (.update .configMap) session ∧ Blames run failure) :=
    reconcileChild_keepsIssued
  have defaults : Triple (fun session => session.cluster = cluster ∧ Quiet session.effects)
      (setDefaults r run cr)
      (fun value session => value = filled r cr ∧ Calm cr.key cluster session)
      (fun failure session => Issued (.update .configMap) session ∧ Blames run failure) := by
    apply (setDefaults_calm steady.agent steady.complete).weaken calm_of_eq (fun _ _ => id)
    intro failure session failed
    exact absurd (succeeds .updateAgent) failed.2
  have keeps := statusInvariant_issued cr.key (.update .configMap)
  have children := reconcileChildren_spec configMap statefulSet service keeps keeps
  rw [← steady.complete] at children
  apply (reconcile_spec steady.agent (fun _ => And.left)
    (fun fails => absurd (succeeds .getAgent) fails) defaults children).weaken (fun _ => id)
  · exact fun _ _ ends => ends.invariant
  · exact fun _ _ panics => panics.invariant

/-! ## The second run -/

/-- An agent that was reconciled stays steady while nothing but its status
changes. -/
theorem Reconciled.steady {r : TailpostAgentReconciler} {run : Run} {agent : TailpostAgent}
    {before reached again : Cluster}
    (reconciled : Reconciled r run (filled r agent) before reached)
    (unchanged : Unchanged agent.key reached again) :
    ∃ status, Steady r run.order { filled r agent with status } again := by
  rcases reconciled.agent with ⟨_, stored⟩
  rcases unchanged.exists_agent stored with ⟨status, current⟩
  refine ⟨status, ?_, current, ?_, ?_, ?_⟩
  · simp only [filled, withDefaults_idem]
  · apply (reconciled.configMap.upToDate fun _ => configMapKind_sound _).of_get_eq
    intro desired created
    rw [key_of_desiredConfigMap created]
    exact unchanged.configMap
  · apply (reconciled.statefulSet.upToDate statefulSetKind_sound).of_get_eq
    intro desired created
    rw [key_of_desiredStatefulSet created]
    exact unchanged.statefulSet
  · apply (reconciled.service.upToDate fun _ => serviceKind_sound _).of_get_eq
    intro desired created
    rw [key_of_desiredService created]
    exact unchanged.service

/-- Once every call of a run has succeeded and only the agent's status changes
afterwards, the runs that iterate the config data in a given order issue no
create and no update of a child, whatever calls fail, exactly when the order is
the one of the first run. -/
theorem quiet_iff_sameOrder {r : TailpostAgentReconciler} {first : Run} {cluster again : Cluster}
    {key : NamespacedName} {agent : TailpostAgent} {effects : List Effect}
    {response : Response} {after : Session} (found : cluster.agents.get key = some agent)
    (succeeds : ∀ api, first.fails api = none)
    (ran : exec (reconcile r first key) ⟨cluster, effects⟩ = (.ok response, after))
    (unchanged : Unchanged key after.cluster again) (order : Iteration) :
    (∀ second : Run, second.order = order →
        Quiet (exec (reconcile r second key) ⟨again, []⟩).2.effects) ↔
      SameOrder first.order order (filled r agent) := by
  have reconciled := reconciled_of_succeeds found succeeds ran
  have named : agent.key = key := cluster.agents.named found
  subst named
  rcases reconciled.steady unchanged with ⟨status, steady⟩
  have initial : again = again ∧ Quiet [] := ⟨rfl, by simp [Quiet]⟩
  constructor
  · intro quiet
    by_contra other
    have issues := @reconcile_issues r ⟨fun _ => none, order, 0, 0⟩ first.order _ again steady
      (fun _ => rfl) other
    have issued := issues.ended ⟨again, []⟩ initial
    exact absurd (quiet _ rfl _ issued) Bool.noConfusion
  · rintro same second rfl
    have upToDate := (upToDate_iff_sameOrder steady.configMap).mpr same
    have ready : Steady r second.order { filled r agent with status } again :=
      { steady with configMap := upToDate }
    exact ((reconcile_calm ready).ended ⟨again, []⟩ initial).quiet

/-- The loop visits the entries in the opposite order. -/
def Iteration.reversed : Iteration where
  arrange := List.reverse
  perm := List.reverse_perm

/-- All children are created.  A run that iterates in the same order changes none of them,
and not every run in the opposite order does. -/
theorem quiet_iff_sameOrder_created :
    ∃ response after,
      exec (reconcile sampleReconciler (.undisturbed .asAdded) ⟨"default", "agent"⟩)
        ⟨sampleCluster "Always", []⟩ = (.ok response, after) ∧
      (∀ second : Run, second.order = .asAdded →
        Quiet (exec (reconcile sampleReconciler second ⟨"default", "agent"⟩)
          ⟨after.cluster, []⟩).2.effects) ∧
      ¬ ∀ second : Run, second.order = .reversed →
        Quiet (exec (reconcile sampleReconciler second ⟨"default", "agent"⟩)
          ⟨after.cluster, []⟩).2.effects := by
  refine ⟨_, _, rfl, ?_, ?_⟩
  · exact (@quiet_iff_sameOrder sampleReconciler (.undisturbed .asAdded) (sampleCluster "Always")
      _ ⟨"default", "agent"⟩ (sampleAgent "Always") [] _ _ rfl (fun _ => rfl) rfl
      (Unchanged.refl _ _) .asAdded).mpr fun _ _ => rfl
  · intro quiet
    have same := (@quiet_iff_sameOrder sampleReconciler (.undisturbed .asAdded)
      (sampleCluster "Always") _ ⟨"default", "agent"⟩ (sampleAgent "Always") [] _ _ rfl
      (fun _ => rfl) rfl (Unchanged.refl _ _) .reversed).mp quiet 10 rfl
    revert same
    decide

/-- The second run iterates the config data in the opposite order, finds another
text than its own in the ConfigMap, and updates it. -/
theorem second_run_updates_configMap :
    ∃ response after,
      exec (reconcile sampleReconciler (.undisturbed .asAdded) ⟨"default", "agent"⟩)
        ⟨sampleCluster "Always", []⟩ = (.ok response, after) ∧
      response.error = none ∧
      Effect.update .configMap ∈
        (exec (reconcile sampleReconciler (.undisturbed .reversed) ⟨"default", "agent"⟩)
          ⟨after.cluster, []⟩).2.effects := by
  refine ⟨_, _, rfl, rfl, ?_⟩
  decide

end Tailpost.Operator
