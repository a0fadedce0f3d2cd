import Tailpost.Operator.Children

/-!
# What a run of the reconciler leaves behind

The triples of the single steps of `Reconcile` are composed along its body.  A
run that returns without an error has stored the agent with its defaults and
its settled children.
-/

namespace Tailpost.Operator

open Tailpost.Hoare
open Tailpost.Storage

/-! ## Status -/

theorem Cluster.get_modifyAgent (cluster : Cluster) (key : NamespacedName)
    {change : TailpostAgent → TailpostAgent}
    (keeps : ∀ stored, (change stored).key = stored.key) :
    (cluster.modifyAgent key change).agents.get key = (cluster.agents.get key).map change := by
  unfold Cluster.modifyAgent
  split
  next stored found =>
    have named : (change stored).key = key := (keeps stored).trans (cluster.agents.named found)
    rw [found, ← named]
    exact Store.get_put_self _ _
  next missing =>
    rw [missing]
    rfl

/-- The name of an agent's ConfigMap, from the agent's own. -/
def configMapKey (key : NamespacedName) : NamespacedName :=
  ⟨key.ns, key.name ++ "-config"⟩

/-- An agent and its children stay as they are, the agent's status apart. -/
structure Unchanged (key : NamespacedName) (before after : Cluster) : Prop where
  agent : (after.agents.get key).map (fun agent => (agent.metadata, agent.spec)) =
    (before.agents.get key).map fun agent => (agent.metadata, agent.spec)
  configMap : after.configMaps.get (configMapKey key) =
    before.configMaps.get (configMapKey key)
  statefulSet : after.statefulSets.get key = before.statefulSets.get key
  service : after.services.get key = before.services.get key

theorem Unchanged.refl (key : NamespacedName) (cluster : Cluster) :
    Unchanged key cluster cluster :=
  ⟨rfl, rfl, rfl, rfl⟩

theorem Unchanged.exists_agent {key : NamespacedName} {before after : Cluster}
    {agent : TailpostAgent} (unchanged : Unchanged key before after)
    (stored : before.agents.get key = some agent) :
    ∃ status, after.agents.get key = some { agent with status } := by
  have same := unchanged.agent
  rw [stored] at same
  rcases Option.map_eq_some_iff.mp same with ⟨current, found, equal⟩
  rcases Prod.mk.inj equal with ⟨sameMeta, sameSpec⟩
  refine ⟨current.status, ?_⟩
  rw [found, ← sameMeta, ← sameSpec]

/-- What writing the status of an agent preserves. -/
structure StatusInvariant (key : NamespacedName) (invariant : Session → Prop) : Prop where
  issues : ∀ session, invariant session →
    invariant { session with effects := session.effects ++ [.updateStatus] }
  writes : ∀ session status, invariant session →
    invariant { session with
      cluster := session.cluster.modifyAgent key fun stored => { stored with status } }

/-- An agent may be written as long as its metadata and its spec stay. -/
theorem Unchanged.modifyAgent {key : NamespacedName} {before after : Cluster}
    {change : TailpostAgent → TailpostAgent} (unchanged : Unchanged key before after)
    (keepsMeta : ∀ stored, (change stored).metadata = stored.metadata)
    (keepsSpec : ∀ stored, after.agents.get key = some stored →
      (change stored).spec = stored.spec) :
    Unchanged key before (after.modifyAgent key change) where
  agent := by
    rw [← unchanged.agent, Cluster.get_modifyAgent _ _ fun stored =>
      congrArg ObjectMeta.key (keepsMeta stored)]
    cases found : after.agents.get key with
    | none => rfl
    | some stored => simp [keepsMeta, keepsSpec stored found]
  configMap := by
    unfold Cluster.modifyAgent
    split <;> exact unchanged.configMap
  statefulSet := by
    unfold Cluster.modifyAgent
    split <;> exact unchanged.statefulSet
  service := by
    unfold Cluster.modifyAgent
    split <;> exact unchanged.service

theorem statusInvariant_unchanged (key : NamespacedName) (before : Cluster) :
    StatusInvariant key fun session => Unchanged key before session.cluster where
  issues := fun _ unchanged => unchanged
  writes := fun _ _ unchanged => unchanged.modifyAgent (fun _ => rfl) (fun _ _ => rfl)

section Status

variable {r : TailpostAgentReconciler} {run : Run} {key : NamespacedName}
  {agent : TailpostAgent} {invariant : Session → Prop}

theorem writeStatus_spec (keeps : StatusInvariant key invariant) (api : ApiCall)
    (context : String) (status : TailpostAgentStatus) :
    Triple invariant (writeStatus run api context key status) (fun _ => invariant)
      (fun failure session => invariant session ∧ Blames run failure) := by
  unfold writeStatus
  apply Triple.andThen
  · exact Triple.modifies keeps.issues
  · intro _
    apply (triple_call fun _ fails _ holds => ⟨holds, blames_of_fails _ fails⟩).andThen
    intro _
    exact Triple.modifies fun session => keeps.writes session status

/-- A status write whose error is only logged. -/
theorem attempt_writeStatus_spec (keeps : StatusInvariant key invariant) (api : ApiCall)
    (context : String) (status : TailpostAgentStatus) {failed : Failure → Session → Prop} :
    Triple invariant (attempt (writeStatus run api context key status)) (fun _ => invariant)
      failed := by
  apply (writeStatus_spec keeps api context status).attempt.weaken (fun _ => id)
  · intro outcome session holds
    cases outcome with
    | ok value => exact holds
    | error failure => exact holds.1
  · exact fun _ _ => False.elim

theorem setCondition_spec (keeps : StatusInvariant agent.key invariant)
    (condType status reason message : String) {failed : Failure → Session → Prop} :
    Triple invariant (setCondition run agent condType status reason message)
      (fun changed session => changed.key = agent.key ∧ invariant session) failed := by
  unfold setCondition
  apply (attempt_writeStatus_spec keeps _ _ _).bind
  intro _
  exact Triple.pure fun _ holds => ⟨rfl, holds⟩

theorem removeCondition_spec (keeps : StatusInvariant agent.key invariant) (condType : String)
    {failed : Failure → Session → Prop} :
    Triple invariant (removeCondition run agent condType) (fun _ => invariant) failed := by
  unfold removeCondition
  split
  · exact Triple.pure fun _ => id
  · apply (attempt_writeStatus_spec keeps _ _ _).bind
    intro _
    exact Triple.pure fun _ => id

theorem updateStatus_spec (keeps : StatusInvariant agent.key invariant) :
    Triple invariant (updateStatus run agent)
      (fun changed session => changed.key = agent.key ∧ invariant session)
      (fun failure session => invariant session ∧ Blames run failure) := by
  unfold updateStatus
  apply (triple_call fun _ fails _ holds => ⟨holds, blames_of_fails _ fails⟩).bind
  intro _
  apply Triple.reads.bind
  intro session
  apply ((writeStatus_spec keeps _ _ _).strengthen fun _ => And.right).bind
  intro _
  exact Triple.pure fun _ holds => ⟨rfl, holds⟩

theorem degrade_spec (keeps : StatusInvariant agent.key invariant) (reason message : String)
    {failed : Failure → Session → Prop} :
    Triple invariant (degrade r run agent reason message)
      (fun response session => response.error = some message ∧ invariant session) failed := by
  unfold degrade
  apply (setCondition_spec keeps _ _ _ _).bind
  intro _
  exact Triple.pure fun _ holds => ⟨rfl, holds.2⟩

/-- Reporting fails only when a call to the API server does. -/
theorem report_spec (keeps : StatusInvariant agent.key invariant) :
    Triple invariant (report r run agent)
      (fun response session =>
        (response.error ≠ none → ∃ api, run.fails api ≠ none) ∧ invariant session)
      (fun failure session => failure = .panic ∧ invariant session) := by
  unfold report
  apply triple_checked (updateStatus_spec keeps)
  · intro message
    exact Triple.pure fun _ holds => ⟨fun _ => holds.2 message rfl, holds.1⟩
  · exact fun _ holds => ⟨rfl, holds.1⟩
  · intro changed
    apply Triple.suppose (changed.key = agent.key) fun _ => And.left
    intro same
    rw [← same] at keeps
    apply ((setCondition_spec keeps _ _ _ _).strengthen fun _ => And.right).bind
    intro available
    apply Triple.suppose (available.key = changed.key) fun _ => And.left
    intro still
    rw [← still] at keeps
    apply ((removeCondition_spec keeps _).strengthen fun _ => And.right).bind
    intro _
    exact Triple.pure fun _ holds => ⟨fun failed => absurd rfl failed, holds⟩

end Status

/-! ## Defaults -/

theorem orDefault_of_ne {text : String} (given : text ≠ "") (fallback : String) :
    orDefault text fallback = text :=
  if_neg given

theorem orDefault_idem (text fallback : String) :
    orDefault (orDefault text fallback) fallback = orDefault text fallback := by
  unfold orDefault
  split
  · split <;> rfl
  · rfl

/-- Filling in the defaults twice is filling them in once. -/
theorem withDefaults_idem (r : TailpostAgentReconciler) (spec : TailpostAgentSpec) :
    withDefaults r (withDefaults r spec) = withDefaults r spec := by
  simp [withDefaults, orDefault_idem]

theorem withDefaults_of_complete (r : TailpostAgentReconciler) {spec : TailpostAgentSpec}
    (complete : needsDefaults spec = false) : withDefaults r spec = spec := by
  simp only [needsDefaults, Bool.or_eq_false_iff, decide_eq_false_iff_not,
    Option.isNone_eq_false_iff] at complete
  rcases complete with ⟨⟨⟨⟨image, policy⟩, replicas⟩, batchSize⟩, interval⟩
  rw [withDefaults, orDefault_of_ne image, orDefault_of_ne policy, orDefault_of_ne interval,
    Option.or_of_isSome replicas, Option.or_of_isSome batchSize]

/-- The cluster with an agent written to it. -/
def Cluster.withAgent (cluster : Cluster) (cr : TailpostAgent) : Cluster :=
  { cluster with agents := cluster.agents.put cr }

theorem setDefaults_spec (r : TailpostAgentReconciler) (run : Run) {cluster : Cluster}
    {agent : TailpostAgent} (found : cluster.agents.get agent.key = some agent) :
    Triple (fun session => session.cluster = cluster) (setDefaults r run agent)
      (fun value session => value = filled r agent ∧
        session.cluster = cluster.withAgent (filled r agent))
      (fun failure session => session.cluster = cluster ∧ Blames run failure) := by
  unfold setDefaults
  cases lacking : needsDefaults agent.spec with
  | true =>
      apply Triple.bind (issue_spec cluster .updateAgent)
      intro _
      apply (call_spec run cluster _ _).bind
      intro _
      apply (write_spec cluster _).bind
      intro _
      apply Triple.pure
      intro session same
      rw [same, Cluster.modifyAgent, found]
      exact ⟨rfl, rfl⟩
  | false =>
      apply Triple.pure
      intro session same
      have unchanged : filled r agent = agent := by
        rw [filled, withDefaults_of_complete r lacking]
      rw [unchanged, Cluster.withAgent, Store.put_of_get found]
      exact ⟨rfl, same⟩

/-! ## The whole run -/

theorem triple_of_cluster {α : Type} {program : Op α} {holds : Cluster → Prop}
    {post : α → Session → Prop} {failed : Failure → Session → Prop}
    (triple : ∀ cluster, holds cluster →
      Triple (fun session => session.cluster = cluster) program post failed) :
    Triple (fun session => holds session.cluster) program post failed :=
  fun session initial => triple session.cluster initial session rfl

/-- A run ends with what it should settle, or breaks off with an error; an
error comes from a call that fails. -/
def Ends (run : Run) (settled broken : Session → Prop) (response : Response)
    (session : Session) : Prop :=
  (response.error ≠ none → ∃ api, run.fails api ≠ none) ∧
    (settled session ∨ broken session ∧ response.error ≠ none)

/-- A panic stops a run anywhere. -/
def Panics (settled broken : Session → Prop) (failure : Failure) (session : Session) : Prop :=
  failure = .panic ∧ (settled session ∨ broken session)

theorem Ends.invariant {run : Run} {invariant : Session → Prop} {response : Response}
    {session : Session} (ends : Ends run invariant invariant response session) :
    invariant session :=
  ends.2.elim id And.left

theorem Panics.invariant {invariant : Session → Prop} {failure : Failure} {session : Session}
    (panics : Panics invariant invariant failure session) : invariant session :=
  panics.2.elim id id

section Reconcile

variable {r : TailpostAgentReconciler} {run : Run} {pre settled broken : Session → Prop}

/-- The steps behind the defaults, from what each of them establishes. -/
theorem reconcileChildren_spec {agent : TailpostAgent} {first second : Session → Prop}
    (configMap : Triple pre (reconcileConfigMap r run agent) (fun _ => first)
      (fun failure session => broken session ∧ Blames run failure))
    (statefulSet : Triple first (reconcileStatefulSet r run agent) (fun _ => second)
      (fun failure session => broken session ∧ Blames run failure))
    (service : Triple second (reconcileService r run agent) (fun _ => settled)
      (fun failure session => broken session ∧ Blames run failure))
    (keepsSettled : StatusInvariant agent.key settled)
    (keepsBroken : StatusInvariant agent.key broken) :
    Triple pre (reconcileChildren r run agent) (Ends run settled broken)
      (Panics settled broken) := by
  have degraded : ∀ reason message,
      Triple (fun session => broken session ∧ Blames run (.error message))
        (degrade r run agent reason message) (Ends run settled broken)
        (Panics settled broken) := by
    intro reason message
    apply Triple.suppose (∃ api, run.fails api ≠ none) fun _ holds => holds.2 message rfl
    intro fails
    apply (degrade_spec keepsBroken reason message).weaken (fun _ => And.left)
    · intro response session holds
      exact ⟨fun _ => fails, Or.inr ⟨holds.2, by simp [holds.1]⟩⟩
    · exact fun _ _ => id
  have panicked : ∀ session, broken session ∧ Blames run .panic →
      Panics settled broken .panic session :=
    fun _ holds => ⟨rfl, Or.inr holds.1⟩
  unfold reconcileChildren
  apply triple_checked configMap (degraded _) panicked
  intro _
  apply triple_checked statefulSet (degraded _) panicked
  intro _
  apply triple_checked service (degraded _) panicked
  intro _
  apply (report_spec keepsSettled).weaken (fun _ => id)
  · exact fun _ _ holds => ⟨holds.1, Or.inl holds.2⟩
  · exact fun _ _ holds => ⟨holds.1, Or.inl holds.2⟩

/-- A whole run for an agent that is stored, from its parts. -/
theorem reconcile_spec {cluster : Cluster} {key : NamespacedName} {agent : TailpostAgent}
    {defaulted : Session → Prop} (found : cluster.agents.get key = some agent)
    (inCluster : ∀ session, pre session → session.cluster = cluster)
    (unread : run.fails .getAgent ≠ none → ∀ session, pre session → broken session)
    (defaults : Triple pre (setDefaults r run agent)
      (fun value session => value = filled r agent ∧ defaulted session)
      (fun failure session => broken session ∧ Blames run failure))
    (children : Triple defaulted (reconcileChildren r run (filled r agent))
      (Ends run settled broken) (Panics settled broken)) :
    Triple pre (reconcile r run key) (Ends run settled broken) (Panics settled broken) := by
  have stopped : ∀ requeueAfter message,
      Triple (fun session => broken session ∧ Blames run (.error message))
        (pure ⟨requeueAfter, some message⟩) (Ends run settled broken)
        (Panics settled broken) := by
    intro requeueAfter message
    apply Triple.pure
    intro session holds
    exact ⟨fun _ => holds.2 message rfl, Or.inr ⟨holds.1, by simp⟩⟩
  have panicked : ∀ session, broken session ∧ Blames run .panic →
      Panics settled broken .panic session :=
    fun _ holds => ⟨rfl, Or.inr holds.1⟩
  have read : Triple pre (getAgent run key)
      (fun value session => value = some agent ∧ pre session)
      (fun failure session => broken session ∧ Blames run failure) := by
    unfold getAgent
    apply (triple_call fun _ fails session holds =>
      ⟨unread (by simp [fails]) session holds, blames_of_fails _ fails⟩).bind
    intro _
    apply Triple.reads.bind
    intro session
    apply Triple.pure
    rintro _ ⟨rfl, holds⟩
    rw [inCluster session holds]
    exact ⟨found, holds⟩
  unfold reconcile
  apply triple_checked read (stopped 0) panicked
  intro value
  apply Triple.suppose (value = some agent) fun _ => And.left
  rintro rfl
  apply triple_checked (defaults.strengthen fun _ => And.right)
    (stopped r.requeuePeriod) panicked
  intro value
  apply Triple.suppose (value = filled r agent) fun _ => And.left
  rintro rfl
  exact children.strengthen fun _ => And.right

end Reconcile

/-! ## What a run without errors leaves behind -/

section Desired

variable {r : TailpostAgentReconciler} {order : Iteration} {agent : TailpostAgent}

theorem key_of_desiredConfigMap {desired : ConfigMap}
    (created : desiredConfigMap r order agent = .ok desired) :
    desired.key = configMapKey agent.key := by
  rcases map_eq_ok_iff.mp created with ⟨configMap, result, rfl⟩
  rcases createConfigMap_eq_ok result with ⟨batchSize, _, rfl⟩
  exact r.controllerReferences.key_set agent.metadata _

theorem key_of_desiredStatefulSet {desired : StatefulSet}
    (created : desiredStatefulSet r agent = .ok desired) : desired.key = agent.key := by
  rcases map_eq_ok_iff.mp created with ⟨statefulSet, result, rfl⟩
  rcases createStatefulSet_eq_ok result with ⟨limits, requests, _, _, rfl⟩
  exact r.controllerReferences.key_set agent.metadata _

theorem key_of_desiredService {desired : Service}
    (created : desiredService r agent = .ok desired) : desired.key = agent.key := by
  cases created
  exact r.controllerReferences.key_set agent.metadata _

theorem desiredConfigMap_eq_error {failure : Failure}
    (failed : desiredConfigMap r order agent = .error failure) : failure = .panic :=
  createConfigMap_eq_error (map_eq_error_iff.mp failed)

theorem desiredStatefulSet_eq_error {failure : Failure}
    (failed : desiredStatefulSet r agent = .error failure) : failure = .panic :=
  createStatefulSet_eq_error (map_eq_error_iff.mp failed)

theorem desiredService_eq_error {failure : Failure}
    (failed : desiredService r agent = .error failure) : failure = .panic := by
  unfold desiredService at failed
  contradiction

theorem configMapKind_sound (desired : ConfigMap) :
    configMapKind.needsUpdate desired desired = .ok false := by
  simp [configMapKind, configMapNeedsUpdate]

theorem serviceKind_sound (desired : Service) :
    serviceKind.needsUpdate desired desired = .ok false := by
  simp [serviceKind, serviceNeedsUpdate]

theorem statefulSetKind_sound {desired : StatefulSet}
    (created : desiredStatefulSet r agent = .ok desired) :
    statefulSetKind.needsUpdate desired desired = .ok false := by
  rcases map_eq_ok_iff.mp created with ⟨statefulSet, result, rfl⟩
  rcases createStatefulSet_eq_ok result with ⟨limits, requests, _, _, rfl⟩
  simp [statefulSetKind, statefulSetNeedsUpdate, statefulSetOf]

end Desired

/-- The agent and the settled children are stored. -/
structure Reconciled (r : TailpostAgentReconciler) (run : Run) (cr : TailpostAgent)
    (before after : Cluster) : Prop where
  agent : ∃ status, after.agents.get cr.key = some { cr with status }
  configMap : configMapKind.Carries (desiredConfigMap r run.order cr) before after
  statefulSet : statefulSetKind.Carries (desiredStatefulSet r cr) before after
  service : serviceKind.Carries (desiredService r cr) before after

/-- The cluster after the ConfigMap is settled. -/
def FirstStage (r : TailpostAgentReconciler) (run : Run) (cr : TailpostAgent)
    (before after : Cluster) : Prop :=
  configMapKind.Settles (desiredConfigMap r run.order cr) (before.withAgent cr) after

/-- The cluster after the StatefulSet is settled too. -/
def SecondStage (r : TailpostAgentReconciler) (run : Run) (cr : TailpostAgent)
    (before after : Cluster) : Prop :=
  ∃ first, FirstStage r run cr before first ∧
    statefulSetKind.Settles (desiredStatefulSet r cr) first after

/-- The cluster after all children are settled. -/
def LastStage (r : TailpostAgentReconciler) (run : Run) (cr : TailpostAgent)
    (before after : Cluster) : Prop :=
  ∃ second, SecondStage r run cr before second ∧
    serviceKind.Settles (desiredService r cr) second after

theorem LastStage.reconciled {r : TailpostAgentReconciler} {run : Run} {cr : TailpostAgent}
    {before reached after : Cluster} (last : LastStage r run cr before reached)
    (unchanged : Unchanged cr.key reached after) : Reconciled r run cr before after := by
  rcases last with ⟨second, ⟨first, settlesConfigMap, settlesStatefulSet⟩, settlesService⟩
  have carriesConfigMap := settlesConfigMap.carries
  have carriesStatefulSet := settlesStatefulSet.carries
  have carriesService := settlesService.carries
  rcases settlesConfigMap with ⟨_, _, _, _, rfl⟩
  rcases settlesStatefulSet with ⟨_, _, _, _, rfl⟩
  rcases settlesService with ⟨_, _, _, _, rfl⟩
  constructor
  · exact unchanged.exists_agent (Store.get_put_self _ _)
  · rcases carriesConfigMap with ⟨desired, object, created, settled, stored⟩
    refine ⟨desired, object, created, settled, ?_⟩
    rw [key_of_desiredConfigMap created] at stored ⊢
    exact unchanged.configMap.trans stored
  · rcases carriesStatefulSet with ⟨desired, object, created, settled, stored⟩
    refine ⟨desired, object, created, settled, ?_⟩
    rw [key_of_desiredStatefulSet created] at stored ⊢
    exact unchanged.statefulSet.trans stored
  · rcases carriesService with ⟨desired, object, created, settled, stored⟩
    refine ⟨desired, object, created, settled, ?_⟩
    rw [key_of_desiredService created] at stored ⊢
    exact unchanged.service.trans stored

/-- The stages of a run behind the defaults. -/
theorem reconcileChildren_stages (r : TailpostAgentReconciler) (run : Run) (cr : TailpostAgent)
    (before : Cluster) :
    Triple (fun session => session.cluster = before.withAgent cr) (reconcileChildren r run cr)
      (Ends run (fun session => ∃ reached, LastStage r run cr before reached ∧
        Unchanged cr.key reached session.cluster) fun _ => True)
      (Panics (fun session => ∃ reached, LastStage r run cr before reached ∧
        Unchanged cr.key reached session.cluster) fun _ => True) := by
  have blamed : ∀ {cluster : Cluster} failure (session : Session),
      session.cluster = cluster ∧ Blames run failure → True ∧ Blames run failure :=
    fun _ _ holds => ⟨trivial, holds.2⟩
  have configMap : Triple (fun session => session.cluster = before.withAgent cr)
      (reconcileConfigMap r run cr)
      (fun _ session => FirstStage r run cr before session.cluster)
      (fun failure _ => True ∧ Blames run failure) :=
    (reconcileCreated_spec configMapKind run _ desiredConfigMap_eq_error).weaken
      (fun _ => id) (fun _ _ => id) blamed
  have statefulSet : Triple (fun session => FirstStage r run cr before session.cluster)
      (reconcileStatefulSet r run cr)
      (fun _ session => SecondStage r run cr before session.cluster)
      (fun failure _ => True ∧ Blames run failure) := by
    apply triple_of_cluster
    intro first settled
    exact (reconcileCreated_spec statefulSetKind run first desiredStatefulSet_eq_error).weaken
      (fun _ => id) (fun _ _ settles => ⟨first, settled, settles⟩) blamed
  have service : Triple (fun session => SecondStage r run cr before session.cluster)
      (reconcileService r run cr)
      (fun _ session => ∃ reached, LastStage r run cr before reached ∧
        Unchanged cr.key reached session.cluster)
      (fun failure _ => True ∧ Blames run failure) := by
    apply triple_of_cluster
    intro second settled
    exact (reconcileCreated_spec serviceKind run second desiredService_eq_error).weaken
      (fun _ => id)
      (fun _ session settles => ⟨session.cluster, ⟨second, settled, settles⟩, Unchanged.refl _ _⟩)
      blamed
  apply reconcileChildren_spec configMap statefulSet service
  · constructor
    · exact fun _ holds => holds
    · rintro session status ⟨reached, last, unchanged⟩
      exact ⟨reached, last, (statusInvariant_unchanged _ _).writes session status unchanged⟩
  · exact ⟨fun _ => id, fun _ _ => id⟩

/-- A run for an agent that is stored leaves the agent and its settled children
behind, unless it breaks off with an error or a panic. -/
theorem reconcile_reconciled {r : TailpostAgentReconciler} {run : Run} {cluster : Cluster}
    {key : NamespacedName} {agent : TailpostAgent}
    (found : cluster.agents.get key = some agent) :
    Triple (fun session => session.cluster = cluster) (reconcile r run key)
      (Ends run (fun session => Reconciled r run (filled r agent) cluster session.cluster)
        fun _ => True)
      (fun failure _ => failure = .panic) := by
  have named := cluster.agents.named found
  have defaults := (setDefaults_spec r run (named.symm ▸ found)).weaken (fun _ => id)
    (fun _ _ => id) fun failure _ holds => (⟨trivial, holds.2⟩ : True ∧ Blames run failure)
  apply (reconcile_spec found (fun _ => id) (fun _ _ _ => trivial) defaults
    (reconcileChildren_stages r run (filled r agent) cluster)).weaken (fun _ => id)
  · rintro response session ⟨blamed, ⟨reached, last, unchanged⟩ | broken⟩
    · exact ⟨blamed, Or.inl (last.reconciled unchanged)⟩
    · exact ⟨blamed, Or.inr broken⟩
  · exact fun _ _ holds => holds.1

/-- When every call succeeds, a run that returns has reconciled the agent. -/
theorem reconciled_of_succeeds {r : TailpostAgentReconciler} {run : Run} {cluster : Cluster}
    {key : NamespacedName} {agent : TailpostAgent} {effects : List Effect}
    {response : Response} {after : Session} (found : cluster.agents.get key = some agent)
    (succeeds : ∀ api, run.fails api = none)
    (ran : exec (reconcile r run key) ⟨cluster, effects⟩ = (.ok response, after)) :
    Reconciled r run (filled r agent) cluster after.cluster := by
  rcases (reconcile_reconciled found).returned rfl ran with ⟨blamed, reconciled | ⟨_, failed⟩⟩
  · exact reconciled
  · rcases blamed failed with ⟨api, fails⟩
    exact absurd (succeeds api) fails

end Tailpost.Operator
