import Tailpost.Operator.Resources

/-!
# Changes of the configuration

The agent reads its config file once, when it starts, so a new configuration
reaches a running agent only when its pod is replaced.  A StatefulSet replaces
its pods when the pod template changes, and the operator writes a StatefulSet
when the test for an update reports one.  Neither the template nor the test
depends on what the config file says.
-/

namespace Tailpost.Operator

variable {mustParse : String → Option Quantity} {old new : TailpostAgent}
  {live desired : StatefulSet}

/-- The configuration an agent's config file is rendered from, when there is
one. -/
def configuration (cr : TailpostAgent) : Option ConfigData :=
  cr.spec.batchSize.map (configData cr)

/-- The pods of the live StatefulSet are replaced on the way to the desired
one. -/
def Restarts (live desired : StatefulSet) : Prop :=
  live.spec.template ≠ desired.spec.template ∧ statefulSetNeedsUpdate live desired = .ok true

/-- The parsed resources of two specs differ. -/
def ResourcesDiffer (mustParse : String → Option Quantity) (old new : TailpostAgentSpec) : Prop :=
  resourceList mustParse old.resources.limits ≠ resourceList mustParse new.resources.limits ∨
    resourceList mustParse old.resources.requests ≠ resourceList mustParse new.resources.requests

/-- Besides the configuration something changes that the pods and the test for
an update both show. -/
def ChangesPods (mustParse : String → Option Quantity) (old new : TailpostAgentSpec) : Prop :=
  old.image ≠ new.image ∨ ResourcesDiffer mustParse old new ∨
    (old.replicas ≠ new.replicas ∧
      (old.imagePullPolicy ≠ new.imagePullPolicy ∨ old.serviceAccount ≠ new.serviceAccount))

/-- Two agents of one name have the same pods up to four fields of the spec. -/
theorem template_eq_iff (sameName : old.metadata.name = new.metadata.name)
    (resources others : ResourceRequirements) :
    (statefulSetOf old resources).spec.template = (statefulSetOf new others).spec.template ↔
      old.spec.image = new.spec.image ∧ resources = others ∧
        old.spec.imagePullPolicy = new.spec.imagePullPolicy ∧
        old.spec.serviceAccount = new.spec.serviceAccount := by
  simp only [statefulSetOf, agentContainer, getLabels, getConfigMapName, sameName,
    PodTemplateSpec.mk.injEq, List.cons.injEq, Container.mk.injEq, true_and, and_true]
  constructor
  · rintro ⟨account, image, policy, same⟩
    exact ⟨image, same, policy, account⟩
  · rintro ⟨image, same, policy, account⟩
    exact ⟨account, image, policy, same⟩

theorem needsUpdate_eq_true_iff (resources others : ResourceRequirements) :
    statefulSetNeedsUpdate (statefulSetOf old resources) (statefulSetOf new others) = .ok true ↔
      old.spec.replicas ≠ new.spec.replicas ∨ old.spec.image ≠ new.spec.image ∨
        resources ≠ others := by
  unfold statefulSetNeedsUpdate
  by_cases same : old.spec.replicas = new.spec.replicas <;>
    simp [statefulSetOf, agentContainer, same]

/-- The parsed resources are what the generated requirements hold. -/
theorem resourcesDiffer_iff {limits requests otherLimits otherRequests : Option ResourceList}
    (oldLimits : resourceList mustParse old.spec.resources.limits = .ok limits)
    (oldRequests : resourceList mustParse old.spec.resources.requests = .ok requests)
    (newLimits : resourceList mustParse new.spec.resources.limits = .ok otherLimits)
    (newRequests : resourceList mustParse new.spec.resources.requests = .ok otherRequests) :
    ResourcesDiffer mustParse old.spec new.spec ↔
      (⟨limits, requests⟩ : ResourceRequirements) ≠ ⟨otherLimits, otherRequests⟩ := by
  unfold ResourcesDiffer
  rw [oldLimits, oldRequests, newLimits, newRequests]
  simp only [ne_eq, Except.ok.injEq, ResourceRequirements.mk.injEq]
  exact not_and_or.symm

/-- A change of the configuration replaces the pods exactly when there is none,
or the image or the resources change with it, or the replicas together with the
pull policy or the service account. -/
theorem restarts_iff_changesPods (sameKey : old.key = new.key)
    (built : createStatefulSet mustParse old = .ok live)
    (rebuilt : createStatefulSet mustParse new = .ok desired) :
    (configuration old ≠ configuration new → Restarts live desired) ↔
      configuration old = configuration new ∨ ChangesPods mustParse old.spec new.spec := by
  have sameName : old.metadata.name = new.metadata.name := congrArg NamespacedName.name sameKey
  rcases createStatefulSet_eq_ok built with ⟨limits, requests, oldLimits, oldRequests, rfl⟩
  rcases createStatefulSet_eq_ok rebuilt with
    ⟨otherLimits, otherRequests, newLimits, newRequests, rfl⟩
  have restarts : Restarts (statefulSetOf old ⟨limits, requests⟩)
      (statefulSetOf new ⟨otherLimits, otherRequests⟩) ↔
        ChangesPods mustParse old.spec new.spec := by
    unfold Restarts ChangesPods
    rw [Ne, template_eq_iff sameName, needsUpdate_eq_true_iff,
      resourcesDiffer_iff oldLimits oldRequests newLimits newRequests]
    tauto
  rw [restarts]
  exact Classical.or_iff_not_imp_left.symm

/-- An agent with a file source. -/
def fileAgent (image serverURL : String) : TailpostAgent where
  metadata := ⟨"agent", "default", "1", ∅, []⟩
  spec := {
    replicas := some 1
    image := image
    imagePullPolicy := "IfNotPresent"
    serviceAccount := "tailpost-sa"
    logSources := [{ type := "file", path := "/var/log/syslog" }]
    serverURL := serverURL
    batchSize := some 20
    flushInterval := "10s"
    resources := ⟨⟨"", ""⟩, ⟨"", ""⟩⟩ }
  status := ⟨[], 0, 0⟩

/-- The server and the image change together, and the pods are replaced. -/
theorem restarts_iff_changesPods_newImage :
    configuration (fileAgent "tailpost:1" "http://a") ≠
        configuration (fileAgent "tailpost:2" "http://b") ∧
      Restarts (statefulSetOf (fileAgent "tailpost:1" "http://a") ⟨none, none⟩)
        (statefulSetOf (fileAgent "tailpost:2" "http://b") ⟨none, none⟩) := by
  have changed : configuration (fileAgent "tailpost:1" "http://a") ≠
      configuration (fileAgent "tailpost:2" "http://b") := by
    decide
  have condition := @restarts_iff_changesPods (fun _ => none)
    (fileAgent "tailpost:1" "http://a") (fileAgent "tailpost:2" "http://b") _ _ rfl rfl rfl
  exact ⟨changed, condition.mpr (.inr (.inl (by decide))) changed⟩

/-- Only the server changes: the config file is another one, the pod template is
the same, and no update is reported. -/
theorem serverURL_not_restarted :
    configuration (fileAgent "tailpost:1" "http://a") ≠
        configuration (fileAgent "tailpost:1" "http://b") ∧
      createStatefulSet (fun _ => none) (fileAgent "tailpost:1" "http://a") =
        .ok (statefulSetOf (fileAgent "tailpost:1" "http://a") ⟨none, none⟩) ∧
      createStatefulSet (fun _ => none) (fileAgent "tailpost:1" "http://b") =
        .ok (statefulSetOf (fileAgent "tailpost:1" "http://b") ⟨none, none⟩) ∧
      ¬ Restarts (statefulSetOf (fileAgent "tailpost:1" "http://a") ⟨none, none⟩)
        (statefulSetOf (fileAgent "tailpost:1" "http://b") ⟨none, none⟩) := by
  refine ⟨by decide, rfl, rfl, ?_⟩
  rintro ⟨changed, _⟩
  exact changed rfl

end Tailpost.Operator
