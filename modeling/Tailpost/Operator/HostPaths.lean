import Tailpost.Operator.Rollout
import Tailpost.Text.Path

/-!
# Host logs inside the pod

The StatefulSet exposes the directory `/var/log` of the host under
`/host/var/log`, while the config file names the log by its path on the host.
A path is resolved inside the container through the deepest mount it lies under;
no path below `/var/log` lies under a mount of the log volume.
-/

namespace Tailpost.Operator

open Tailpost.Text

/-! ## Resolution through the mounts -/

/-- The deepest mount a path lies under. -/
def mountOf (mounts : List VolumeMount) (path : Components) : Option VolumeMount :=
  (mounts.filter fun mount => (components mount.mountPath).isPrefixOf path).maxOn?
    fun mount => (components mount.mountPath).length

/-- The host file behind a path inside the container, when there is one. -/
def hostFile (template : PodTemplateSpec) (path : String) : Option Components := do
  let container ← template.containers.head?
  let mount ← if isAbs path then mountOf container.volumeMounts (components path) else none
  let volume ← template.volumes.find? (·.name == mount.name)
  match volume.source with
  | .hostPath host =>
      some (components host ++
        (components path).drop (components mount.mountPath).length)
  | _ => none

-- the host's syslog, under the name the pod has for it
example : hostFile (statefulSetOf (fileAgent "tailpost:1" "http://a") ⟨none, none⟩).spec.template
    "/host/var/log/syslog" = some (components "/var/log/syslog") := by
  decide

/-- The path that the config data gives for the log denotes, inside the pods,
the given file of the host. -/
def Denotes (template : PodTemplateSpec) (data : ConfigData) (path : String) : Prop :=
  ∃ inside, ("log_path", .string inside) ∈ data ∧
    hostFile template inside = some (components path)

/-- The path lies below the directory that the StatefulSet exposes. -/
def UnderLogs (path : String) : Prop :=
  isAbs path = true ∧ (components "/var/log").isPrefixOf (components path) = true

instance (path : String) : Decidable (UnderLogs path) :=
  inferInstanceAs (Decidable (_ ∧ _))

/-! ## The two generators -/

/-- The mounts of the agent's container are elsewhere. -/
theorem mountOf_eq_none {cr : TailpostAgent} {resources : ResourceRequirements}
    {path : Components} (logs : (components "/var/log").isPrefixOf path = true) :
    mountOf (agentContainer cr resources).volumeMounts path = none := by
  rcases List.isPrefixOf_iff_prefix.mp logs with ⟨rest, rfl⟩
  rfl

theorem hostFile_eq_none {cr : TailpostAgent} {resources : ResourceRequirements}
    {path : String} (logs : UnderLogs path) :
    hostFile (statefulSetOf cr resources).spec.template path = none := by
  have unmounted : mountOf (agentContainer cr resources).volumeMounts (components path) = none :=
    mountOf_eq_none logs.2
  simp only [hostFile, statefulSetOf, List.head?_cons, Option.bind_eq_bind, Option.bind_some,
    logs.1, if_true, unmounted, Option.bind_none]

/-- The first file source names the log in the config data when it has a path. -/
theorem logPath_of_find {sources : List LogSourceSpec} {source : LogSourceSpec}
    (found : sources.find? (·.type == "file") = some source) (named : source.path ≠ "") :
    logPath sources = some source.path := by
  induction sources with
  | nil => contradiction
  | cons first rest ih =>
      rw [List.find?_cons] at found
      split at found
      next isFile =>
        cases found
        simp [logPath, isFile, named]
      next notFile =>
        have skipped : logPath (first :: rest) = logPath rest := by
          simp [logPath, notFile]
        rw [skipped]
        exact ih found

/-- The config data names the log at most once. -/
theorem eq_of_mem_configData {cr : TailpostAgent} {batchSize : Int32} {path : String}
    (member : ("log_path", ConfigValue.string path) ∈ configData cr batchSize) :
    logPath cr.spec.logSources = some path := by
  simpa [configData] using member

/-- A log below `/var/log` that the first file source names is not the file that
the agent finds inside its pod. -/
theorem not_denotes_of_underLogs {mustParse : String → Option Quantity} {cr : TailpostAgent}
    {source : LogSourceSpec} {statefulSet : StatefulSet} {batchSize : Int32}
    (first : cr.spec.logSources.find? (·.type == "file") = some source)
    (logs : UnderLogs source.path)
    (created : createStatefulSet mustParse cr = .ok statefulSet) :
    ¬ Denotes statefulSet.spec.template (configData cr batchSize) source.path := by
  rintro ⟨inside, member, resolved⟩
  have named : source.path ≠ "" := by
    intro empty
    rw [empty] at logs
    exact absurd logs (by decide)
  have same : source.path = inside := by
    have written := eq_of_mem_configData member
    rw [logPath_of_find first named] at written
    exact Option.some.inj written
  subst same
  rcases createStatefulSet_eq_ok created with ⟨limits, requests, _, _, rfl⟩
  rw [hostFile_eq_none logs] at resolved
  contradiction

/-- The example source `/var/log/syslog`. -/
theorem not_denotes_of_underLogs_syslog :
    UnderLogs "/var/log/syslog" ∧
      ¬ Denotes (statefulSetOf (fileAgent "tailpost:1" "http://a") ⟨none, none⟩).spec.template
        (configData (fileAgent "tailpost:1" "http://a") 20) "/var/log/syslog" :=
  ⟨by decide, @not_denotes_of_underLogs (fun _ => none) (fileAgent "tailpost:1" "http://a")
    { type := "file", path := "/var/log/syslog" } _ 20 rfl (by decide) rfl⟩

/-- The config file says `/var/log/syslog`, and nothing is mounted there. -/
theorem syslog_not_denoted :
    createStatefulSet (fun _ => none) (fileAgent "tailpost:1" "http://a") =
        .ok (statefulSetOf (fileAgent "tailpost:1" "http://a") ⟨none, none⟩) ∧
      hostFile (statefulSetOf (fileAgent "tailpost:1" "http://a") ⟨none, none⟩).spec.template
        "/var/log/syslog" = none ∧
      ¬ Denotes (statefulSetOf (fileAgent "tailpost:1" "http://a") ⟨none, none⟩).spec.template
        (configData (fileAgent "tailpost:1" "http://a") 20) "/var/log/syslog" := by
  refine ⟨rfl, by decide, ?_⟩
  rintro ⟨inside, member, resolved⟩
  cases eq_of_mem_configData member
  revert resolved
  decide

end Tailpost.Operator
