import Tailpost.Operator.ConfigText
import Tailpost.Reader.Factory

/-!
# The source that a deployed agent reads

The operator writes the path of the first file source into the config file and
nothing about sources of other types, and the agent takes a file for granted when
no type is given.  Without a path it reads the default log of the host, whatever
the spec lists.  It keeps to the sources of the spec when the texts of the spec are
plain scalars of YAML and a file source is listed for the path that is written.
-/

namespace Tailpost.Operator

open Tailpost.Configuration
open Tailpost.Reader
open Tailpost.Yaml

/-- A file source has the path. -/
def HasFile (sources : List LogSourceSpec) (path : String) : Prop :=
  ∃ source ∈ sources, source.type = "file" ∧ source.path = path

/-- A source of the spec has the type and the identifying fields of what the reader
reads. -/
def Listed (sources : List LogSourceSpec) : LogReader → Prop
  | .file path => HasFile sources path
  | .container _ _ containerName =>
      ∃ source ∈ sources, source.type = "container" ∧ source.containerName = containerName
  | .windowsEvent _ _ => False
  | .macOS _ => False

/-- The agent does not start, or it reads a source of the spec. -/
def ReadsListed (sources : List LogSourceSpec) (started : Except String LogReader) : Prop :=
  ∀ reader, started = .ok reader → Listed sources reader

/-! ## Specs that keep to their sources -/

/-- The part of a text in front of a comment. -/
def uncommented (text : String) : String :=
  .ofList (stripComment text.toList)

/-- The text is a plain scalar, or nothing, with perhaps a comment behind it. -/
def Legible (text : String) : Prop :=
  ∃ comment, TakenAs text (uncommented text) comment

/-- The two texts that the operator copies from the spec are legible. -/
structure LegibleTexts (spec : TailpostAgentSpec) : Prop where
  serverURL : Legible spec.serverURL
  path : ∀ path, logPath spec.logSources = some path → Legible path

/-- The agent does not start: the spec gives no server, or an interval that does not
fit into a duration. -/
def Refuses (spec : TailpostAgentSpec) : Prop :=
  isNull (uncommented spec.serverURL).toList = true ∨
    ∃ duration, parseInterval spec.flushInterval.toList = some duration ∧ 2 ^ 63 ≤ duration

/-- What the path of a config file stands for is the path of a file source. -/
inductive Named (sources : List LogSourceSpec) (path : String) : Prop
  /-- A path that is taken as it is. -/
  | literal (given : isNull path.toList = false) (literal : beginsWith path osDefault = false)
      (listed : HasFile sources path)
  /-- No value stands for the default log of the host. -/
  | default (missing : isNull path.toList = true) (listed : HasFile sources "/var/log/syslog")
  /-- The marker stands for the directory of that log. -/
  | expanded (rest : String) (spelled : path = osDefault ++ rest)
      (listed : HasFile sources (Text.join ["/var/log", rest]))

/-- The texts of the spec are legible, and the agent does not start or the spec has a file
source for the path in its config file. -/
structure KeepsToSources (spec : TailpostAgentSpec) : Prop where
  legible : LegibleTexts spec
  reads : Refuses spec ∨
    ∃ path, logPath spec.logSources = some path ∧ Named spec.logSources (uncommented path)

theorem not_listed_file {sources : List LogSourceSpec} {path : String} (named : path ≠ "")
    (missing : logPath sources = none) : ¬ Listed sources (.file path) := by
  rintro ⟨source, member, isFile, rfl⟩
  have none := List.find?_eq_none.mp (Option.map_eq_none_iff.mp missing) source member
  simp [isFile, named] at none

theorem scalar_eq_empty_iff {value : String} :
    scalar value = "" ↔ isNull value.toList = true := by
  unfold scalar
  split
  next isNothing => simp [isNothing]
  next given =>
    constructor
    · rintro rfl
      exact absurd rfl given
    · intro isNothing
      exact absurd isNothing given

namespace Describes

variable {unmarshal : String → Except String Config} {client : Except String Unit}
  {order : Iteration} {parts : Parts} {cr : TailpostAgent} {size : Int32}

/-- An agent that starts reads the file its config file ends up with. -/
theorem startReader_eq_ok_iff (standard : StandardYaml unmarshal)
    (describes : Describes parts cr size) {reader : LogReader} :
    startReader .linux client (load unmarshal (configMapOf order cr size)) = .ok reader ↔
      parts.interval.nanoseconds < 2 ^ 63 ∧ scalar parts.url.1 ≠ "" ∧
        reader = .file (resolveLogPath .linux parts.logPath) := by
  by_cases short : parts.interval.nanoseconds < 2 ^ 63
  · rw [describes.load_of_short standard short, complete_config]
    by_cases empty : scalar parts.url.1 = ""
    · simp [empty]
    · have named : (defaultsWith (scalar parts.url.1) (orElse 0 (parts.size : Int) 10)
          (orElse 0 (parts.interval.nanoseconds : Int) Configuration.defaultFlushInterval)
          (resolveLogPath .linux parts.logPath)).logPath ≠ "" :=
        resolveLogPath_linux_ne_empty parts.logPath
      rw [if_neg empty, startReader_ok, selectReader_file rfl named, Except.ok.injEq]
      constructor
      · rintro rfl
        exact ⟨short, empty, rfl⟩
      · rintro ⟨_, _, rfl⟩
        rfl
  · rcases describes.load_of_long standard short with ⟨message, failed⟩
    rw [failed, startReader_error]
    constructor
    · intro started
      contradiction
    · rintro ⟨inRange, _⟩
      exact absurd inRange short

end Describes

/-! ## The condition on the spec -/

theorem isNull_marked (rest : String) : isNull (osDefault ++ rest).toList = false := by
  rw [String.toList_append]
  rfl

/-- The agent reads the file that the path stands for. -/
theorem named_iff {sources : List LogSourceSpec} {path : String} :
    Named sources path ↔ Listed sources (.file (resolveLogPath .linux (scalar path))) := by
  by_cases missing : isNull path.toList = true
  · have resolves : resolveLogPath .linux (scalar path) = "/var/log/syslog" := by
      rw [scalar, if_pos missing]
      rfl
    rw [resolves]
    constructor
    · rintro (⟨given, _, _⟩ | ⟨_, listed⟩ | ⟨rest, rfl, _⟩)
      · rw [missing] at given
        contradiction
      · exact listed
      · rw [isNull_marked] at missing
        contradiction
    · exact .default missing
  · have given : isNull path.toList = false := Bool.eq_false_of_not_eq_true missing
    have nonempty : path ≠ "" := by
      rintro rfl
      exact missing rfl
    rw [scalar, if_neg missing]
    by_cases marked : beginsWith path osDefault = true
    · obtain ⟨rest, spelled⟩ := List.isPrefixOf_iff_prefix.mp marked
      obtain rfl : path = osDefault ++ .ofList rest := by
        apply String.toList_injective
        rw [String.toList_append, String.toList_ofList, spelled]
      have resolves : resolveLogPath .linux (osDefault ++ .ofList rest) =
          Text.join ["/var/log", .ofList rest] := by
        rw [resolveLogPath, if_neg nonempty, if_pos marked, String.toList_append, List.drop_left,
          String.ofList_toList]
        rfl
      rw [resolves]
      constructor
      · rintro (⟨_, literal, _⟩ | ⟨isNothing, _⟩ | ⟨other, same, listed⟩)
        · rw [marked] at literal
          contradiction
        · contradiction
        · have rests := congrArg String.toList same
          rw [String.toList_append, String.toList_append, List.append_cancel_left_eq] at rests
          rw [String.toList_injective rests]
          exact listed
      · exact .expanded _ rfl
    · have literal : beginsWith path osDefault = false := Bool.eq_false_of_not_eq_true marked
      rw [resolveLogPath_eq_self nonempty literal]
      constructor
      · rintro (⟨_, _, listed⟩ | ⟨isNothing, _⟩ | ⟨rest, rfl, _⟩)
        · exact listed
        · contradiction
        · refine absurd ?_ marked
          rw [beginsWith, String.toList_append, List.isPrefixOf_iff_prefix]
          exact List.prefix_append _ _
      · exact .literal given literal

namespace Describes

variable {r : TailpostAgentReconciler} {cr : TailpostAgent} {parts : Parts} {size : Int32}

/-- A missing interval is replaced by one that fits. -/
theorem long_iff (describes : Describes parts (filled r cr) size) :
    (∃ duration, parseInterval cr.spec.flushInterval.toList = some duration ∧
      2 ^ 63 ≤ duration) ↔ ¬ parts.interval.nanoseconds < 2 ^ 63 := by
  have denoted := describes.parseInterval_eq
  by_cases missing : cr.spec.flushInterval = ""
  · have filledIn : (filled r cr).spec.flushInterval = "5s" := if_pos missing
    have fits : some parts.interval.nanoseconds = some 5000000000 := by
      rw [← denoted, filledIn]
      decide
    have nothing : parseInterval "".toList = none := by decide
    rw [missing, nothing, Option.some.inj fits]
    simp
  · have kept : (filled r cr).spec.flushInterval = cr.spec.flushInterval := if_neg missing
    rw [← kept, denoted]
    simp

end Describes

/-- Legible texts are taken for what stands in front of their comments. -/
theorem LegibleTexts.exists_path {spec : TailpostAgentSpec} (legible : LegibleTexts spec) :
    ∃ path : Option (String × Option String),
      path.map Prod.fst = (logPath spec.logSources).map uncommented ∧
      Option.Rel (fun text path => TakenAs text path.1 path.2) (logPath spec.logSources) path := by
  cases given : logPath spec.logSources with
  | none => exact ⟨none, rfl, .none⟩
  | some text =>
      obtain ⟨comment, taken⟩ := legible.path text given
      exact ⟨some (uncommented text, comment), rfl, .some taken⟩

/-- The agent of a spec with legible texts keeps to the sources exactly if it does not start
or there is a file source for the path in its config file. -/
theorem readsListed_of_legible {unmarshal : String → Except String Config}
    {r : TailpostAgentReconciler} {client : Except String Unit} {order : Iteration}
    {cr : TailpostAgent} {configMap : ConfigMap} (standard : StandardYaml unmarshal)
    (admitted : Admitted cr.spec) (legible : LegibleTexts cr.spec)
    (created : createConfigMap order (filled r cr) = .ok configMap) :
    ReadsListed cr.spec.logSources (startReader .linux client (load unmarshal configMap)) ↔
      Refuses cr.spec ∨ ∃ path, logPath cr.spec.logSources = some path ∧
        Named cr.spec.logSources (uncommented path) := by
  obtain ⟨size, sized, rfl⟩ := createConfigMap_eq_ok created
  obtain ⟨comment, url⟩ := legible.serverURL
  obtain ⟨path, same, file⟩ := legible.exists_path
  obtain ⟨parts, describes, sameURL, samePath, _⟩ := admitted.exists_describes sized url file
  have located : Listed cr.spec.logSources (.file (resolveLogPath .linux parts.logPath)) ↔
      ∃ path, logPath cr.spec.logSources = some path ∧
        Named cr.spec.logSources (uncommented path) := by
    have values := congrArg (Option.map scalar) same
    rw [Option.map_map, Option.map_map] at values
    rw [Parts.logPath, samePath, show path.map (fun path => scalar path.1) = _ from values]
    cases given : logPath cr.spec.logSources with
    | none => simp [not_listed_file (resolveLogPath_linux_ne_empty _) given]
    | some text => simp [named_iff]
  have reads : ReadsListed cr.spec.logSources
      (startReader .linux client (load unmarshal (configMapOf order (filled r cr) size))) ↔
      (parts.interval.nanoseconds < 2 ^ 63 → scalar (uncommented cr.spec.serverURL) ≠ "" →
        Listed cr.spec.logSources (.file (resolveLogPath .linux parts.logPath))) := by
    simp only [ReadsListed, describes.startReader_eq_ok_iff standard, sameURL]
    constructor
    · intro listed inRange given
      exact listed _ ⟨inRange, given, rfl⟩
    · rintro listed _ ⟨inRange, given, rfl⟩
      exact listed inRange given
  rw [reads, Refuses, describes.long_iff, ← located, Ne, scalar_eq_empty_iff]
  constructor
  · intro listed
    by_cases isNothing : isNull (uncommented cr.spec.serverURL).toList = true
    · exact .inl (.inl isNothing)
    · by_cases inRange : parts.interval.nanoseconds < 2 ^ 63
      · exact .inr (listed inRange isNothing)
      · exact .inl (.inr inRange)
  · rintro ((isNothing | long) | listed) inRange given
    · contradiction
    · contradiction
    · exact listed

/-- An agent for a container and for a file, with a comment behind the address. -/
def mixedAgent : TailpostAgent :=
  let agent := fileAgent "tailpost:1" "http://logs:8080 #all"
  { agent with spec := { agent.spec with
    logSources := [{ type := "container", containerName := "app" },
      { type := "file", path := "/var/log/app.log" }] } }

theorem admitted_mixedAgent : Admitted mixedAgent.spec :=
  let tidy := admitted_fileAgent "tailpost:1" "http://logs:8080 #all"
  { sources := List.forall_iff_forall_mem.mp (by decide)
    batchSize := tidy.batchSize
    flushInterval := tidy.flushInterval }

/-- An agent for the logs of a container. -/
def containerAgent : TailpostAgent :=
  let agent := fileAgent "tailpost:1" "http://logs:8080"
  { agent with spec := { agent.spec with
    logSources := [{ type := "container", containerName := "app" }] } }

end Tailpost.Operator
