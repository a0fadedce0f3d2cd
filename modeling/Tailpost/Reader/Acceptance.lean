import Tailpost.Configuration.ConfigFile
import Tailpost.Hoare.Triple
import Tailpost.Reader.Factory

/-!
# Which accepted configurations yield a reader

`LoadConfig` checks the fields of a source by its type as it is spelled, and lets a
type that it does not know pass.  `ParseSourceType` folds case and knows aliases, and
`NewReader` checks the fields again and has no reader for pods.  The two agree on the
four other types in their own spelling, and on other spellings only when the fields
happen to be there.
-/

namespace Tailpost.Reader

open Tailpost.Configuration
open Tailpost.Hoare (bind_eq_ok_iff)

/-! ## What creating a reader requires -/

/-- The fields that `NewReader` requires for a type. -/
inductive Suffices (platform : Platform) (config : LogSourceConfig) : Prop
  | file : config.type = fileSourceType → config.path ≠ "" → Suffices platform config
  | container : config.type = containerSourceType → config.ns ≠ "" → config.podName ≠ "" →
      config.containerName ≠ "" → Suffices platform config
  | windowsEvent : config.type = windowsEventSourceType → platform.goos = .windows →
      Suffices platform config
  | macOS : config.type = macOSASLSourceType → platform.goos = .darwin →
      Suffices platform config

/-- A reader is created, or creating the Kubernetes client fails. -/
def Succeeds (select : Except String Unit → Except String LogReader) : Prop :=
  ∀ client, (∃ reader, select client = .ok reader) ∨
    ∃ message, client = .error message ∧ select client = .error message

theorem succeeds_newReader {platform : Platform} {config : LogSourceConfig}
    (enough : Suffices platform config) :
    Succeeds fun client => newReader platform client config := by
  intro client
  cases enough with
  | file type path =>
      left
      exact ⟨.file config.path, by simp [newReader, type, path, require, bind, Except.bind, pure,
        Except.pure]⟩
  | container type ns podName containerName =>
      have skipped : containerSourceType ≠ fileSourceType := by decide
      cases client with
      | ok value =>
          left
          exact ⟨.container config.ns config.podName config.containerName, by
            simp [newReader, type, skipped, ns, podName, containerName, require, bind, Except.bind,
              pure, Except.pure]⟩
      | error message =>
          right
          exact ⟨message, rfl, by
            simp [newReader, type, skipped, ns, podName, containerName, require, bind,
              Except.bind]⟩
  | windowsEvent type windows =>
      left
      exact ⟨.windowsEvent (orElse "" config.windowsEventLogName "Application")
        (orElse "" config.windowsEventLogLevel "Information"), by
          simp [newReader, type, windows, fileSourceType, containerSourceType, podSourceType,
            windowsEventSourceType, require, bind, Except.bind, pure, Except.pure]⟩
  | macOS type darwin =>
      left
      exact ⟨.macOS config.macOSLogQuery, by
        simp [newReader, type, darwin, fileSourceType, containerSourceType, podSourceType,
          windowsEventSourceType, macOSASLSourceType, require, bind, Except.bind, pure,
          Except.pure]⟩

theorem suffices_of_newReader {platform : Platform} {client : Except String Unit}
    {config : LogSourceConfig} {reader : LogReader}
    (created : newReader platform client config = .ok reader) : Suffices platform config := by
  unfold newReader at created
  split at created
  next type =>
    obtain ⟨_, path, _⟩ := bind_eq_ok_iff.mp created
    exact .file type (require_bne_iff.mp path)
  next =>
    split at created
    next type =>
      obtain ⟨_, ns, created⟩ := bind_eq_ok_iff.mp created
      obtain ⟨_, podName, created⟩ := bind_eq_ok_iff.mp created
      obtain ⟨_, containerName, _⟩ := bind_eq_ok_iff.mp created
      exact .container type (require_bne_iff.mp ns) (require_bne_iff.mp podName)
        (require_bne_iff.mp containerName)
    next =>
      split at created
      next => contradiction
      next =>
        split at created
        next type =>
          obtain ⟨_, windows, _⟩ := bind_eq_ok_iff.mp created
          exact .windowsEvent type (require_beq_iff.mp windows)
        next =>
          split at created
          next type =>
            obtain ⟨_, darwin, _⟩ := bind_eq_ok_iff.mp created
            exact .macOS type (require_beq_iff.mp darwin)
          next => contradiction

/-- Selecting a reader succeeds exactly when the type is known and the fields that it
requires are there. -/
theorem succeeds_selectReader_iff {platform : Platform} {config : Config}
    (given : config.logSourceType ≠ "") :
    (Succeeds fun client => selectReader platform client config) ↔
      ∃ type, parseSourceType config.logSourceType = .ok type ∧
        Suffices platform (sourceConfig config type) := by
  simp only [selectReader, if_pos given]
  cases parsed : parseSourceType config.logSourceType with
  | error message =>
      constructor
      · intro succeeds
        rcases succeeds (.ok ()) with ⟨_, created⟩ | ⟨_, failed, _⟩
        · contradiction
        · contradiction
      · rintro ⟨type, same, _⟩
        contradiction
  | ok type =>
      constructor
      · intro succeeds
        rcases succeeds (.ok ()) with ⟨reader, created⟩ | ⟨_, failed, _⟩
        · exact ⟨type, rfl, suffices_of_newReader created⟩
        · contradiction
      · rintro ⟨other, same, enough⟩
        cases same
        exact succeeds_newReader enough

/-! ## What `LoadConfig` ensures -/

/-- The type of the source, with its default. -/
def sourceType (platform : Platform) (raw : Config) : LogSourceType :=
  orElse "" raw.logSourceType (getDefaultLogSourceType platform)

theorem sourceType_ne_empty (platform : Platform) (raw : Config) :
    sourceType platform raw ≠ "" := by
  unfold sourceType orElse
  split
  next =>
    unfold getDefaultLogSourceType
    split <;> decide
  next given => exact given

theorem logSourceType_resolved (platform : Platform) (raw : Config) :
    (resolved platform raw).logSourceType = sourceType platform raw := by
  simp only [resolved]
  split <;> rfl

/-- Only the path of a source of type `file` is resolved. -/
theorem resolved_of_ne_file {platform : Platform} {raw : Config}
    (other : sourceType platform raw ≠ fileLogSource) :
    resolved platform raw = setDefaults platform raw :=
  if_neg other

theorem validateSource_of_complete {platform : Platform} {raw config : Config}
    (accepted : complete platform raw = .ok config) :
    config = resolved platform raw ∧ validateSource platform config = .ok () := by
  obtain ⟨valid, rfl⟩ := complete_eq_ok_iff.mp accepted
  obtain ⟨_, source, _⟩ := bind_eq_ok_iff.mp valid
  exact ⟨rfl, source⟩

/-- The types for which the fields are checked as `NewReader` checks them. -/
def checkedTypes : List LogSourceType :=
  [fileLogSource, containerLogSource, windowsEventLogSource, macOSASLLogSource]

/-- A source whose type is spelled as one of these has what its reader requires. -/
theorem suffices_of_mem_checkedTypes {platform : Platform} {config : Config}
    (checked : config.logSourceType ∈ checkedTypes)
    (valid : validateSource platform config = .ok ()) :
    ∃ type, parseSourceType config.logSourceType = .ok type ∧
      Suffices platform (sourceConfig config type) := by
  simp only [checkedTypes, List.mem_cons, List.not_mem_nil, or_false] at checked
  unfold validateSource at valid
  rcases checked with type | type | type | type
  · rw [type] at valid ⊢
    refine ⟨fileSourceType, by decide, .file rfl ?_⟩
    exact require_bne_iff.mp valid
  · rw [type] at valid ⊢
    rw [if_neg (by decide), if_pos rfl] at valid
    obtain ⟨_, ns, valid⟩ := bind_eq_ok_iff.mp valid
    obtain ⟨_, podName, containerName⟩ := bind_eq_ok_iff.mp valid
    exact ⟨containerSourceType, by decide, .container rfl (require_bne_iff.mp ns)
      (require_bne_iff.mp podName) (require_bne_iff.mp containerName)⟩
  · rw [type] at valid ⊢
    rw [if_neg (by decide), if_neg (by decide), if_neg (by decide), if_pos rfl] at valid
    exact ⟨windowsEventSourceType, by decide, .windowsEvent rfl (require_beq_iff.mp valid)⟩
  · rw [type] at valid ⊢
    rw [if_neg (by decide), if_neg (by decide), if_neg (by decide), if_neg (by decide),
      if_pos rfl] at valid
    exact ⟨macOSASLSourceType, by decide, .macOS rfl (require_beq_iff.mp valid)⟩

/-- The defaults of an event log are no fields that `NewReader` requires. -/
theorem suffices_setDefaults_iff {platform : Platform} {raw : Config} {type : String} :
    Suffices platform (sourceConfig (setDefaults platform raw) type) ↔
      Suffices platform (sourceConfig raw type) := by
  constructor <;> intro enough <;> cases enough with
  | file type path => exact .file type path
  | container type ns podName containerName => exact .container type ns podName containerName
  | windowsEvent type windows => exact .windowsEvent type windows
  | macOS type darwin => exact .macOS type darwin

/-- The type is spelled as one of those that are checked, or it is read as a type whose
fields are in the file and whose system is this one. -/
def Selectable (platform : Platform) (raw : Config) : Prop :=
  sourceType platform raw ∈ checkedTypes ∨
    ∃ type, parseSourceType (sourceType platform raw) = .ok type ∧
      Suffices platform (sourceConfig raw type)

/-- An accepted configuration yields a reader, a missing Kubernetes client apart, if and
only if the type of its source is spelled as one of the checked types, or the fields that
`NewReader` requires for what the type is read as are in the file. -/
theorem accepted_yields_iff_selectable {platform : Platform}
    {unmarshal : String → Except String Config} {data : String} {raw config : Config}
    (parsed : unmarshal data = .ok raw)
    (accepted : loadConfig platform unmarshal (.ok data) = .ok config) :
    (Succeeds fun client => startReader platform client
        (loadConfig platform unmarshal (.ok data))) ↔ Selectable platform raw := by
  rw [accepted]
  rw [loadConfig_ok_eq parsed] at accepted
  obtain ⟨rfl, valid⟩ := validateSource_of_complete accepted
  have type := logSourceType_resolved platform raw
  have given : (resolved platform raw).logSourceType ≠ "" := by
    rw [type]
    exact sourceType_ne_empty platform raw
  simp only [startReader_ok, succeeds_selectReader_iff given]
  constructor
  · intro enough
    by_cases isFile : sourceType platform raw = fileLogSource
    · exact .inl (by rw [isFile]; decide)
    · rw [resolved_of_ne_file isFile] at enough
      simp only [suffices_setDefaults_iff] at enough
      exact .inr enough
  · rintro (checked | enough)
    · exact suffices_of_mem_checkedTypes (type ▸ checked) valid
    · by_cases isFile : sourceType platform raw = fileLogSource
      · exact suffices_of_mem_checkedTypes (by rw [type, isFile]; decide) valid
      · rw [resolved_of_ne_file isFile]
        simp only [suffices_setDefaults_iff]
        exact enough

/-- A file that names nothing but the server yields a reader, and one that spells the type
in another case and gives no path does not. -/
theorem accepted_yields_iff_selectable_default :
    (Succeeds fun client => startReader .linux client
        (loadConfig .linux unmarshal (.ok "server_url: http://logs\n"))) ∧
      ¬ Succeeds fun client => startReader .linux client
        (loadConfig .linux unmarshal
          (.ok "log_source_type: File\nserver_url: http://logs\n")) := by
  constructor
  · refine (@accepted_yields_iff_selectable .linux unmarshal _ { serverURL := "http://logs" }
      (resolved .linux { serverURL := "http://logs" }) (by decide +kernel)
      (by decide +kernel)).mpr (.inl ?_)
    decide +kernel
  · intro succeeds
    have selectable := (@accepted_yields_iff_selectable .linux unmarshal _
      { logSourceType := "File", serverURL := "http://logs" }
      (resolved .linux { logSourceType := "File", serverURL := "http://logs" })
      (by decide +kernel) (by decide +kernel)).mp succeeds
    rcases selectable with checked | ⟨type, parsed, enough⟩
    · revert checked
      decide +kernel
    · cases (rfl : parseSourceType "File" = .ok fileSourceType).symm.trans parsed
      cases enough with
      | file _ path => exact path rfl
      | container type | windowsEvent type | macOS type => exact absurd type (by decide)

/-- A type in another case passes unchecked and needs a path, and one that does not exist
passes as well. -/
theorem accepted_without_reader :
    (∃ config, loadConfig .linux unmarshal
          (.ok "log_source_type: File\nserver_url: http://logs\n") = .ok config ∧
        selectReader .linux (.ok ()) config = .error "path is required for file source type") ∧
      ∃ config, loadConfig .linux unmarshal
          (.ok "log_source_type: journald\nserver_url: http://logs\n") = .ok config ∧
        selectReader .linux (.ok ()) config = .error "unknown log source type: journald" := by
  constructor
  · exact ⟨resolved .linux { logSourceType := "File", serverURL := "http://logs" },
      by decide +kernel, by decide +kernel⟩
  · exact ⟨resolved .linux { logSourceType := "journald", serverURL := "http://logs" },
      by decide +kernel, by decide +kernel⟩

end Tailpost.Reader
