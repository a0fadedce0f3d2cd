import Tailpost.Reader.Acceptance

/-!
# Spellings of a source type

`ParseSourceType` reads several spellings as one source type.  `LoadConfig` compares the
type as it is spelled, for its defaults, for the path of a file and for its checks.  The
defaults and the checks are made again when the reader is created, so that nothing depends
on them; only the path of a file is resolved for the one spelling `file` and for no other.
-/

namespace Tailpost.Reader

open Tailpost.Configuration
open Tailpost.Hoare (bind_eq_ok_iff)
open Tailpost.Text (isAbs ne_empty_of_isAbs)

/-- A configuration with the source type spelled in some way. -/
def spelled (raw : Config) (spelling : LogSourceType) : Config :=
  { raw with logSourceType := spelling }

/-- The path that `LoadConfig` leaves in the configuration. -/
def spelledPath (platform : Platform) (spelling : LogSourceType) (path : String) : String :=
  if spelling = fileLogSource then resolveLogPath platform path else path

/-- The checks of `LoadConfig` behind those of the source. -/
def validateRest (config : Config) : Except String Unit := do
  validateTLS config
  validateAuth config.security.auth
  validateEncryption config.security.encryption
  require (config.serverURL != "") "server_url is required in config"

section Spelling

variable {platform : Platform} {client : Except String Unit} {raw : Config}
  {spelling : LogSourceType} {type : String} {reader : LogReader}

theorem ne_empty_of_parseSourceType (parsed : parseSourceType spelling = .ok type) :
    spelling ≠ "" := by
  rintro rfl
  have unknown : parseSourceType "" = .error "unknown log source type: " := by decide
  rw [unknown] at parsed
  contradiction

/-- The fields of a reader, as far as they depend on the spelling. -/
theorem sourceConfig_resolved (given : spelling ≠ "") :
    sourceConfig (resolved platform (spelled raw spelling)) type =
      { sourceConfig raw type with
        path := spelledPath platform spelling raw.logPath
        windowsEventLogName := eventDefault spelling raw.windowsEventLogName "Application"
        windowsEventLogLevel :=
          eventDefault spelling raw.windowsEventLogLevel "Information" } := by
  have kept : orElse "" spelling (getDefaultLogSourceType platform) = spelling := if_neg given
  simp only [resolved, spelled, setDefaults, kept, spelledPath]
  split <;> rfl

theorem orElse_eventDefault (value fallback : String) :
    orElse "" (eventDefault spelling value fallback) fallback = orElse "" value fallback := by
  unfold eventDefault
  split
  · unfold orElse
    split <;> simp
  · rfl

/-- The defaults of an event log are the same in both places. -/
theorem newReader_resolved (given : spelling ≠ "") :
    newReader platform client (sourceConfig (resolved platform (spelled raw spelling)) type) =
      newReader platform client
        { sourceConfig raw type with path := spelledPath platform spelling raw.logPath } := by
  simp only [sourceConfig_resolved given, newReader, orElse_eventDefault]
  rfl

/-- The checks of a source by its spelling are implied by those of its reader. -/
theorem validateSource_of_suffices {config : Config}
    (parsed : parseSourceType config.logSourceType = .ok type)
    (enough : Suffices platform (sourceConfig config type)) :
    validateSource platform config = .ok () := by
  have read {literal : String} (spelt : config.logSourceType = literal)
      (own : parseSourceType literal = .ok literal) :
      (sourceConfig config type).type = literal :=
    Except.ok.inj (parsed.symm.trans (spelt ▸ own))
  -- Each spelling that is compared stands for itself, which leaves one case of `enough`.
  unfold validateSource
  split
  next spelt =>
    have isFile := read spelt (by decide)
    rcases enough with ⟨_, path⟩ | other | other | other
    · exact require_bne_iff.mpr path
    all_goals exact absurd (other.symm.trans isFile) (by decide)
  next =>
    split
    next spelt =>
      have isContainer := read spelt (by decide)
      rcases enough with other | ⟨_, ns, podName, containerName⟩ | other | other
      · exact absurd (other.symm.trans isContainer) (by decide)
      · exact bind_eq_ok_iff.mpr ⟨(), require_bne_iff.mpr ns, bind_eq_ok_iff.mpr
          ⟨(), require_bne_iff.mpr podName, require_bne_iff.mpr containerName⟩⟩
      all_goals exact absurd (other.symm.trans isContainer) (by decide)
    next =>
      split
      next spelt =>
        have isPod := read spelt (by decide)
        rcases enough with other | other | other | other
        all_goals exact absurd (other.symm.trans isPod) (by decide)
      next =>
        split
        next spelt =>
          have isEvent := read spelt (by decide)
          rcases enough with other | other | ⟨_, windows⟩ | other
          case windowsEvent => exact require_beq_iff.mpr windows
          all_goals exact absurd (other.symm.trans isEvent) (by decide)
        next =>
          split
          next spelt =>
            have isMacOS := read spelt (by decide)
            rcases enough with other | other | other | ⟨_, darwin⟩
            case macOS => exact require_beq_iff.mpr darwin
            all_goals exact absurd (other.symm.trans isMacOS) (by decide)
          next => rfl

theorem validateRest_resolved :
    validateRest (resolved platform (spelled raw spelling)) =
      validateRest (setDefaults platform raw) := by
  simp only [resolved]
  split <;> rfl

/-- What becomes of a configuration depends on the spelling through the path only. -/
theorem startReader_spelled_iff (parsed : parseSourceType spelling = .ok type) :
    startReader platform client (complete platform (spelled raw spelling)) = .ok reader ↔
      validateRest (setDefaults platform raw) = .ok () ∧
        newReader platform client
          { sourceConfig raw type with path := spelledPath platform spelling raw.logPath } =
            .ok reader := by
  have given := ne_empty_of_parseSourceType parsed
  have spelt : (resolved platform (spelled raw spelling)).logSourceType = spelling :=
    (logSourceType_resolved _ _).trans (if_neg given)
  have select : selectReader platform client (resolved platform (spelled raw spelling)) =
      newReader platform client
        { sourceConfig raw type with path := spelledPath platform spelling raw.logPath } := by
    rw [selectReader, spelt, if_pos given, parsed, ← newReader_resolved given]
    rfl
  constructor
  · intro started
    obtain ⟨config, accepted, created⟩ := bind_eq_ok_iff.mp started
    obtain ⟨valid, rfl⟩ := complete_eq_ok_iff.mp accepted
    obtain ⟨_, _, rest⟩ := bind_eq_ok_iff.mp valid
    exact ⟨validateRest_resolved ▸ rest, select ▸ created⟩
  · rintro ⟨rest, created⟩
    have enough : Suffices platform
        (sourceConfig (resolved platform (spelled raw spelling)) type) := by
      apply suffices_of_newReader
      rw [newReader_resolved given]
      exact created
    have source := validateSource_of_suffices (spelt.symm ▸ parsed) enough
    have valid : validate platform (resolved platform (spelled raw spelling)) = .ok () :=
      bind_eq_ok_iff.mpr ⟨(), source, validateRest_resolved.trans rest⟩
    exact bind_eq_ok_iff.mpr ⟨_, complete_eq_ok_iff.mpr ⟨valid, rfl⟩, select.trans created⟩

theorem newReader_file_iff {config : LogSourceConfig} (isFile : config.type = fileSourceType) :
    newReader platform client config = .ok reader ↔
      config.path ≠ "" ∧ reader = .file config.path := by
  rw [newReader, if_pos isFile, bind_eq_ok_iff]
  constructor
  · rintro ⟨_, named, created⟩
    exact ⟨require_bne_iff.mp named, (Except.ok.inj created).symm⟩
  · rintro ⟨named, rfl⟩
    exact ⟨(), require_bne_iff.mpr named, rfl⟩

/-- Only a reader of a file has a path. -/
theorem newReader_path {config : LogSourceConfig} (other : config.type ≠ fileSourceType)
    (path : String) :
    newReader platform client { config with path } = newReader platform client config :=
  (if_neg other).trans (if_neg other).symm

end Spelling

/-! ## The path of a file -/

/-- The files of two paths are read in the same way only if they are the same. -/
theorem file_iff_file_iff {path other : String} :
    (∀ reader, path ≠ "" ∧ reader = LogReader.file path ↔
        other ≠ "" ∧ reader = LogReader.file other) ↔ path = other := by
  constructor
  · intro same
    by_cases named : path = ""
    · by_contra different
      have given : other ≠ "" := fun empty => different (named.trans empty.symm)
      exact absurd named ((same (.file other)).mpr ⟨given, rfl⟩).1
    · exact LogReader.file.inj ((same (.file path)).mp ⟨named, rfl⟩).2
  · rintro rfl _
    rfl

theorem spelledPath_eq_iff {platform : Platform} {spelling other : LogSourceType}
    {path : String} :
    spelledPath platform spelling path = spelledPath platform other path ↔
      (spelling = fileLogSource ↔ other = fileLogSource) ∨
        resolveLogPath platform path = path := by
  by_cases first : spelling = fileLogSource <;> by_cases second : other = fileLogSource <;>
    simp [spelledPath, first, second, eq_comm]

/-- The path stands for itself if it is given and does not begin with the placeholder. -/
theorem resolveLogPath_linux_eq_self_iff {path : String} :
    resolveLogPath .linux path = path ↔ path ≠ "" ∧ beginsWith path osDefault = false := by
  constructor
  · intro same
    by_contra resolves
    rw [not_and_or, not_not, Bool.not_eq_false] at resolves
    have absolute := isAbs_resolveLogPath_linux resolves
    rw [same] at absolute
    rcases resolves with empty | placeholder
    · exact ne_empty_of_isAbs absolute empty
    · obtain ⟨rest, spelt⟩ := List.isPrefixOf_iff_prefix.mp placeholder
      rw [isAbs, ← spelt] at absolute
      simp [osDefault] at absolute
  · rintro ⟨given, literal⟩
    exact resolveLogPath_eq_self given literal

/-! ## Outcomes -/

/-- Both fail, or both give the same reader. -/
def SameOutcome (first second : Except String LogReader) : Prop :=
  ∀ reader, first = .ok reader ↔ second = .ok reader

/-- Two spellings of one source type lead to the same outcome exactly if it is no file, or
both or none of them is `file`, or the path stands for itself, or the configuration fails
another check. -/
theorem spellings_sameOutcome_iff {platform : Platform} {client : Except String Unit}
    {unmarshal : String → Except String Config} {first second : String} {raw : Config}
    {spelling other : LogSourceType} {type : String}
    (readFirst : unmarshal first = .ok (spelled raw spelling))
    (readSecond : unmarshal second = .ok (spelled raw other))
    (parsed : parseSourceType spelling = .ok type) (sameType : parseSourceType other = .ok type) :
    SameOutcome (startReader platform client (loadConfig platform unmarshal (.ok first)))
        (startReader platform client (loadConfig platform unmarshal (.ok second))) ↔
      type ≠ fileSourceType ∨ (spelling = fileLogSource ↔ other = fileLogSource) ∨
        resolveLogPath platform raw.logPath = raw.logPath ∨
        validateRest (setDefaults platform raw) ≠ .ok () := by
  rw [loadConfig_ok_eq readFirst, loadConfig_ok_eq readSecond, SameOutcome]
  simp only [startReader_spelled_iff parsed, startReader_spelled_iff sameType]
  by_cases valid : validateRest (setDefaults platform raw) = .ok ()
  · by_cases isFile : type = fileSourceType
    · have read (spelling : LogSourceType) (reader : LogReader) :
          newReader platform client { sourceConfig raw type with
            path := spelledPath platform spelling raw.logPath } = .ok reader ↔
              spelledPath platform spelling raw.logPath ≠ "" ∧
                reader = .file (spelledPath platform spelling raw.logPath) :=
        newReader_file_iff isFile
      simp only [read, valid, true_and, file_iff_file_iff, spelledPath_eq_iff]
      simp [isFile]
    · have read (path : String) : newReader platform client { sourceConfig raw type with path } =
          newReader platform client (sourceConfig raw type) := newReader_path isFile path
      simp [isFile, read]
  · simp [valid]

/-- A file whose path is given is found under both spellings. -/
theorem spellings_sameOutcome_path :
    SameOutcome
      (startReader .linux (.ok ()) (loadConfig .linux unmarshal
        (.ok "log_source_type: file\nlog_path: /srv/app.log\nserver_url: http://logs\n")))
      (startReader .linux (.ok ()) (loadConfig .linux unmarshal
        (.ok "log_source_type: FILE\nlog_path: /srv/app.log\nserver_url: http://logs\n"))) :=
  (@spellings_sameOutcome_iff .linux (.ok ()) unmarshal _ _
    { logPath := "/srv/app.log", serverURL := "http://logs" } "file" "FILE" "file"
    (by decide +kernel) (by decide +kernel) (by decide) (by decide)).mpr
    (.inr (.inr (.inl (by decide))))

/-- Without a path, `file` stands for the system's log and `File` is refused. -/
theorem file_spellings_diverge :
    parseSourceType "file" = .ok "file" ∧ parseSourceType "File" = .ok "file" ∧
      startReader .linux (.ok ()) (loadConfig .linux unmarshal
        (.ok "log_source_type: file\nserver_url: http://logs\n")) =
          .ok (.file "/var/log/syslog") ∧
      startReader .linux (.ok ()) (loadConfig .linux unmarshal
        (.ok "log_source_type: File\nserver_url: http://logs\n")) =
          .error "path is required for file source type" := by
  refine ⟨by decide, by decide, ?_, ?_⟩
  · rw [@loadConfig_ok_eq .linux unmarshal _ { logSourceType := "file", serverURL := "http://logs" }
      (by decide +kernel)]
    decide
  · rw [@loadConfig_ok_eq .linux unmarshal _ { logSourceType := "File", serverURL := "http://logs" }
      (by decide +kernel)]
    decide

end Tailpost.Reader
