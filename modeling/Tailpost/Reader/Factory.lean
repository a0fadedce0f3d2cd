import Tailpost.Configuration.LoadConfig

/-!
# Which reader the agent creates

The source type of a configuration is parsed, with aliases and in any case, and
decides which reader is created from the other fields.  Creating a container
reader needs a Kubernetes client, which may fail; the platforms that have their own
logs have their own readers.
-/

namespace Tailpost.Reader

open Tailpost.Configuration

/-! ## Source types -/

/-- The source type of files. -/
def fileSourceType : String :=
  "file"

/-- The source type of containers. -/
def containerSourceType : String :=
  "container"

/-- The source type of pods. -/
def podSourceType : String :=
  "pod"

/-- The source type of the Windows event log. -/
def windowsEventSourceType : String :=
  "windows_event"

/-- The source type of the macOS log. -/
def macOSASLSourceType : String :=
  "macos_asl"

/-- The lower case of a character.  Two characters outside of ASCII have a lower case
in it; any other keeps out of it, and can stay as it is for a comparison with an
ASCII text. -/
def lowerCase (c : Char) : Char :=
  if c = '\u0130' then 'i' else if c = '\u212a' then 'k' else c.toLower

/-- The text in lower case. -/
def toLower (text : String) : String :=
  .ofList (text.toList.map lowerCase)

/-- A source type in any case, or one of the short names. -/
def parseSourceType (sourceType : String) : Except String String :=
  let lower := toLower sourceType
  if lower = fileSourceType then
    .ok fileSourceType
  else if lower = containerSourceType then
    .ok containerSourceType
  else if lower = podSourceType then
    .ok podSourceType
  else if lower = windowsEventSourceType ∨ lower = "windows" ∨ lower = "event" then
    .ok windowsEventSourceType
  else if lower = macOSASLSourceType ∨ lower = "macos" ∨ lower = "asl" then
    .ok macOSASLSourceType
  else
    .error ("unknown log source type: " ++ sourceType)

/-! ## Readers -/

/-- What a reader reads. -/
inductive LogReader
  | file (path : String)
  | container (ns podName containerName : String)
  | windowsEvent (logName minLevel : String)
  | macOS (query : String)
  deriving DecidableEq

/-- The fields from which a reader is created. -/
structure LogSourceConfig where
  type : String
  path : String
  ns : String
  podName : String
  containerName : String
  windowsEventLogName : String
  windowsEventLogLevel : String
  macOSLogQuery : String

/-- `client` says whether a Kubernetes client can be created. -/
def newReader (platform : Platform) (client : Except String Unit) (config : LogSourceConfig) :
    Except String LogReader :=
  if config.type = fileSourceType then do
    require (config.path != "") "path is required for file source type"
    return .file config.path
  else if config.type = containerSourceType then do
    require (config.ns != "") "namespace is required for container source type"
    require (config.podName != "") "pod name is required for container source type"
    require (config.containerName != "") "container name is required for container source type"
    client
    return .container config.ns config.podName config.containerName
  else if config.type = podSourceType then
    .error "pod source type not implemented yet"
  else if config.type = windowsEventSourceType then do
    require (platform.goos == .windows)
      "windows event log source type is only supported on Windows"
    return .windowsEvent (orElse "" config.windowsEventLogName "Application")
      (orElse "" config.windowsEventLogLevel "Information")
  else if config.type = macOSASLSourceType then do
    require (platform.goos == .darwin) "macOS ASL source type is only supported on macOS"
    return .macOS config.macOSLogQuery
  else
    .error ("unknown log source type: " ++ config.type)

/-- The fields of the configuration for a reader of a type. -/
def sourceConfig (config : Config) (type : String) : LogSourceConfig where
  type := type
  path := config.logPath
  ns := config.ns
  podName := config.podName
  containerName := config.containerName
  windowsEventLogName := config.windowsEventLogName
  windowsEventLogLevel := config.windowsEventLogLevel
  macOSLogQuery := config.macOSLogQuery

/-- The reader that the agent creates for a configuration. -/
def selectReader (platform : Platform) (client : Except String Unit) (config : Config) :
    Except String LogReader :=
  if config.logSourceType ≠ "" then do
    let type ← parseSourceType config.logSourceType
    newReader platform client (sourceConfig config type)
  else
    .ok (.file config.logPath)

/-- The reader of a configuration file, when the agent starts at all. -/
def startReader (platform : Platform) (client : Except String Unit)
    (loaded : Except String Config) : Except String LogReader := do
  selectReader platform client (← loaded)

@[simp]
theorem startReader_ok (platform : Platform) (client : Except String Unit) (config : Config) :
    startReader platform client (.ok config) = selectReader platform client config :=
  rfl

@[simp]
theorem startReader_error (platform : Platform) (client : Except String Unit)
    (message : String) : startReader platform client (.error message) = .error message :=
  rfl

theorem selectReader_file {platform : Platform} {client : Except String Unit} {config : Config}
    (type : config.logSourceType = fileLogSource) (named : config.logPath ≠ "") :
    selectReader platform client config = .ok (.file config.logPath) := by
  have parsed : parseSourceType config.logSourceType = .ok fileSourceType := by
    rw [type]
    decide
  have given : config.logSourceType ≠ "" := by
    rw [type]
    decide
  have required : require (config.logPath != "") "path is required for file source type" =
      .ok () := require_bne_iff.mpr named
  rw [selectReader, if_pos given, parsed]
  simp [newReader, sourceConfig, required, bind, Except.bind, pure, Except.pure]

end Tailpost.Reader
