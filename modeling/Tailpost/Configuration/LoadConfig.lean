import Tailpost.Text.Path

/-!
# The configuration of the agent

`LoadConfig` reads a YAML file into a `Config`, fills in defaults, resolves the
path of the log, and checks that required fields are there.  The operating
system decides some of the defaults and checks; the YAML library is a parameter.

A map is the list of its entries in the order in which a loop visits them, and a
nil map is an empty one: nothing below tells the two apart.  A `float64` is
given by its bits.
-/

namespace Tailpost.Configuration

open Tailpost.Text

/-! ## Types -/

/-- The type `map[string]string`. -/
structure StringMap where
  entries : List (String × String)
  distinct : (entries.map Prod.fst).Nodup
  deriving DecidableEq

/-- The map without entries, also the model of a nil map. -/
def StringMap.empty : StringMap where
  entries := []
  distinct := List.nodup_nil

/-- Any text can stand in a config file. -/
abbrev LogSourceType :=
  String

/-- The source that tails a file. -/
def fileLogSource : LogSourceType :=
  "file"

/-- The source that streams one container of a pod. -/
def containerLogSource : LogSourceType :=
  "container"

/-- The source that selects pods. -/
def podLogSource : LogSourceType :=
  "pod"

/-- The source that polls the Windows event log. -/
def windowsEventLogSource : LogSourceType :=
  "windows_event"

/-- The source that runs the `log` command of macOS. -/
def macOSASLLogSource : LogSourceType :=
  "macos_asl"

/-- The section `security.tls`. -/
structure TLSConfig where
  enabled : Bool := false
  certFile : String := ""
  keyFile : String := ""
  caFile : String := ""
  insecureSkipVerify : Bool := false
  serverName : String := ""
  preferServerCipherSuites : Bool := false
  minVersion : String := ""
  maxVersion : String := ""
  cipherSuites : String := ""
  deriving DecidableEq

/-- The section `security.auth`. -/
structure AuthConfig where
  type : String := ""
  username : String := ""
  password : String := ""
  tokenFile : String := ""
  clientID : String := ""
  clientSecret : String := ""
  tokenURL : String := ""
  scopes : List String := []
  headers : StringMap := .empty
  deriving DecidableEq

/-- The section `security.encryption`. -/
structure EncryptionConfig where
  enabled : Bool := false
  type : String := ""
  algorithm : String := ""
  keyFile : String := ""
  keyEnv : String := ""
  keyID : String := ""
  rotationDays : Int := 0
  deriving DecidableEq

/-- The section `security`. -/
structure SecurityConfig where
  tls : TLSConfig := {}
  auth : AuthConfig := {}
  encryption : EncryptionConfig := {}
  deriving DecidableEq

/-- A `float64`, by its bits. -/
structure Float64 where
  bits : UInt64
  deriving DecidableEq

/-- The bits of 1.0. -/
def Float64.one : Float64 :=
  ⟨0x3FF0000000000000⟩

/-- Both zeros compare equal to `0`. -/
def Float64.isZero (value : Float64) : Bool :=
  value.bits == 0 || value.bits == 0x8000000000000000

/-- The section `telemetry`. -/
structure TelemetryConfig where
  enabled : Bool := false
  serviceName : String := ""
  serviceVersion : String := ""
  exporterType : String := ""
  exporterEndpoint : String := ""
  samplingRate : Float64 := ⟨0⟩
  contextPropagation : Bool := false
  attributes : StringMap := .empty
  deriving DecidableEq

/-- The zero value is what an empty file gives. -/
structure Config where
  logPath : String := ""
  serverURL : String := ""
  batchSize : Int := 0
  /-- In nanoseconds. -/
  flushInterval : Int := 0
  logSourceType : LogSourceType := ""
  ns : String := ""
  podName : String := ""
  containerName : String := ""
  podSelector : StringMap := .empty
  namespaceSelector : StringMap := .empty
  windowsEventLogName : String := ""
  windowsEventLogLevel : String := ""
  macOSLogQuery : String := ""
  telemetry : TelemetryConfig := {}
  security : SecurityConfig := {}
  deriving DecidableEq

/-! ## Platforms -/

/-- The operating systems the source tells apart. -/
inductive GOOS
  | windows
  | darwin
  /-- Linux and others. -/
  | linux
  deriving DecidableEq

/-- The operating system, its path functions, and the variable `SYSTEMROOT`. -/
structure Platform where
  goos : GOOS
  join : List String → String
  dir : String → String
  systemRoot : String

/-- A Linux host. -/
def Platform.linux : Platform where
  goos := .linux
  join := Text.join
  dir := Text.dir
  systemRoot := ""

theorem Platform.linux_join : Platform.linux.join = Text.join :=
  rfl

/-- The log of the system. -/
def getDefaultLogPath (platform : Platform) : String :=
  match platform.goos with
  | .windows => platform.join [platform.systemRoot, "Logs", "Application.log"]
  | .darwin => "/var/log/system.log"
  | .linux => "/var/log/syslog"

/-- The source that reads the log of the system. -/
def getDefaultLogSourceType (platform : Platform) : LogSourceType :=
  match platform.goos with
  | .windows => windowsEventLogSource
  | .darwin => macOSASLLogSource
  | .linux => fileLogSource

/-! ## Defaults -/

/-- The defaults of the section `telemetry`. -/
def defaultTelemetryConfig : TelemetryConfig where
  enabled := false
  serviceName := "tailpost"
  serviceVersion := "0.1.0"
  exporterType := "http"
  exporterEndpoint := "http://localhost:4318"
  samplingRate := .one
  contextPropagation := true
  attributes := .empty

/-- The defaults of the section `security`. -/
def defaultSecurityConfig : SecurityConfig where
  tls := { minVersion := "tls12", preferServerCipherSuites := true }
  auth := { type := "none" }
  encryption := { type := "aes", rotationDays := 90 }

/-- A value, or its default when it is the zero value. -/
def orElse {α : Type} [DecidableEq α] (zero value fallback : α) : α :=
  if value = zero then fallback else value

theorem orElse_eq_self_iff {α : Type} [DecidableEq α] {zero value fallback : α}
    (different : fallback ≠ zero) : orElse zero value fallback = value ↔ value ≠ zero := by
  unfold orElse
  split
  next missing =>
    rw [missing]
    simp [different]
  next given => simp [given]

/-- Telemetry that is not enabled is reset as a whole. -/
def TelemetryConfig.setDefaults (telemetry : TelemetryConfig) : TelemetryConfig :=
  if telemetry.enabled then
    { telemetry with
      serviceName := orElse "" telemetry.serviceName defaultTelemetryConfig.serviceName
      serviceVersion := orElse "" telemetry.serviceVersion defaultTelemetryConfig.serviceVersion
      exporterType := orElse "" telemetry.exporterType defaultTelemetryConfig.exporterType
      exporterEndpoint :=
        orElse "" telemetry.exporterEndpoint defaultTelemetryConfig.exporterEndpoint
      samplingRate :=
        if telemetry.samplingRate.isZero then defaultTelemetryConfig.samplingRate
        else telemetry.samplingRate
      attributes := orElse .empty telemetry.attributes defaultTelemetryConfig.attributes }
  else
    defaultTelemetryConfig

/-- TLS that is not enabled is reset as a whole. -/
def TLSConfig.setDefaults (tls : TLSConfig) : TLSConfig :=
  if tls.enabled then
    { tls with minVersion := orElse "" tls.minVersion defaultSecurityConfig.tls.minVersion }
  else
    defaultSecurityConfig.tls

/-- The only default of the section `security.auth` is its type. -/
def AuthConfig.setDefaults (auth : AuthConfig) : AuthConfig :=
  { auth with type := orElse "" auth.type defaultSecurityConfig.auth.type }

/-- Encryption that is not enabled is reset as a whole. -/
def EncryptionConfig.setDefaults (encryption : EncryptionConfig) : EncryptionConfig :=
  if encryption.enabled then
    { encryption with
      type := orElse "" encryption.type defaultSecurityConfig.encryption.type
      rotationDays :=
        orElse 0 encryption.rotationDays defaultSecurityConfig.encryption.rotationDays }
  else
    defaultSecurityConfig.encryption

/-- Five seconds. -/
def defaultFlushInterval : Int :=
  5000000000

/-- A field of Windows event sources, or its default. -/
def eventDefault (type : LogSourceType) (value fallback : String) : String :=
  if type = windowsEventLogSource then orElse "" value fallback else value

/-- Every field that is still at its zero value takes its default. -/
def setDefaults (platform : Platform) (config : Config) : Config :=
  let type := orElse "" config.logSourceType (getDefaultLogSourceType platform)
  { config with
    batchSize := orElse 0 config.batchSize 10
    flushInterval := orElse 0 config.flushInterval defaultFlushInterval
    logSourceType := type
    windowsEventLogName := eventDefault type config.windowsEventLogName "Application"
    windowsEventLogLevel := eventDefault type config.windowsEventLogLevel "Information"
    telemetry := config.telemetry.setDefaults
    security := {
      tls := config.security.tls.setDefaults
      auth := config.security.auth.setDefaults
      encryption := config.security.encryption.setDefaults } }

/-! ## The path of the log -/

/-- `strings.HasPrefix`. -/
def beginsWith (text start : String) : Bool :=
  start.toList.isPrefixOf text.toList

/-- Stands for the directory of the default log at the beginning of a path. -/
def osDefault : String :=
  "$\x7bOS_DEFAULT\x7d"

/-- The path of a file source. -/
def resolveLogPath (platform : Platform) (path : String) : String :=
  if path = "" then
    getDefaultLogPath platform
  else if beginsWith path osDefault then
    platform.join [platform.dir (getDefaultLogPath platform),
      .ofList (path.toList.drop osDefault.toList.length)]
  else
    path

/-- A path that is resolved to another one becomes an absolute path. -/
theorem isAbs_resolveLogPath_linux {path : String}
    (resolves : path = "" ∨ beginsWith path osDefault = true) :
    isAbs (resolveLogPath .linux path) = true := by
  have directory : isAbs (Platform.linux.dir (getDefaultLogPath .linux)) = true := by decide
  unfold resolveLogPath
  split
  next => decide
  next given =>
    rw [if_pos (resolves.resolve_left given), Platform.linux_join]
    exact isAbs_join directory _

theorem resolveLogPath_eq_self {platform : Platform} {path : String} (given : path ≠ "")
    (literal : beginsWith path osDefault = false) : resolveLogPath platform path = path := by
  rw [resolveLogPath, if_neg given, literal]
  rfl

theorem resolveLogPath_linux_ne_empty (path : String) : resolveLogPath .linux path ≠ "" := by
  by_cases resolves : path = "" ∨ beginsWith path osDefault = true
  · exact ne_empty_of_isAbs (isAbs_resolveLogPath_linux resolves)
  · rw [not_or, Bool.not_eq_true] at resolves
    rw [resolveLogPath_eq_self resolves.1 resolves.2]
    exact resolves.1

/-! ## Validation -/

/-- Fail with a message unless a condition holds. -/
def require (holds : Bool) (message : String) : Except String Unit :=
  if holds then .ok () else .error message

@[simp]
theorem require_eq_ok_iff {holds : Bool} {message : String} {result : Unit} :
    require holds message = .ok result ↔ holds = true := by
  unfold require
  split <;> simp_all

theorem require_bne_iff {α : Type} [DecidableEq α] {value other : α} {message : String}
    {result : Unit} : require (value != other) message = .ok result ↔ value ≠ other :=
  require_eq_ok_iff.trans bne_iff_ne

theorem require_beq_iff {α : Type} [DecidableEq α] {value other : α} {message : String}
    {result : Unit} : require (value == other) message = .ok result ↔ value = other :=
  require_eq_ok_iff.trans beq_iff_eq

/-- The required fields of each type of source. -/
def validateSource (platform : Platform) (config : Config) : Except String Unit :=
  if config.logSourceType = fileLogSource then
    require (config.logPath != "") "log_path is required for file log source"
  else if config.logSourceType = containerLogSource then do
    require (config.ns != "") "namespace is required for container log source"
    require (config.podName != "") "pod_name is required for container log source"
    require (config.containerName != "") "container_name is required for container log source"
  else if config.logSourceType = podLogSource then
    require (config.podSelector.entries != []) "pod_selector is required for pod log source"
  else if config.logSourceType = windowsEventLogSource then
    require (platform.goos == .windows)
      "windows_event log source type is only supported on Windows"
  else if config.logSourceType = macOSASLLogSource then
    require (platform.goos == .darwin) "macos_asl log source type is only supported on macOS"
  else
    .ok ()

/-- The checks of the section `security.tls`, which look at the server's address
too. -/
def validateTLS (config : Config) : Except String Unit :=
  if config.security.tls.enabled then do
    require (!(config.security.tls.certFile == "" && config.serverURL != "" &&
        beginsWith config.serverURL "https://"))
      "cert_file is required when TLS is enabled for HTTPS connections"
    require (!(config.security.tls.keyFile == "" && config.security.tls.certFile != ""))
      "key_file is required when cert_file is specified"
  else
    .ok ()

/-- Other types are not checked. -/
def validateAuth (auth : AuthConfig) : Except String Unit :=
  if auth.type = "basic" then
    require (!(auth.username == "" || auth.password == ""))
      "username and password are required for basic authentication"
  else if auth.type = "token" then
    require (auth.tokenFile != "") "token_file is required for token authentication"
  else if auth.type = "oauth2" then
    require (!(auth.clientID == "" || auth.clientSecret == "" || auth.tokenURL == ""))
      "client_id, client_secret, and token_url are required for OAuth2 authentication"
  else
    .ok ()

/-- The check of the section `security.encryption`. -/
def validateEncryption (encryption : EncryptionConfig) : Except String Unit :=
  if encryption.enabled then
    require (!(encryption.keyFile == "" && encryption.keyEnv == ""))
      "either key_file or key_env must be specified when encryption is enabled"
  else
    .ok ()

/-- The checks in the order of the source; the first that fails gives the error. -/
def validate (platform : Platform) (config : Config) : Except String Unit := do
  validateSource platform config
  validateTLS config
  validateAuth config.security.auth
  validateEncryption config.security.encryption
  require (config.serverURL != "") "server_url is required in config"

/-! ## Loading -/

/-- The configuration with its defaults and the resolved path. -/
def resolved (platform : Platform) (config : Config) : Config :=
  let config := setDefaults platform config
  if config.logSourceType = fileLogSource then
    { config with logPath := resolveLogPath platform config.logPath }
  else
    config

/-- What `LoadConfig` makes of a file that has been parsed. -/
def complete (platform : Platform) (config : Config) : Except String Config := do
  validate platform (resolved platform config)
  return resolved platform config

/-- The other fields are what the defaults make them. -/
theorem security_resolved (platform : Platform) (config : Config) :
    (resolved platform config).security = (setDefaults platform config).security := by
  simp only [resolved]
  split <;> rfl

/-- Defaults do not switch encryption on or off. -/
theorem encryption_enabled_resolved (platform : Platform) (config : Config) :
    (resolved platform config).security.encryption.enabled =
      config.security.encryption.enabled := by
  rw [security_resolved]
  cases enabled : config.security.encryption.enabled <;>
    simp [setDefaults, EncryptionConfig.setDefaults, enabled, defaultSecurityConfig]

/-- Defaults do not change a type of authentication that is given. -/
theorem auth_type_resolved {platform : Platform} {config : Config}
    (given : config.security.auth.type ≠ "") :
    (resolved platform config).security.auth.type = config.security.auth.type := by
  rw [security_resolved]
  simp [setDefaults, AuthConfig.setDefaults, orElse, given]

/-- An error, with the step it comes from. -/
def wrap {α : Type} (context : String) : Except String α → Except String α
  | .ok value => .ok value
  | .error message => .error (context ++ message)

@[simp]
theorem wrap_eq_ok_iff {α : Type} {context : String} {result : Except String α} {value : α} :
    wrap context result = .ok value ↔ result = .ok value := by
  cases result <;> simp [wrap]

/-- A file is read, parsed and completed. -/
def loadConfig (platform : Platform) (unmarshal : String → Except String Config)
    (file : Except String String) : Except String Config := do
  let data ← wrap "error reading config file: " file
  let config ← wrap "error parsing config file: " (unmarshal data)
  complete platform config

theorem complete_eq_ok_iff {platform : Platform} {raw config : Config} :
    complete platform raw = .ok config ↔
      validate platform (resolved platform raw) = .ok () ∧ resolved platform raw = config := by
  unfold complete
  cases validate platform (resolved platform raw) with
  | error message => simp [bind, Except.bind]
  | ok result => simp [bind, Except.bind, pure, Except.pure]

/-- A file that has been read and parsed is completed. -/
theorem loadConfig_ok_eq {platform : Platform} {unmarshal : String → Except String Config}
    {data : String} {raw : Config} (parsed : unmarshal data = .ok raw) :
    loadConfig platform unmarshal (.ok data) = complete platform raw := by
  simp [loadConfig, wrap, parsed, bind, Except.bind]

theorem loadConfig_ok_eq_ok_iff {platform : Platform} {unmarshal : String → Except String Config}
    {data : String} {config : Config} :
    loadConfig platform unmarshal (.ok data) = .ok config ↔
      ∃ raw, unmarshal data = .ok raw ∧ complete platform raw = .ok config := by
  cases parsed : unmarshal data with
  | error message => simp [loadConfig, wrap, parsed, bind, Except.bind]
  | ok raw => simp [loadConfig_ok_eq parsed]

end Tailpost.Configuration
