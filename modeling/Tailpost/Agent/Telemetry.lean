import Tailpost.Reader.Factory
import Tailpost.Sender.Delivery

/-!
# Telemetry next to log delivery

`main` sets telemetry up before it creates the reader and the sender.  A failure is
logged as a warning, and the agent goes on with a manager that has no tracer.  The
processing goroutine asks the manager for its tracer whenever a line arrives, so it
panics at the first line when the manager was left without one.

What the OpenTelemetry libraries return is a parameter.
-/

namespace Tailpost.Agent

open Tailpost.Configuration
open Tailpost.Hoare (Failure bind_eq_ok_iff)
open Tailpost.Delivery (orFail setupLogSender)
open Tailpost.Reader (LogReader selectReader)

/-! ## Setting telemetry up -/

/-- The protocols of the exporter. -/
inductive Protocol
  | grpc
  | http
  deriving DecidableEq

/-- Whether the OpenTelemetry libraries can create a resource with attributes, with or
without a description of the runtime and the library, and an exporter to an endpoint
with headers. -/
structure OpenTelemetry where
  newResource : Bool → List (String × String) → Except String Unit
  newExporter : Protocol → String → StringMap → Except String Unit

/-- The attributes that name the service. -/
def serviceAttributes (name version : String) : List (String × String) :=
  [("service.name", name), ("service.version", version)]

/-- `telemetry.Setup`, which sets the global provider.  Every type other than `grpc`
counts as `http`. -/
def setup (library : OpenTelemetry) (telemetry : TelemetryConfig) : Except String Unit :=
  if telemetry.enabled then do
    library.newResource true
      (serviceAttributes telemetry.serviceName telemetry.serviceVersion ++
        telemetry.attributes.entries)
    library.newExporter (if telemetry.exporterType = "grpc" then .grpc else .http)
      telemetry.exporterEndpoint .empty
  else
    .ok ()

/-- The configuration of the observability package. -/
structure ObservabilityConfig where
  enabled : Bool
  serviceName : String
  serviceVersion : String
  exporterType : String
  endpoint : String
  samplingRate : Float64
  headers : StringMap

/-- One tenth. -/
def defaultSamplingRate : Float64 :=
  ⟨0x3FB999999999999A⟩

/-- The defaults of the telemetry package, which are not those of the
configuration. -/
def ObservabilityConfig.setDefaults (config : ObservabilityConfig) : ObservabilityConfig :=
  { config with
    serviceName := orElse "" config.serviceName "tailpost-agent"
    serviceVersion := orElse "" config.serviceVersion "unknown"
    exporterType := orElse "" config.exporterType "grpc"
    endpoint := orElse "" config.endpoint "localhost:4317"
    samplingRate :=
      if config.samplingRate.isZero then defaultSamplingRate else config.samplingRate }

/-- What `Tracer` returns when it is not nil. -/
inductive Tracer
  | noop
  | exporting (protocol : Protocol)
  deriving DecidableEq

/-- The manager, with its tracer once it is started. -/
structure TelemetryManager where
  config : ObservabilityConfig
  tracer : Option Tracer

/-- A manager that is not started. -/
def newTelemetryManager (config : ObservabilityConfig) : TelemetryManager where
  config := config.setDefaults
  tracer := none

namespace TelemetryManager

/-- The tracer of a protocol, or the error of its exporter. -/
def exportingTracer (library : OpenTelemetry) (manager : TelemetryManager) (protocol : Protocol) :
    Except String Tracer := do
  wrap "failed to create exporter: "
    (library.newExporter protocol manager.config.endpoint manager.config.headers)
  return .exporting protocol

/-- The tracer for the type of exporter. -/
def tracerOfType (library : OpenTelemetry) (manager : TelemetryManager) : Except String Tracer :=
  if manager.config.exporterType = "grpc" then
    manager.exportingTracer library .grpc
  else if manager.config.exporterType = "http" then
    manager.exportingTracer library .http
  else if manager.config.exporterType = "none" then
    .ok .noop
  else
    .error ("unknown exporter type: " ++ manager.config.exporterType)

/-- The tracer of a manager: a disabled one exports nothing. -/
def newTracer (library : OpenTelemetry) (manager : TelemetryManager) : Except String Tracer :=
  if manager.config.enabled then do
    wrap "failed to create resource: " (library.newResource false
      (serviceAttributes manager.config.serviceName manager.config.serviceVersion ++
        [("environment", "production")]))
    manager.tracerOfType library
  else
    .ok .noop

/-- `Start` leaves the manager as it was when it returns an error. -/
def start (library : OpenTelemetry) (manager : TelemetryManager) :
    TelemetryManager × Except String Unit :=
  match manager.newTracer library with
  | .ok tracer => ({ manager with tracer := some tracer }, .ok ())
  | .error message => (manager, .error message)

end TelemetryManager

/-- The section `telemetry` as the telemetry package takes it. -/
def observabilityConfig (telemetry : TelemetryConfig) : ObservabilityConfig where
  enabled := telemetry.enabled
  serviceName := telemetry.serviceName
  serviceVersion := telemetry.serviceVersion
  exporterType := telemetry.exporterType
  endpoint := telemetry.exporterEndpoint
  samplingRate := telemetry.samplingRate
  headers := telemetry.attributes

/-- The warning that `main` logs for a step of the set-up. -/
def warning (text : String) : Except String Unit → List (String × String)
  | .ok _ => []
  | .error message => [(text, message)]

/-- The manager that `main` goes on with, and the warnings. -/
def initializeTelemetry (library : OpenTelemetry) (telemetry : TelemetryConfig) :
    Option TelemetryManager × List (String × String) :=
  if telemetry.enabled then
    let started := (newTelemetryManager (observabilityConfig telemetry)).start library
    (some started.1,
      warning "Failed to initialize OpenTelemetry" (setup library telemetry) ++
        warning "Failed to initialize observability manager" started.2)
  else
    (none, [])

/-! ## The agent -/

/-- The components that `main` connects. -/
structure Components where
  telemetryManager : Option TelemetryManager
  logReader : LogReader
  httpSender : Delivery.HTTPSender

/-- `client` says whether a Kubernetes client can be created. -/
def createComponents (platform : Platform) (client : Except String Unit)
    (environment : Security.Environment) (library : OpenTelemetry) (config : Config) :
    Except Failure Components := do
  let telemetryManager := (initializeTelemetry library config.telemetry).1
  let logReader ← orFail (selectReader platform client config)
  let httpSender ← setupLogSender environment config
  return ⟨telemetryManager, logReader, httpSender⟩

section Processing

variable {α : Type}

/-- What the `select` of the processing goroutine receives. -/
inductive Event (α : Type)
  /-- The context is cancelled. -/
  | done
  | line (text : α)
  /-- The channel of the reader is closed. -/
  | closed

/-- A call of the sender. -/
inductive Call (α : Type)
  | send (text : α)
  | sendWithContext (text : α)
  deriving DecidableEq

/-- The line that the call brings. -/
def Call.text : Call α → α
  | .send text | .sendWithContext text => text

/-- What the processing goroutine did. -/
structure Processed (α : Type) where
  calls : List (Call α)
  panicked : Bool
  deriving DecidableEq

/-- The call for one line.  A nil tracer is called as well, which panics. -/
def processLine (telemetryManager : Option TelemetryManager) (text : α) :
    Except Failure (Call α) :=
  match telemetryManager with
  | none => .ok (.send text)
  | some manager =>
      match manager.tracer with
      | none => .error .panic
      | some _ => .ok (.sendWithContext text)

/-- The loop of the processing goroutine. -/
def processLines (telemetryManager : Option TelemetryManager) : List (Event α) → Processed α
  | [] | .done :: _ | .closed :: _ => ⟨[], false⟩
  | .line text :: events =>
      match processLine telemetryManager text with
      | .error _ => ⟨[], true⟩
      | .ok call =>
          let rest := processLines telemetryManager events
          { rest with calls := call :: rest.calls }

/-- The lines that arrive before the loop ends. -/
def arriving : List (Event α) → List α
  | [] | .done :: _ | .closed :: _ => []
  | .line text :: events => text :: arriving events

/-- The manager, if there is one, has a tracer. -/
def Traces : Option TelemetryManager → Prop
  | none => True
  | some manager => manager.tracer ≠ none

theorem processLine_of_traces {telemetryManager : Option TelemetryManager}
    (traces : Traces telemetryManager) (text : α) :
    ∃ call, processLine telemetryManager text = .ok call ∧ call.text = text := by
  cases telemetryManager with
  | none => exact ⟨.send text, rfl, rfl⟩
  | some manager =>
      cases tracer : manager.tracer with
      | none => exact absurd tracer traces
      | some value => exact ⟨.sendWithContext text, by simp [processLine, tracer], rfl⟩

theorem processLine_of_not_traces {telemetryManager : Option TelemetryManager}
    (untraced : ¬ Traces telemetryManager) (text : α) :
    processLine telemetryManager text = .error .panic := by
  cases telemetryManager with
  | none => exact absurd trivial untraced
  | some manager =>
      cases tracer : manager.tracer with
      | none => simp [processLine, tracer]
      | some value => exact absurd (by simp [Traces, tracer]) untraced

/-- A loop that can ask for a tracer passes every line on. -/
theorem processLines_of_traces {telemetryManager : Option TelemetryManager}
    (traces : Traces telemetryManager) (events : List (Event α)) :
    (processLines telemetryManager events).calls.map Call.text = arriving events ∧
      (processLines telemetryManager events).panicked = false := by
  induction events with
  | nil => exact ⟨rfl, rfl⟩
  | cons event events inductionHypothesis =>
      cases event with
      | done | closed => exact ⟨rfl, rfl⟩
      | line text =>
          rcases processLine_of_traces traces text with ⟨call, passed, rfl⟩
          simpa [processLines, passed, arriving] using inductionHypothesis

/-- Without a tracer the first line is not passed on. -/
theorem processLines_of_not_traces {telemetryManager : Option TelemetryManager}
    (untraced : ¬ Traces telemetryManager) (events : List (Event α)) :
    (processLines telemetryManager events).panicked = true ↔ arriving events ≠ [] := by
  cases events with
  | nil => simp [processLines, arriving]
  | cons event events =>
      cases event with
      | done | closed => simp [processLines, arriving]
      | line text => simp [processLines, arriving, processLine_of_not_traces untraced text]

end Processing

/-! ## Two configurations -/

/-- The exporter that a configuration asks for can be created; `none` asks for no
exporter. -/
inductive Exports (library : OpenTelemetry) (telemetry : TelemetryConfig) : Prop
  | grpc (type : telemetry.exporterType = "grpc")
      (created : library.newExporter .grpc telemetry.exporterEndpoint telemetry.attributes = .ok ())
  | http (type : telemetry.exporterType = "http")
      (created : library.newExporter .http telemetry.exporterEndpoint telemetry.attributes = .ok ())
  | none (type : telemetry.exporterType = "none")

/-- Telemetry is disabled, or the resource and the exporter can be created. -/
inductive Available (library : OpenTelemetry) (telemetry : TelemetryConfig) : Prop
  | disabled (given : telemetry.enabled = false)
  | enabled
      (described : library.newResource false
        (serviceAttributes telemetry.serviceName telemetry.serviceVersion ++
          [("environment", "production")]) = .ok ())
      (exports : Exports library telemetry)

theorem TelemetryManager.exists_exportingTracer_iff {library : OpenTelemetry}
    {manager : TelemetryManager} {protocol : Protocol} :
    (∃ tracer, manager.exportingTracer library protocol = .ok tracer) ↔
      library.newExporter protocol manager.config.endpoint manager.config.headers = .ok () := by
  simp only [exportingTracer, bind_eq_ok_iff, wrap_eq_ok_iff]
  constructor
  · rintro ⟨tracer, _, created, _⟩
    exact created
  · intro created
    exact ⟨_, (), created, rfl⟩

theorem TelemetryManager.traces_start_iff {library : OpenTelemetry} {manager : TelemetryManager}
    (fresh : manager.tracer = none) :
    Traces (some (manager.start library).1) ↔ ∃ tracer, manager.newTracer library = .ok tracer := by
  unfold TelemetryManager.start
  cases manager.newTracer library with
  | error message => simp [Traces, fresh]
  | ok tracer => simp [Traces]

/-- A value that has got one default does not get another. -/
theorem orElse_orElse {value first second : String} (given : first ≠ "") :
    orElse "" (orElse "" value first) second = orElse "" value first := by
  have filled : orElse "" value first ≠ "" := by
    unfold orElse
    split
    next => exact given
    next present => exact present
  rw [orElse, if_neg filled]

/-- `LoadConfig` leaves no field empty for which the manager has another default. -/
theorem setDefaults_observabilityConfig {telemetry : TelemetryConfig}
    (enabled : telemetry.enabled = true) :
    (observabilityConfig telemetry.setDefaults).setDefaults =
      observabilityConfig telemetry.setDefaults := by
  have rate : (if telemetry.samplingRate.isZero then Float64.one
      else telemetry.samplingRate).isZero = false := by
    cases zero : telemetry.samplingRate.isZero with
    | false => simpa using zero
    | true => rfl
  simp [ObservabilityConfig.setDefaults, observabilityConfig, TelemetryConfig.setDefaults,
    enabled, defaultTelemetryConfig, orElse_orElse, rate]

theorem exists_tracerOfType_iff {library : OpenTelemetry} {telemetry : TelemetryConfig}
    {manager : TelemetryManager} (configured : manager.config = observabilityConfig telemetry) :
    (∃ tracer, manager.tracerOfType library = .ok tracer) ↔ Exports library telemetry := by
  have creates : ∀ protocol, (∃ tracer, manager.exportingTracer library protocol = .ok tracer) ↔
      library.newExporter protocol telemetry.exporterEndpoint telemetry.attributes = .ok () := by
    intro protocol
    rw [TelemetryManager.exists_exportingTracer_iff, configured]
    rfl
  have type : manager.config.exporterType = telemetry.exporterType := by
    rw [configured]
    rfl
  unfold TelemetryManager.tracerOfType
  rw [type]
  constructor
  · rintro ⟨tracer, made⟩
    split at made
    next grpc => exact .grpc grpc ((creates .grpc).mp ⟨tracer, made⟩)
    next =>
      split at made
      next http => exact .http http ((creates .http).mp ⟨tracer, made⟩)
      next =>
        split at made
        next none => exact .none none
        next => contradiction
  · intro exports
    cases exports with
    | grpc given created =>
        rw [if_pos given]
        exact (creates .grpc).mpr created
    | http given created =>
        rw [given]
        exact (creates .http).mpr created
    | none given =>
        rw [given]
        exact ⟨.noop, rfl⟩

theorem exists_newTracer_iff {library : OpenTelemetry} {telemetry : TelemetryConfig}
    {manager : TelemetryManager} (configured : manager.config = observabilityConfig telemetry)
    (enabled : telemetry.enabled = true) :
    (∃ tracer, manager.newTracer library = .ok tracer) ↔ Available library telemetry := by
  have asked : manager.config.enabled = true := by
    rw [configured]
    exact enabled
  simp only [TelemetryManager.newTracer, asked, if_true, bind_eq_ok_iff, wrap_eq_ok_iff]
  constructor
  · rintro ⟨tracer, _, described, made⟩
    rw [configured] at described
    exact .enabled described ((exists_tracerOfType_iff configured).mp ⟨tracer, made⟩)
  · intro available
    cases available with
    | disabled given => exact absurd (enabled.symm.trans given) Bool.noConfusion
    | enabled described exports =>
        rcases (exists_tracerOfType_iff configured).mpr exports with ⟨tracer, made⟩
        rw [configured]
        exact ⟨tracer, (), described, made⟩

/-- The processing goroutine can ask for a tracer if and only if telemetry is disabled
or available. -/
theorem traces_initializeTelemetry_iff {library : OpenTelemetry} (telemetry : TelemetryConfig) :
    Traces (initializeTelemetry library telemetry.setDefaults).1 ↔
      Available library telemetry.setDefaults := by
  unfold initializeTelemetry
  cases given : telemetry.enabled with
  | false =>
      have disabled : telemetry.setDefaults.enabled = false := by
        simp [TelemetryConfig.setDefaults, given, defaultTelemetryConfig]
      rw [if_neg (by simp [disabled])]
      exact ⟨fun _ => .disabled disabled, fun _ => trivial⟩
  | true =>
      have enabled : telemetry.setDefaults.enabled = true := by
        simp [TelemetryConfig.setDefaults, given]
      rw [if_pos enabled]
      exact (TelemetryManager.traces_start_iff rfl).trans
        (exists_newTracer_iff (setDefaults_observabilityConfig given) enabled)

/-- The telemetry section has no influence on the rest of a configuration. -/
theorem resolved_telemetry (platform : Platform) (raw : Config) (telemetry : TelemetryConfig) :
    resolved platform { raw with telemetry := telemetry } =
      { resolved platform raw with telemetry := telemetry.setDefaults } := by
  have same : (setDefaults platform { raw with telemetry := telemetry }).logSourceType =
      (setDefaults platform raw).logSourceType :=
    rfl
  simp only [resolved, same]
  by_cases file : (setDefaults platform raw).logSourceType = fileLogSource
  · simp only [if_pos file]
    rfl
  · simp only [if_neg file]
    rfl

theorem telemetry_resolved (platform : Platform) (raw : Config) :
    (resolved platform raw).telemetry = raw.telemetry.setDefaults := by
  simp only [resolved]
  split <;> rfl

theorem createComponents_eq_ok {platform : Platform} {client : Except String Unit}
    {environment : Security.Environment} {library : OpenTelemetry} {config : Config}
    {components : Components}
    (created : createComponents platform client environment library config = .ok components) :
    components.telemetryManager = (initializeTelemetry library config.telemetry).1 ∧
      selectReader platform client config = .ok components.logReader ∧
      setupLogSender environment config = .ok components.httpSender := by
  simp only [createComponents, bind_eq_ok_iff, Delivery.orFail_eq_ok_iff] at created
  rcases created with ⟨logReader, selected, httpSender, built, made⟩
  cases made
  exact ⟨rfl, selected, built⟩

section Created

variable {platform : Platform} {client : Except String Unit} {environment : Security.Environment}
  {raw : Config}

theorem traces_telemetryManager_iff {library : OpenTelemetry} {config : Config}
    {components : Components} (accepted : complete platform raw = .ok config)
    (created : createComponents platform client environment library config = .ok components) :
    Traces components.telemetryManager ↔ Available library config.telemetry := by
  obtain rfl := (complete_eq_ok_iff.mp accepted).2
  rw [(createComponents_eq_ok created).1, telemetry_resolved, traces_initializeTelemetry_iff]

/-- Whether an agent is created does not depend on its telemetry section, and neither do
its reader and its sender. -/
theorem exists_createComponents {firstLibrary secondLibrary : OpenTelemetry}
    {firstTelemetry secondTelemetry : TelemetryConfig} {firstConfig secondConfig : Config}
    {first : Components}
    (firstAccepted : complete platform { raw with telemetry := firstTelemetry } = .ok firstConfig)
    (secondAccepted :
      complete platform { raw with telemetry := secondTelemetry } = .ok secondConfig)
    (firstCreated :
      createComponents platform client environment firstLibrary firstConfig = .ok first) :
    ∃ second, createComponents platform client environment secondLibrary secondConfig =
        .ok second ∧
      first.logReader = second.logReader ∧ first.httpSender = second.httpSender := by
  obtain rfl := (complete_eq_ok_iff.mp firstAccepted).2
  obtain rfl := (complete_eq_ok_iff.mp secondAccepted).2
  rw [resolved_telemetry] at firstCreated ⊢
  rcases createComponents_eq_ok firstCreated with ⟨_, selected, built⟩
  refine ⟨⟨(initializeTelemetry secondLibrary secondTelemetry.setDefaults).1,
    first.logReader, first.httpSender⟩, ?_, rfl, rfl⟩
  simp only [createComponents, bind_eq_ok_iff, Delivery.orFail_eq_ok_iff]
  exact ⟨first.logReader, selected, first.httpSender, built, rfl⟩

end Created

/-- Two agents have the same reader and the same sender, and pass the same lines on
without a panic. -/
structure Undisturbed {α : Type} (first second : Components) (events : List (Event α)) : Prop where
  logReader : first.logReader = second.logReader
  httpSender : first.httpSender = second.httpSender
  lines : (processLines first.telemetryManager events).calls.map Call.text =
    (processLines second.telemetryManager events).calls.map Call.text
  first_runs : (processLines first.telemetryManager events).panicked = false
  second_runs : (processLines second.telemetryManager events).panicked = false

theorem processLines_of_arriving_eq_nil {α : Type} {telemetryManager : Option TelemetryManager}
    {events : List (Event α)} (quiet : arriving events = []) :
    processLines telemetryManager events = ⟨[], false⟩ := by
  cases events with
  | nil => rfl
  | cons event events =>
      cases event with
      | done | closed => rfl
      | line text => contradiction

theorem traces_or_quiet {α : Type} {telemetryManager : Option TelemetryManager}
    {events : List (Event α)}
    (runs : (processLines telemetryManager events).panicked = false) :
    Traces telemetryManager ∨ arriving events = [] := by
  by_contra neither
  rw [not_or] at neither
  have panicked := (processLines_of_not_traces neither.1 events).mpr neither.2
  exact absurd (runs.symm.trans panicked) Bool.noConfusion

/-- Agents whose configurations differ in the telemetry section are created both or not
at all, and do the same if and only if no line arrives or telemetry is disabled or
available in both of them. -/
theorem undisturbed_iff {α : Type} {platform : Platform} {client : Except String Unit}
    {environment : Security.Environment} {firstLibrary secondLibrary : OpenTelemetry}
    {raw firstConfig secondConfig : Config} {firstTelemetry secondTelemetry : TelemetryConfig}
    {first : Components}
    (firstAccepted : complete platform { raw with telemetry := firstTelemetry } = .ok firstConfig)
    (secondAccepted :
      complete platform { raw with telemetry := secondTelemetry } = .ok secondConfig)
    (firstCreated :
      createComponents platform client environment firstLibrary firstConfig = .ok first) :
    ∃ second, createComponents platform client environment secondLibrary secondConfig =
        .ok second ∧
      ∀ events : List (Event α), Undisturbed first second events ↔
        arriving events = [] ∨
          (Available firstLibrary firstConfig.telemetry ∧
            Available secondLibrary secondConfig.telemetry) := by
  obtain ⟨second, secondCreated, sameReader, sameSender⟩ :=
    exists_createComponents firstAccepted secondAccepted firstCreated
  refine ⟨second, secondCreated, fun events => ?_⟩
  have firstReady := traces_telemetryManager_iff firstAccepted firstCreated
  have secondReady := traces_telemetryManager_iff secondAccepted secondCreated
  rw [← firstReady, ← secondReady]
  constructor
  · intro undisturbed
    rcases traces_or_quiet undisturbed.first_runs with firstTraces | quiet
    · rcases traces_or_quiet undisturbed.second_runs with secondTraces | quiet
      · exact .inr ⟨firstTraces, secondTraces⟩
      · exact .inl quiet
    · exact .inl quiet
  · rintro (quiet | ⟨firstTraces, secondTraces⟩)
    · refine ⟨sameReader, sameSender, ?_, ?_, ?_⟩ <;>
        simp only [processLines_of_arriving_eq_nil quiet]
    · rcases processLines_of_traces firstTraces events with ⟨firstLines, firstRuns⟩
      rcases processLines_of_traces secondTraces events with ⟨secondLines, secondRuns⟩
      exact ⟨sameReader, sameSender, firstLines.trans secondLines.symm, firstRuns, secondRuns⟩

/-- A library that creates whatever it is asked for. -/
def workingLibrary : OpenTelemetry where
  newResource := fun _ _ => .ok ()
  newExporter := fun _ _ _ => .ok ()

/-- A file that names a server. -/
def agentConfig : Config where
  serverURL := "http://logs:8080"

/-- Telemetry that exports over HTTP. -/
def httpTelemetry : TelemetryConfig where
  enabled := true

/-- The section of the lifecycle test. -/
def consoleTelemetry : TelemetryConfig where
  enabled := true
  serviceName := "test-agent"
  serviceVersion := "1.0.0"
  exporterType := "console"
  samplingRate := .one
  attributes := ⟨[("environment", "test")], by decide⟩

/-- Telemetry that exports over HTTP does not disturb an agent. -/
theorem undisturbed_iff_http :
    ∃ first second,
      createComponents .linux (.ok ()) Delivery.sampleEnvironment workingLibrary
        (resolved .linux agentConfig) = .ok first ∧
      createComponents .linux (.ok ()) Delivery.sampleEnvironment workingLibrary
        (resolved .linux { agentConfig with telemetry := httpTelemetry }) = .ok second ∧
      Undisturbed first second [.line "one", .line "two", .closed] := by
  obtain ⟨second, created, same⟩ := @undisturbed_iff String .linux (.ok ())
    Delivery.sampleEnvironment workingLibrary workingLibrary agentConfig
    (resolved .linux agentConfig)
    (resolved .linux { agentConfig with telemetry := httpTelemetry }) {} httpTelemetry _
    (by decide) (by decide) rfl
  refine ⟨_, second, rfl, created, (same _).mpr (.inr ⟨.disabled (by decide), ?_⟩)⟩
  exact .enabled rfl (.http (by decide) rfl)

/-- The agent with the section of the lifecycle test panics at the first line. -/
theorem console_exporter_panics :
    complete .linux agentConfig = .ok (resolved .linux agentConfig) ∧
      complete .linux { agentConfig with telemetry := consoleTelemetry } =
        .ok (resolved .linux { agentConfig with telemetry := consoleTelemetry }) ∧
      ∃ first second,
        createComponents .linux (.ok ()) Delivery.sampleEnvironment workingLibrary
          (resolved .linux agentConfig) = .ok first ∧
        createComponents .linux (.ok ()) Delivery.sampleEnvironment workingLibrary
          (resolved .linux { agentConfig with telemetry := consoleTelemetry }) = .ok second ∧
        processLines first.telemetryManager [.line "one", .closed] = ⟨[.send "one"], false⟩ ∧
        processLines second.telemetryManager [.line "one", .closed] = ⟨[], true⟩ ∧
        ¬ Undisturbed first second [.line "one", .closed] :=
  ⟨by decide, by decide, _, _, rfl, rfl, by decide, by decide,
    fun undisturbed => absurd undisturbed.second_runs (by decide)⟩

end Tailpost.Agent
