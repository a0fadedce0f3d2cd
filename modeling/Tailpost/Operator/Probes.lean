import Tailpost.Operator.ConfigText
import Tailpost.Operator.History
import Tailpost.Operator.HostPaths
import Tailpost.Reader.Factory
import Tailpost.Security.TLS

/-!
# Probes

The kubelet asks every pod whether it is alive and whether it is ready, on a port, with a
scheme and on a path that the operator wrote into the StatefulSet.  The agent in the pod
listens where its command line says, in the way its config file says, and both of these come
from the operator as well, the file perhaps from another version of the agent.  It listens
only as long as it runs: a file it cannot load or a log it cannot open ends the process.
-/

namespace Tailpost.Operator

open Tailpost.Configuration
open Tailpost.Delivery
open Tailpost.Health
open Tailpost.Hoare
open Tailpost.Reader (LogReader selectReader selectReader_file)
open Tailpost.Security
open Tailpost.Utf8 (Bytes)
open Tailpost.Yaml

/-! ## The command line -/

/-- The flags of the agent, with their defaults. -/
structure Flags where
  config : String := "config.yaml"
  metricsAddr : String := ":8080"
  logLevel : String := "info"
  logFormat : String := "json"
  deriving DecidableEq

/-- A flag that is not defined ends the program. -/
def Flags.set (flags : Flags) (name : List Char) (value : String) : Option Flags :=
  if name = "config".toList then some { flags with config := value }
  else if name = "metrics-addr".toList then some { flags with metricsAddr := value }
  else if name = "log-level".toList then some { flags with logLevel := value }
  else if name = "log-format".toList then some { flags with logFormat := value }
  else none

/-- What an argument is for the package `flag`. -/
inductive Argument
  /-- Flags end here. -/
  | other
  | bad
  | flag (name : List Char) (value : Option String)

/-- The text of a flag behind its dashes. -/
def readFlag (text : List Char) : Argument :=
  match text with
  | [] => .bad
  | first :: rest =>
      if first = '-' ∨ first = '=' then
        .bad
      else
        let name := first :: rest.takeWhile (· ≠ '=')
        match rest.dropWhile (· ≠ '=') with
        | [] => .flag name none
        | _ :: value => .flag name (some (.ofList value))

/-- Flags have one dash or two; two dashes alone end them. -/
def readArgument (argument : String) : Argument :=
  match argument.toList with
  | ['-', '-'] => .other
  | '-' :: '-' :: text => readFlag text
  | '-' :: first :: text => readFlag (first :: text)
  | _ => .other

/-- `flag.Parse`; a flag without a value of its own takes the next argument. -/
def parseFlags (flags : Flags) : List String → Option Flags
  | [] => some flags
  | argument :: rest =>
      match readArgument argument with
      | .other => some flags
      | .bad => none
      | .flag name (some value) => (flags.set name value).bind fun flags => parseFlags flags rest
      | .flag name none =>
          match rest with
          | [] => none
          | value :: rest => (flags.set name value).bind fun flags => parseFlags flags rest

/-! ## Requests -/

/-- The port of an address. -/
def portOf (address : String) : Nat :=
  Nat.ofDigitChars 10 (address.toList.reverse.takeWhile (· ≠ ':')).reverse 0

/-- What is served under a path. -/
def endpointOf (path : String) : Option Endpoint :=
  if path = "/health" then some .health
  else if path = "/ready" then some .ready
  else if path = "/metrics" then some .metrics
  else none

/-- The status code of an answer. -/
def codeOf : Reply Health.Response → Nat
  | .refused status _ => status
  | .handled response => response.status

/-- The code of the answer to a request without a header, if there is one. -/
def respond (host : Host) (server : HealthServer) (timestamp scheme path : String) : Option Nat :=
  if Listens host server then
    if (scheme = "HTTPS") ≠ (server.useTLS = true) then
      -- a plain request to a secure server is answered, the opposite is not
      if server.useTLS then some 400 else none
    else
      match endpointOf path with
      | some endpoint => some (codeOf (server.serve timestamp endpoint []))
      | none => some 404
  else
    none

/-- A probe succeeds with a code from `200` to `399`; a process that has ended gives none. -/
def Succeeds (host : Host) (process : Option HealthServer) (timestamp : String)
    (probe : Probe) : Prop :=
  ∃ server, process = some server ∧ probe.port.toInt = portOf server.listenAddr ∧
    ∃ code, respond host server timestamp probe.scheme probe.path = some code ∧
      200 ≤ code ∧ code < 400

/-! ## Starting up -/

/-- What the agent finds where it runs. -/
structure Site where
  host : Host
  getenv : String → Bytes
  /-- The time in seconds. -/
  unix : Nat
  /-- Creating a Kubernetes client. -/
  client : Except String Unit
  /-- `os.Open`, and seeking to the end. -/
  openFile : String → Except String Unit
  /-- Starting the command that prints the logs of macOS. -/
  logStream : String → Except String Unit

/-- `Start` of a reader; a container or an event log is first asked for later. -/
def Site.startLogReader (site : Site) : LogReader → Except String Unit
  | .file path => wrap "error opening file: " (site.openFile path)
  | .container _ _ _ => .ok ()
  | .windowsEvent _ _ => .ok ()
  | .macOS query => site.logStream query

/-- The start-up of the agent, with the health server that it leaves; an error, or a panic,
ends the process, the health server with it. -/
def start (site : Site) (flags : Flags) (loaded : Except String Config) :
    Option HealthServer := do
  let config ← loaded.toOption
  let server ← (setupHealthServer site.host.files flags.metricsAddr config).toOption
  let logReader ← (selectReader .linux site.client config).toOption
  let _ ← (setupLogSender (site.host.environment site.getenv site.unix) config).toOption
  let _ ← (site.startLogReader logReader).toOption
  return server

/-- The config file loads, and the log that it names can be opened. -/
def Runs (site : Site) (loaded : Except String Config) : Prop :=
  ∃ config, loaded = .ok config ∧ site.openFile config.logPath = .ok ()

/-- Without security, and with a batch that the machine has room for, the sender is built. -/
theorem exists_setupLogSender {environment : Environment} {url path : String}
    {size duration : Int} (positive : 0 < size) (small : size < 2 ^ 31) :
    ∃ sender, setupLogSender environment (defaultsWith url size duration path) = .ok sender := by
  have made : makeBatch size = .ok () := by
    have room : 0 ≤ size ∧ size * 16 ≤ maxAlloc := by
      rw [maxAlloc]
      omega
    rw [makeBatch, if_pos room]
  have kept := Sender.HTTPSender.effectiveBatchSize_of_pos positive
  have built : setupLogSender environment (defaultsWith url size duration path) =
      newHTTPSender url size duration := rfl
  simp only [built, newHTTPSender, kept, made]
  exact ⟨_, rfl⟩

/-- An agent that reads a file, without security, runs if it can open the file. -/
theorem start_defaultsWith {site : Site} {flags : Flags} {url path : String}
    {size duration : Int} (positive : 0 < size) (small : size < 2 ^ 31) (named : path ≠ "") :
    start site flags (.ok (defaultsWith url size duration path)) =
      (site.openFile path).toOption.map fun _ => newHealthServer flags.metricsAddr := by
  have setup : setupHealthServer site.host.files flags.metricsAddr
      (defaultsWith url size duration path) = .ok (newHealthServer flags.metricsAddr) := rfl
  have selected : selectReader .linux site.client (defaultsWith url size duration path) =
      .ok (.file path) :=
    selectReader_file rfl named
  obtain ⟨sender, built⟩ := @exists_setupLogSender
    (site.host.environment site.getenv site.unix) url path size duration positive small
  have ran : start site flags (.ok (defaultsWith url size duration path)) =
      (site.startLogReader (.file path)).toOption.map fun _ =>
        newHealthServer flags.metricsAddr := by
    simp [start, Except.toOption, setup, selected, built, Option.map_eq_bind]
  rw [ran, Site.startLogReader]
  cases site.openFile path <;> rfl

/-! ## The agent in a pod -/

/-- The schema admits the agent, and its texts need no quotes in the config file. -/
structure Unquoted (agent : TailpostAgent) : Prop where
  admitted : Admitted agent.spec
  url : ∃ value comment, TakenAs agent.spec.serverURL value comment
  path : ∃ path : Option (String × Option String),
    Option.Rel (fun text path => TakenAs text path.1 path.2) (logPath agent.spec.logSources) path

/-- What a generated file sets; it says nothing about security. -/
theorem exists_defaultsWith_of_load {unmarshal : String → Except String Config}
    {r : TailpostAgentReconciler} {order : Iteration} {agent : TailpostAgent}
    {configMap live : ConfigMap} {config : Config} (standard : StandardYaml unmarshal)
    (unquoted : Unquoted agent) (created : createConfigMap order (filled r agent) = .ok configMap)
    (same : live.data = configMap.data) (loaded : load unmarshal live = .ok config) :
    ∃ url size duration path, config = defaultsWith url size duration path ∧ 0 < size ∧
      size < 2 ^ 31 ∧ path ≠ "" := by
  obtain ⟨urlValue, urlComment, url⟩ := unquoted.url
  obtain ⟨path, file⟩ := unquoted.path
  obtain ⟨size, sized, rfl⟩ := createConfigMap_eq_ok created
  obtain ⟨parts, describes, _, _, counted⟩ := unquoted.admitted.exists_describes sized url file
  have shared : load unmarshal live = load unmarshal (configMapOf order (filled r agent) size) := by
    simp only [load, same]
  have given : orElse 0 (parts.size : Int) 10 = size.toInt := by
    rw [describes.size, orElse_eq_self_iff (by decide)]
    omega
  rw [shared] at loaded
  by_cases short : parts.interval.nanoseconds < 2 ^ 63
  · rw [describes.load_of_short standard short, complete_config] at loaded
    split at loaded
    next => contradiction
    next =>
      cases loaded
      refine ⟨_, _, _, _, rfl, ?_, ?_, resolveLogPath_linux_ne_empty parts.logPath⟩
      · rw [given, describes.size]
        omega
      · rw [given]
        exact size.toInt_lt
  · obtain ⟨message, failed⟩ := describes.load_of_long standard short
    rw [failed] at loaded
    contradiction

section Plain

variable {host : Host} {server : HealthServer} {timestamp : String} {endpoint : Endpoint}

/-- A server without security answers plain requests. -/
theorem respond_plain {path : String} (plain : server.useTLS = false)
    (unchecked : server.authProvider = none) (known : endpointOf path = some endpoint) :
    respond host server timestamp "HTTP" path =
      some (server.handler timestamp endpoint []).status := by
  have listens : Listens host server := by
    intro secure
    rw [plain] at secure
    contradiction
  have matching : ¬ (("HTTP" = "HTTPS") ≠ (server.useTLS = true)) := by
    simp [plain]
  rw [respond, if_pos listens, if_neg matching, known]
  simp [HealthServer.serve, HealthServer.withAuth, unchecked, codeOf]

/-- A probe of a server without security gets the code of the handler. -/
theorem succeeds_plain_iff {probe : Probe} (plain : server.useTLS = false)
    (unchecked : server.authProvider = none) (known : endpointOf probe.path = some endpoint)
    (scheme : probe.scheme = "HTTP") (listening : probe.port.toInt = portOf server.listenAddr) :
    Succeeds host (some server) timestamp probe ↔
      200 ≤ (server.handler timestamp endpoint []).status ∧
        (server.handler timestamp endpoint []).status < 400 := by
  have answer : respond host server timestamp "HTTP" probe.path =
      some (server.handler timestamp endpoint []).status :=
    respond_plain plain unchecked known
  constructor
  · rintro ⟨_, ⟨⟩, _, code, answered, success⟩
    rw [scheme, answer, Option.some.injEq] at answered
    exact answered ▸ success
  · intro success
    exact ⟨server, rfl, listening, _, scheme ▸ answer, success⟩

end Plain

/-- What the health server says is beyond reach once the process has ended. -/
theorem not_succeeds_none {host : Host} {timestamp : String} {probe : Probe} :
    ¬ Succeeds host none timestamp probe := by
  rintro ⟨_, ended, _⟩
  contradiction

/-- An agent that reads the host's syslog under the name that its pod has for it. -/
def mountedAgent : TailpostAgent :=
  let agent := fileAgent "tailpost:1" "http://logs:8080"
  { agent with spec := { agent.spec with
    logSources := [{ type := "file", path := "/host/var/log/syslog" }] } }

/-- It is applied and reconciled. -/
def deployment : List Happening :=
  [.apply mountedAgent, .reconcile ⟨"default", "agent"⟩ (.undisturbed .asAdded)]

/-- A pod, on a host that has some files. -/
def podSite (template : PodTemplateSpec) (files : List Text.Components) : Site where
  host := sampleHost
  getenv _ := []
  unix := 0
  client := .ok ()
  openFile path :=
    if (hostFile template path).any files.contains then .ok ()
    else .error "no such file or directory"
  logStream _ := .error "executable file not found"

theorem unquoted_mountedAgent : Unquoted mountedAgent where
  admitted :=
    let tidy := admitted_fileAgent "tailpost:1" "http://logs:8080"
    { sources := List.forall_iff_forall_mem.mp (by decide)
      batchSize := tidy.batchSize
      flushInterval := tidy.flushInterval }
  url := ⟨_, _, .of_plain (by decide)⟩
  path :=
    have plain : TakenAs "/host/var/log/syslog" "/host/var/log/syslog" none := .of_plain (by decide)
    ⟨some ("/host/var/log/syslog", none), .some plain⟩

end Tailpost.Operator
