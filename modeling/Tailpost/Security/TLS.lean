import Tailpost.Health.HealthServer
import Tailpost.Reader.Factory
import Tailpost.Sender.Delivery

/-!
# Transport security

The section `tls` of the configuration has two users.  The sender gets a client
configuration from it, and fails to start when a file that it names cannot be used.  The
health server takes the names of the certificate and of its key only, and reads them when it
listens, in a goroutine whose error is logged and nothing else.
-/

namespace Tailpost.Security

open Tailpost.Configuration
open Tailpost.Delivery
open Tailpost.Health
open Tailpost.Hoare
open Tailpost.Reader (toLower)
open Tailpost.Utf8

/-- The files of a host, and what the libraries make of their contents. -/
structure Host where
  files : Files
  /-- The certificates in a PEM text. -/
  certificates : Bytes → List Bytes
  /-- A certificate and a key belong together. -/
  keyPair : Bytes → Bytes → Except String Unit

namespace Host

/-- `tls.LoadX509KeyPair`. -/
def loadX509KeyPair (host : Host) (certFile keyFile : String) : Except String (Bytes × Bytes) := do
  let certificate ← host.files certFile
  let key ← host.files keyFile
  host.keyPair certificate key
  return (certificate, key)

/-- No file has an empty name. -/
def Named (host : Host) : Prop :=
  ∀ content, host.files "" ≠ .ok content

end Host

/-! ## The client -/

/-- A `tls.Config`; a version `0` and missing authorities stand for the defaults of the
library. -/
structure ClientTLS where
  insecureSkipVerify : Bool
  serverName : String
  minVersion : UInt16
  maxVersion : UInt16
  rootCAs : Option (List Bytes)
  certificates : List (Bytes × Bytes)

/-- The number of a version; an unknown text has none. -/
def tlsVersion (text : String) : Option UInt16 :=
  if text = "tls10" then some 0x0301
  else if text = "tls11" then some 0x0302
  else if text = "tls12" then some 0x0303
  else if text = "tls13" then some 0x0304
  else none

/-- The version for a text, or the default when there is none. -/
def versionOf (message text : String) : Except String UInt16 :=
  if text = "" then
    .ok 0
  else
    match tlsVersion (toLower text) with
    | some version => .ok version
    | none => .error (message ++ text)

/-- The certificates of the CA file, of which there must be one. -/
def loadCA (host : Host) (caFile : String) : Except String (Option (List Bytes)) :=
  if caFile = "" then
    .ok none
  else do
    let caCert ← wrap "error reading CA file: " (host.files caFile)
    if host.certificates caCert = [] then
      .error "error adding CA certificate to pool"
    else
      .ok (some (host.certificates caCert))

/-- A certificate without a key is left out. -/
def loadCertificates (host : Host) (certFile keyFile : String) :
    Except String (List (Bytes × Bytes)) :=
  if certFile ≠ "" ∧ keyFile ≠ "" then do
    let certificate ← wrap "error loading client certificate and key: "
      (host.loadX509KeyPair certFile keyFile)
    return [certificate]
  else
    .ok []

/-- The client's TLS settings; none when TLS is disabled. -/
def createTLSConfig (host : Host) (tls : TLSConfig) : Except String (Option ClientTLS) :=
  if tls.enabled then do
    let minVersion ← versionOf "unsupported minimum TLS version: " tls.minVersion
    let maxVersion ← versionOf "unsupported maximum TLS version: " tls.maxVersion
    let rootCAs ← loadCA host tls.caFile
    let certificates ← loadCertificates host tls.certFile tls.keyFile
    return some ⟨tls.insecureSkipVerify, tls.serverName, minVersion, maxVersion, rootCAs,
      certificates⟩
  else
    .ok none

/-- What the process gets from the host. -/
def Host.environment (host : Host) (getenv : String → Bytes) (unix : Nat) : Environment where
  files := host.files
  getenv := getenv
  unix := unix
  createTLSConfig tls := (createTLSConfig host tls).map fun _ => ()

/-! ## The health server -/

/-- Both programs of the agent set it up in this way. -/
def setupHealthServer (files : Files) (metricsAddr : String) (config : Config) :
    Except String HealthServer :=
  if config.security.tls.enabled ∨ config.security.auth.type ≠ "none" then
    newSecureHealthServer files metricsAddr config.security
  else
    .ok (newHealthServer metricsAddr)

/-- `ListenAndServeTLS` fails without a certificate; the address is free. -/
def Listens (host : Host) (server : HealthServer) : Prop :=
  server.useTLS = true → ∃ pair, host.loadX509KeyPair server.certFile server.keyFile = .ok pair

instance (host : Host) (server : HealthServer) : Decidable (Listens host server) :=
  match loaded : host.loadX509KeyPair server.certFile server.keyFile with
  | .ok pair => isTrue fun _ => ⟨pair, loaded⟩
  | .error _ => decidable_of_iff (server.useTLS = false) (by simp [Listens, loaded])

/-- The server takes over the names of the files. -/
theorem newSecureHealthServer_tls {files : Files} {listenAddr : String}
    {security : SecurityConfig} {server : HealthServer}
    (created : newSecureHealthServer files listenAddr security = .ok server) :
    server.useTLS = security.tls.enabled ∧
      (security.tls.enabled = true →
        server.certFile = security.tls.certFile ∧ server.keyFile = security.tls.keyFile) := by
  simp only [newSecureHealthServer] at created
  split at created
  next =>
    rcases bind_eq_ok_iff.mp created with ⟨provider, _, made⟩
    cases made
    cases enabled : security.tls.enabled <;> simp [newHealthServer]
  next =>
    cases created
    cases enabled : security.tls.enabled <;> simp [newHealthServer]

section Setup

variable {host : Host} {config : Config} {metricsAddr : String} {server : HealthServer}

/-- Without transport security there is nothing to read. -/
theorem listens_of_disabled (disabled : config.security.tls.enabled = false)
    (created : setupHealthServer host.files metricsAddr config = .ok server) :
    Listens host server := by
  intro secure
  unfold setupHealthServer at created
  split at created
  next =>
    rw [(newSecureHealthServer_tls created).1, disabled] at secure
    contradiction
  next =>
    cases created
    contradiction

theorem listens_iff_of_enabled (enabled : config.security.tls.enabled = true)
    (created : setupHealthServer host.files metricsAddr config = .ok server) :
    Listens host server ↔
      ∃ pair, host.loadX509KeyPair config.security.tls.certFile config.security.tls.keyFile =
        .ok pair := by
  rw [setupHealthServer, if_pos (.inl enabled)] at created
  rcases newSecureHealthServer_tls created with ⟨secure, names⟩
  rw [Listens, secure, (names enabled).1, (names enabled).2]
  simp [enabled]

/-- A sender that was set up has loaded the certificate, if there is one with a key. -/
theorem loads_of_setupLogSender {getenv : String → Bytes} {unix : Nat} {sender : HTTPSender}
    (enabled : config.security.tls.enabled = true)
    (built : setupLogSender (host.environment getenv unix) config = .ok sender)
    (certified : config.security.tls.certFile ≠ "") (keyed : config.security.tls.keyFile ≠ "") :
    ∃ pair, host.loadX509KeyPair config.security.tls.certFile config.security.tls.keyFile =
      .ok pair := by
  rw [setupLogSender, if_pos (.inl enabled)] at built
  simp only [newSecureHTTPSender, bind_eq_ok_iff, orFail_eq_ok_iff] at built
  rcases built with ⟨_, _, _, configured, _⟩
  rw [configureTLS, if_pos enabled, wrap_eq_ok_iff] at configured
  rcases map_eq_ok_iff.mp configured with ⟨client, made, _⟩
  rw [createTLSConfig, if_pos enabled] at made
  simp only [bind_eq_ok_iff] at made
  rcases made with ⟨_, _, _, _, _, _, certificates, loaded, _⟩
  rw [loadCertificates, if_pos ⟨certified, keyed⟩] at loaded
  rcases bind_eq_ok_iff.mp loaded with ⟨pair, found, _⟩
  exact ⟨pair, wrap_eq_ok_iff.mp found⟩

theorem not_loads_of_empty (named : host.Named) (keyFile : String) (pair : Bytes × Bytes) :
    host.loadX509KeyPair "" keyFile ≠ .ok pair := by
  intro loaded
  rcases bind_eq_ok_iff.mp loaded with ⟨certificate, found, _⟩
  exact named certificate found

/-- A certificate that is named comes with the name of its key. -/
theorem keyFile_ne_empty (validated : validateTLS config = .ok ())
    (enabled : config.security.tls.enabled = true)
    (certified : config.security.tls.certFile ≠ "") : config.security.tls.keyFile ≠ "" := by
  rw [validateTLS, if_pos enabled] at validated
  rcases bind_eq_ok_iff.mp validated with ⟨_, _, keyed⟩
  rw [require_eq_ok_iff] at keyed
  intro missing
  simp [missing, certified] at keyed

end Setup

/-- Whenever an agent has set up its sender for a configuration that was accepted, its health
server listens exactly if transport security is off or comes with a certificate. -/
theorem listens_iff_certified {platform : Platform} {raw config : Config} {host : Host}
    {getenv : String → Bytes} {unix : Nat} {metricsAddr : String} {server : HealthServer}
    {sender : HTTPSender} (named : host.Named) (accepted : complete platform raw = .ok config)
    (created : setupHealthServer host.files metricsAddr config = .ok server)
    (built : setupLogSender (host.environment getenv unix) config = .ok sender) :
    Listens host server ↔
      (config.security.tls.enabled = true → config.security.tls.certFile ≠ "") := by
  have validated : validateTLS config = .ok () := by
    rcases complete_eq_ok_iff.mp accepted with ⟨valid, rfl⟩
    simp only [validate, bind_eq_ok_iff] at valid
    rcases valid with ⟨_, _, _, secured, _⟩
    exact secured
  cases enabled : config.security.tls.enabled with
  | false => simp [listens_of_disabled enabled created]
  | true =>
      rw [listens_iff_of_enabled enabled created]
      constructor
      · rintro ⟨pair, loaded⟩ _ missing
        rw [missing] at loaded
        exact not_loads_of_empty named _ _ loaded
      · intro certified
        exact loads_of_setupLogSender enabled built (certified rfl)
          (keyFile_ne_empty validated enabled (certified rfl))

/-- A host with a certificate and its key. -/
def sampleHost : Host where
  files name :=
    if name = "cert.pem" ∨ name = "key.pem" then .ok (bytes name) else .error "no such file"
  certificates text := [text]
  keyPair _ _ := .ok ()

/-- A configuration with transport security and a plain server. -/
def tlsConfig (certFile keyFile : String) : Config where
  serverURL := "http://logs:8080"
  security := { tls := { enabled := true, certFile := certFile, keyFile := keyFile } }

/-- The agent runs, and its health server does not. -/
theorem listens_iff_certified_missing :
    ∃ config server sender,
      complete .linux (tlsConfig "" "") = .ok config ∧
      setupHealthServer sampleHost.files ":8080" config = .ok server ∧
      setupLogSender (sampleHost.environment (fun _ => []) 0) config = .ok sender ∧
      ¬ Listens sampleHost server := by
  have named : sampleHost.Named := nofun
  have accepted : complete .linux (tlsConfig "" "") = .ok (resolved .linux (tlsConfig "" "")) := by
    decide
  obtain ⟨server, created⟩ : ∃ server, setupHealthServer sampleHost.files ":8080"
      (resolved .linux (tlsConfig "" "")) = .ok server := ⟨_, rfl⟩
  obtain ⟨sender, built⟩ : ∃ sender, setupLogSender (sampleHost.environment (fun _ => []) 0)
      (resolved .linux (tlsConfig "" "")) = .ok sender := ⟨_, rfl⟩
  refine ⟨_, server, sender, accepted, created, built, ?_⟩
  rw [listens_iff_certified named accepted created built]
  decide

end Tailpost.Security
