import Mathlib.Algebra.Group.Int.Defs
import Tailpost.Security.Encryption
import Tailpost.Sender.HTTPSender
import Tailpost.Text.Json

/-!
# Delivering a batch

The agent builds a sender from its configuration, with credentials and encryption as
far as they are enabled.  A batch is marshalled, encrypted, put into a request and
given credentials before the request is handed to the HTTP client; each of these
steps may fail, and then nothing is handed over.
-/

namespace Tailpost.Delivery

open Tailpost.Configuration
open Tailpost.Hoare (Failure bind_eq_ok_iff)
open Tailpost.Http
open Tailpost.Security
open Tailpost.Sender.HTTPSender (effectiveBatchSize)
open Tailpost.Utf8

/-! ## Senders -/

/-- An error of the source as a failure. -/
def orFail {α : Type} : Except String α → Except Failure α
  | .ok value => .ok value
  | .error message => .error (.error message)

/-- The part of a sender that does not change. -/
structure HTTPSender where
  serverURL : String
  batchSize : Int
  flushInterval : Int
  authProvider : Option AuthProvider
  encryptionProvider : Option EncryptionProvider

/-- The bytes that can be allocated at once. -/
def maxAlloc : Int :=
  2 ^ 48

/-- `make([]string, 0, capacity)` panics when the capacity is out of range; a string
takes sixteen bytes. -/
def makeBatch (capacity : Int) : Except Failure Unit :=
  if 0 ≤ capacity ∧ capacity * 16 ≤ maxAlloc then .ok () else .error .panic

/-- Invalid sizes and intervals are replaced. -/
def newHTTPSender (serverURL : String) (batchSize flushInterval : Int) :
    Except Failure HTTPSender := do
  let batchSize := effectiveBatchSize batchSize
  let flushInterval := if flushInterval ≤ 0 then 1000000000 else flushInterval
  makeBatch batchSize
  return ⟨serverURL, batchSize, flushInterval, none, none⟩

/-- The TLS settings of a sender, if TLS is enabled. -/
def configureTLS (environment : Environment) (tls : TLSConfig) : Except String Unit :=
  if tls.enabled then wrap "error creating TLS config: " (environment.createTLSConfig tls)
  else .ok ()

/-- The authentication provider of a sender; the type `none` has none. -/
def configureAuth (environment : Environment) (auth : AuthConfig) :
    Except String (Option AuthProvider) :=
  if auth.type ≠ "none" then
    wrap "error creating auth provider: " (newAuthProvider environment.files auth)
  else
    .ok none

/-- The encryption provider of a sender, if encryption is enabled. -/
def configureEncryption (environment : Environment) (encryption : EncryptionConfig) :
    Except String (Option EncryptionProvider) :=
  if encryption.enabled then
    wrap "error creating encryption provider: " (newEncryptionProvider environment encryption)
  else
    .ok none

/-- A sender from its configuration. The batch is made first, and a negative size
panics. -/
def newSecureHTTPSender (environment : Environment) (config : Config) :
    Except Failure HTTPSender := do
  makeBatch config.batchSize
  orFail (configureTLS environment config.security.tls)
  let authProvider ← orFail (configureAuth environment config.security.auth)
  let encryptionProvider ← orFail (configureEncryption environment config.security.encryption)
  return ⟨config.serverURL, config.batchSize, config.flushInterval, authProvider,
    encryptionProvider⟩

/-- The sender that both programs of the agent build. -/
def setupLogSender (environment : Environment) (config : Config) : Except Failure HTTPSender :=
  if config.security.tls.enabled ∨ config.security.auth.type ≠ "none" ∨
      config.security.encryption.enabled then
    newSecureHTTPSender environment config
  else
    newHTTPSender config.serverURL config.batchSize config.flushInterval

/-! ## Requests -/

/-- A `POST` request. -/
structure Request where
  url : String
  header : Header
  body : Bytes

/-- What the calls that a delivery makes return. -/
structure Attempt where
  /-- Why the batch cannot be marshalled. -/
  marshal : Option String
  nonce : Except String Nonce
  newRequest : Except String Unit
  /-- The token of an OAuth2 provider. -/
  token : Except String Bytes
  /-- The status of the response. -/
  response : Except String Nat

/-- The body of a request before encryption. -/
def marshalLogs (attempt : Attempt) (logs : List Bytes) : Except String Bytes :=
  match attempt.marshal with
  | none => .ok (Json.marshal logs)
  | some message => .error message

namespace HTTPSender

/-- The body, encrypted when there is a provider. -/
def encryptBody (ciphers : Ciphers) (attempt : Attempt) (sender : HTTPSender) (data : Bytes) :
    Except String Bytes :=
  match sender.encryptionProvider with
  | some provider => provider.encrypt ciphers attempt.nonce data
  | none => .ok data

/-- The header of a request before credentials are added. -/
def baseHeader (sender : HTTPSender) : Header :=
  match sender.encryptionProvider with
  | some provider =>
      ((Header.set [] "Content-Type" (bytes "application/octet-stream")).set
        "X-Encrypted" (bytes "true")).set "X-Key-ID" (bytes provider.keyID)
  | none => Header.set [] "Content-Type" (bytes "application/json")

/-- The header with the credentials, if there is a provider. -/
def addAuthentication (attempt : Attempt) (sender : HTTPSender) (header : Header) :
    Except String Header :=
  match sender.authProvider with
  | some provider => provider.addAuthentication attempt.token header
  | none => .ok header

/-- The request for marshalled data. -/
def assemble (ciphers : Ciphers) (attempt : Attempt) (sender : HTTPSender) (data : Bytes) :
    Except String Request := do
  let body ← wrap "error encrypting data: " (sender.encryptBody ciphers attempt data)
  wrap "error creating request: " attempt.newRequest
  let header ← wrap "error adding authentication: "
    (sender.addAuthentication attempt sender.baseHeader)
  return ⟨sender.serverURL, header, body⟩

/-- The request that is handed to the client. -/
def prepare (ciphers : Ciphers) (attempt : Attempt) (sender : HTTPSender) (logs : List Bytes) :
    Except String Request := do
  let data ← wrap "error marshaling logs: " (marshalLogs attempt logs)
  sender.assemble ciphers attempt data

/-- The requests that were handed to the client, and the result. -/
def sendBatchWithContext (ciphers : Ciphers) (attempt : Attempt) (sender : HTTPSender)
    (logs : List Bytes) : List Request × Except String Unit :=
  match sender.prepare ciphers attempt logs with
  | .error message => ([], .error message)
  | .ok request =>
      ([request], do
        let status ← wrap "error sending request: " attempt.response
        if status < 200 ∨ 300 ≤ status then
          .error ("server returned non-success status: " ++ toString status)
        else
          .ok ())

end HTTPSender

/-! ## Failing closed -/

@[simp]
theorem orFail_eq_ok_iff {α : Type} {result : Except String α} {value : α} :
    orFail result = .ok value ↔ result = .ok value := by
  cases result <;> simp [orFail]

/-- The providers of a sender are the ones of its configuration. -/
theorem setupLogSender_eq_ok {environment : Environment} {config : Config} {sender : HTTPSender}
    (built : setupLogSender environment config = .ok sender) :
    configureAuth environment config.security.auth = .ok sender.authProvider ∧
      configureEncryption environment config.security.encryption =
        .ok sender.encryptionProvider := by
  unfold setupLogSender at built
  split at built
  next secured =>
    simp only [newSecureHTTPSender, bind_eq_ok_iff, orFail_eq_ok_iff] at built
    rcases built with ⟨_, _, _, _, auth, authMade, encryption, encryptionMade, made⟩
    cases made
    exact ⟨authMade, encryptionMade⟩
  next plain =>
    simp only [not_or, not_not, Bool.not_eq_true] at plain
    simp only [newHTTPSender, bind_eq_ok_iff] at built
    rcases built with ⟨_, _, made⟩
    cases made
    simp [configureAuth, configureEncryption, plain]

namespace HTTPSender

variable {ciphers : Ciphers} {attempt : Attempt} {sender : HTTPSender} {data : Bytes}
  {logs : List Bytes} {request : Request}

theorem assemble_eq_ok_iff :
    sender.assemble ciphers attempt data = .ok request ↔
      ∃ body header, sender.encryptBody ciphers attempt data = .ok body ∧
        attempt.newRequest = .ok () ∧
        sender.addAuthentication attempt sender.baseHeader = .ok header ∧
        request = ⟨sender.serverURL, header, body⟩ := by
  simp only [assemble, bind_eq_ok_iff, wrap_eq_ok_iff]
  constructor
  · rintro ⟨body, encrypted, _, created, header, authenticated, made⟩
    exact ⟨body, header, encrypted, created, authenticated, (Except.ok.inj made).symm⟩
  · rintro ⟨body, header, encrypted, created, authenticated, rfl⟩
    exact ⟨body, encrypted, (), created, header, authenticated, rfl⟩

theorem prepare_eq_ok_iff :
    sender.prepare ciphers attempt logs = .ok request ↔
      attempt.marshal = none ∧
        sender.assemble ciphers attempt (Json.marshal logs) = .ok request := by
  simp only [prepare, bind_eq_ok_iff, wrap_eq_ok_iff, marshalLogs]
  cases attempt.marshal <;> simp

/-- A request is handed to the client exactly when it could be prepared. -/
theorem mem_sendBatchWithContext_iff :
    request ∈ (sender.sendBatchWithContext ciphers attempt logs).1 ↔
      sender.prepare ciphers attempt logs = .ok request := by
  unfold sendBatchWithContext
  cases sender.prepare ciphers attempt logs with
  | error message => simp
  | ok prepared => simp [eq_comm]

/-- What has succeeded when a request is handed over. -/
theorem steps_of_handed
    (handed : request ∈ (sender.sendBatchWithContext ciphers attempt logs).1) :
    attempt.marshal = none ∧
      sender.encryptBody ciphers attempt (Json.marshal logs) = .ok request.body ∧
      attempt.newRequest = .ok () ∧
      sender.addAuthentication attempt sender.baseHeader = .ok request.header := by
  rcases prepare_eq_ok_iff.mp (mem_sendBatchWithContext_iff.mp handed) with
    ⟨marshalled, assembled⟩
  rcases assemble_eq_ok_iff.mp assembled with
    ⟨body, header, encrypted, created, authenticated, rfl⟩
  exact ⟨marshalled, encrypted, created, authenticated⟩

theorem encryptBody_of_some {provider : EncryptionProvider}
    (given : sender.encryptionProvider = some provider) :
    sender.encryptBody ciphers attempt data = provider.encrypt ciphers attempt.nonce data := by
  rw [encryptBody, given]

theorem addAuthentication_of_some {provider : AuthProvider} {header : Header}
    (given : sender.authProvider = some provider) :
    sender.addAuthentication attempt header =
      provider.addAuthentication attempt.token header := by
  rw [addAuthentication, given]

end HTTPSender

section FailClosed

variable (environment : Environment) (ciphers : Ciphers) (attempt : Attempt) (raw config : Config)
  (sender : HTTPSender) (logs : List Bytes)

/-- A step of the delivery fails: the batch cannot be marshalled or encrypted, or the
request cannot be created or given credentials. -/
inductive StepFails : Prop
  | marshal (message : String) (failed : attempt.marshal = some message)
  | encrypt (provider : EncryptionProvider) (message : String)
      (configured : configureEncryption environment config.security.encryption =
        .ok (some provider))
      (failed : provider.encrypt ciphers attempt.nonce (Json.marshal logs) = .error message)
  | newRequest (message : String) (failed : attempt.newRequest = .error message)
  | authenticate (provider : AuthProvider) (message : String)
      (configured : configureAuth environment config.security.auth = .ok (some provider))
      (failed : provider.addAuthentication attempt.token sender.baseHeader = .error message)

/-- Every request that is handed to the client carries what the config file asks for,
and there is none when a step fails. -/
structure FailsClosed : Prop where
  encrypted : raw.security.encryption.enabled = true →
    ∀ request ∈ (sender.sendBatchWithContext ciphers attempt logs).1, ∃ provider,
      newEncryptionProvider environment config.security.encryption = .ok (some provider) ∧
        provider.encrypt ciphers attempt.nonce (Json.marshal logs) = .ok request.body
  concealed : raw.security.encryption.enabled = true →
    ∀ request ∈ (sender.sendBatchWithContext ciphers attempt logs).1,
      request.body ≠ Json.marshal logs
  authenticated : raw.security.auth.type ≠ "" → raw.security.auth.type ≠ "none" →
    ∀ request ∈ (sender.sendBatchWithContext ciphers attempt logs).1, ∃ provider,
      newAuthProvider environment.files config.security.auth = .ok (some provider) ∧
        provider.addAuthentication attempt.token sender.baseHeader = .ok request.header
  silent : StepFails environment ciphers attempt config sender logs →
    (sender.sendBatchWithContext ciphers attempt logs).1 = []

end FailClosed

/-- A request for a file that asks for encryption has the output of the provider as body. -/
theorem encrypted_of_handed {platform : Platform} {raw : Config} {environment : Environment}
    {ciphers : Ciphers} {attempt : Attempt} {sender : HTTPSender} {logs : List Bytes}
    {request : Request}
    (built : setupLogSender environment (resolved platform raw) = .ok sender)
    (asked : raw.security.encryption.enabled = true)
    (handed : request ∈ (sender.sendBatchWithContext ciphers attempt logs).1) :
    ∃ provider,
      newEncryptionProvider environment (resolved platform raw).security.encryption =
        .ok (some provider) ∧
      provider.encrypt ciphers attempt.nonce (Json.marshal logs) = .ok request.body := by
  rcases setupLogSender_eq_ok built with ⟨_, encryptionMade⟩
  rcases HTTPSender.steps_of_handed handed with ⟨_, encrypted, _, _⟩
  have enabled := (encryption_enabled_resolved platform raw).trans asked
  rw [configureEncryption, if_pos enabled, wrap_eq_ok_iff] at encryptionMade
  rcases newEncryptionProvider_eq_ok enabled encryptionMade with ⟨provider, given, _⟩
  rw [HTTPSender.encryptBody_of_some given] at encrypted
  exact ⟨provider, given ▸ encryptionMade, encrypted⟩

/-- A sender that the agent builds from a file that it accepts fails closed, with ciphers that
add a tag to what they seal. -/
theorem failsClosed {platform : Platform} {raw config : Config} {environment : Environment}
    {ciphers : Ciphers} {attempt : Attempt} {sender : HTTPSender} {logs : List Bytes}
    (tagged : ∀ type, (ciphers type).Tagged) (accepted : complete platform raw = .ok config)
    (built : setupLogSender environment config = .ok sender) :
    FailsClosed environment ciphers attempt raw config sender logs := by
  obtain rfl := (complete_eq_ok_iff.mp accepted).2
  rcases setupLogSender_eq_ok built with ⟨authMade, encryptionMade⟩
  constructor
  case encrypted =>
    intro asked request handed
    exact encrypted_of_handed built asked handed
  case concealed =>
    intro asked request handed same
    rcases encrypted_of_handed built asked handed with ⟨provider, _, encrypted⟩
    rw [same] at encrypted
    exact EncryptionProvider.encrypt_ne_self (tagged provider.type) encrypted
  case authenticated =>
    intro given asked request handed
    rcases HTTPSender.steps_of_handed handed with ⟨_, _, _, authenticated⟩
    have enabled : (resolved platform raw).security.auth.type ≠ "none" := by
      rw [auth_type_resolved given]
      exact asked
    rw [configureAuth, if_pos enabled, wrap_eq_ok_iff] at authMade
    rcases exists_provider enabled authMade with ⟨provider, given⟩
    rw [HTTPSender.addAuthentication_of_some given] at authenticated
    exact ⟨provider, given ▸ authMade, authenticated⟩
  case silent =>
    intro fails
    rw [List.eq_nil_iff_forall_not_mem]
    intro request handed
    rcases HTTPSender.steps_of_handed handed with ⟨marshalled, encrypted, created, authenticated⟩
    cases fails with
    | marshal message failed =>
        rw [marshalled] at failed
        contradiction
    | encrypt provider message configured failed =>
        have given := Except.ok.inj (encryptionMade.symm.trans configured)
        rw [HTTPSender.encryptBody_of_some given, failed] at encrypted
        contradiction
    | newRequest message failed =>
        rw [created] at failed
        contradiction
    | authenticate provider message configured failed =>
        have given := Except.ok.inj (authMade.symm.trans configured)
        rw [HTTPSender.addAuthentication_of_some given, failed] at authenticated
        contradiction

/-- A file that asks for encryption with a key from a variable and for basic
authentication. -/
def secureConfig : Config where
  serverURL := "https://logs:8080"
  security :=
    { auth := { type := "basic", username := "agent", password := "secret" }
      encryption := { enabled := true, keyEnv := "KEY" } }

/-- A host whose variables hold a key of zeros. -/
def sampleEnvironment : Environment where
  files := fun _ => .error "no such file or directory"
  getenv := fun _ => List.replicate 64 0x30
  unix := 1700000000
  createTLSConfig := fun _ => .ok ()

/-- A cipher that puts the length of the associated data, that data, and the plaintext
behind each other. -/
def sampleAead : Aead where
  sealWith := fun _ _ plaintext data =>
    List.replicate data.length 1 ++ 0 :: (data ++ plaintext)
  openWith := fun _ _ ciphertext given =>
    ciphertext.dropPrefix? (List.replicate given.length 1 ++ 0 :: given)

/-- A delivery in which everything succeeds. -/
def sampleAttempt : Attempt where
  marshal := none
  nonce := .ok ⟨List.replicate 12 7, rfl⟩
  newRequest := .ok ()
  token := .error "no token source"
  response := .ok 200

/-- A cipher that inverts every bit and adds a tag that depends on the associated data. -/
def taggedAead : Aead where
  sealWith := fun _ _ plaintext data =>
    plaintext.map (~~~ ·) ++ List.replicate tagSize (data.foldl (· ^^^ ·) 0)
  openWith := fun _ _ ciphertext given =>
    if ciphertext.drop (ciphertext.length - tagSize) =
        List.replicate tagSize (given.foldl (· ^^^ ·) 0) then
      some ((ciphertext.take (ciphertext.length - tagSize)).map (~~~ ·))
    else
      none

theorem taggedAead_tagged : taggedAead.Tagged where
  length_sealWith := by
    intro key nonce plaintext data
    simp [taggedAead]

/-- The batch is handed over encrypted and with credentials, and not as it is. -/
theorem failsClosed_secureConfig :
    ∃ sender request,
      setupLogSender sampleEnvironment (resolved .linux secureConfig) = .ok sender ∧
      FailsClosed sampleEnvironment (fun _ => taggedAead) sampleAttempt secureConfig
        (resolved .linux secureConfig) sender [bytes "line"] ∧
      (sender.sendBatchWithContext (fun _ => taggedAead) sampleAttempt [bytes "line"]).1 =
        [request] ∧
      request.body ≠ Json.marshal [bytes "line"] := by
  have accepted : complete .linux secureConfig = .ok (resolved .linux secureConfig) := by decide
  have closed := @failsClosed .linux _ _ sampleEnvironment (fun _ => taggedAead) sampleAttempt _
    [bytes "line"] (fun _ => taggedAead_tagged) accepted rfl
  exact ⟨_, _, rfl, closed, rfl, closed.concealed rfl _ (List.mem_singleton.mpr rfl)⟩

/-! ## Lines on the wire -/

theorem map_coerce_eq_iff {lines : List Bytes} :
    lines.map coerce = lines ↔ ∀ line ∈ lines, IsText line := by
  calc
    lines.map coerce = lines ↔ lines.map coerce = lines.map id := by rw [List.map_id]
    _ ↔ ∀ line ∈ lines, coerce line = line := List.map_inj_left
    _ ↔ ∀ line ∈ lines, IsText line := by simp only [coerce_eq_self_iff]

/-- A server that reads the body of an unencrypted request gets the lines of the batch
if and only if every line is encoded text. -/
theorem unmarshal_body_eq_some_iff {ciphers : Ciphers} {attempt : Attempt} {sender : HTTPSender}
    {logs : List Bytes} {request : Request} (plain : sender.encryptionProvider = none)
    (handed : request ∈ (sender.sendBatchWithContext ciphers attempt logs).1) :
    Json.unmarshal request.body = some logs ↔ ∀ line ∈ logs, IsText line := by
  rcases HTTPSender.steps_of_handed handed with ⟨_, encrypted, _, _⟩
  rw [HTTPSender.encryptBody, plain] at encrypted
  rw [← Except.ok.inj encrypted, Json.unmarshal_marshal, Option.some.injEq, map_coerce_eq_iff]

/-- A sender without credentials and encryption. -/
def plainSender : HTTPSender where
  serverURL := "http://logs:8080"
  batchSize := 10
  flushInterval := 5000000000
  authProvider := none
  encryptionProvider := none

/-- Text arrives as it is, with letters that JSON escapes and letters outside of ASCII. -/
theorem unmarshal_body_eq_some_iff_text :
    ∃ request,
      request ∈ (plainSender.sendBatchWithContext (fun _ => sampleAead) sampleAttempt
        [bytes "<a> \"b\"", bytes "größe"]).1 ∧
      Json.unmarshal request.body = some [bytes "<a> \"b\"", bytes "größe"] := by
  refine ⟨_, List.mem_singleton.mpr rfl, ?_⟩
  apply (@unmarshal_body_eq_some_iff (fun _ => sampleAead) sampleAttempt plainSender _ _ rfl
    (List.mem_singleton.mpr rfl)).mpr
  intro line member
  simp only [List.mem_cons, List.not_mem_nil, or_false] at member
  rcases member with rfl | rfl <;> exact isText_bytes _

/-- The word `für` in Latin-1 arrives as another line. -/
theorem latin1_line_changed :
    ∃ request,
      request ∈ (plainSender.sendBatchWithContext (fun _ => sampleAead) sampleAttempt
        [[0x66, 0xFC, 0x72]]).1 ∧
      Json.unmarshal request.body = some [[0x66, 0xEF, 0xBF, 0xBD, 0x72]] ∧
      Json.unmarshal request.body ≠ some [[0x66, 0xFC, 0x72]] :=
  ⟨_, List.mem_singleton.mpr rfl, by decide, by decide⟩

end Tailpost.Delivery
