import Tailpost.Sender.Delivery

/-!
# A server that decrypts

The server takes a request for encrypted when three headers say so, and opens the
body with its key and the key's id, which it reads from a header.  The sender
authenticates the same id with the data.  The two agree as long as the headers that
the sender sets arrive as they were meant: a provider of credentials may set them
again, and blanks at the ends of a value are lost on the way.
-/

namespace Tailpost.Delivery

open Tailpost.Configuration
open Tailpost.Hoare (bind_eq_ok_iff)
open Tailpost.Http
open Tailpost.Security
open Tailpost.Utf8

/-! ## Transport -/

/-- What a server gets of a request. -/
structure Received where
  header : Header
  body : Bytes

/-- The client refuses a header that it cannot send. -/
def transmit (request : Request) : Except String Received :=
  if request.header.valid then .ok ⟨request.header.received, request.body⟩
  else .error "net/http: invalid header field"

theorem transmit_eq_ok_iff {request : Request} {received : Received} :
    transmit request = .ok received ↔
      request.header.valid = true ∧ received = ⟨request.header.received, request.body⟩ := by
  unfold transmit
  split
  next valid => simp [valid, eq_comm]
  next invalid => simp [invalid]

/-! ## The server -/

/-- What the server goes on with as the JSON of the lines. -/
inductive Contents
  | decrypted (plaintext : Bytes)
  | unencrypted (body : Bytes)
  | refused (message : String)
  deriving DecidableEq

/-- Three headers mark a request as encrypted. -/
def isEncrypted (header : Header) : Bool :=
  header.get "X-Encrypted" == bytes "true" &&
    header.get "Content-Type" == bytes "application/octet-stream" && header.get "X-Key-ID" != []

/-- The handler of `/logs`, up to the parsing of the lines. -/
def handleLogs (aead : Aead) (key : Bytes) (request : Received) : Contents :=
  if isEncrypted request.header then
    match openSealed aead key request.body (request.header.get "X-Key-ID") with
    | .error _ => .refused "Failed to decrypt data"
    | .ok plaintext => .decrypted plaintext
  else
    .unencrypted request.body

/-- Nothing is sent, or the server decrypts the request to the plaintext. -/
def Agrees (ciphers : Ciphers) (attempt : Attempt) (sender : HTTPSender) (key plaintext : Bytes) :
    Prop :=
  ∀ request received, sender.assemble ciphers attempt plaintext = .ok request →
    transmit request = .ok received →
    handleLogs (ciphers .aes) key received = .decrypted plaintext

/-! ## The headers of a request -/

/-- The headers that a provider sets, in the order in which it sets them. -/
def credentials (token : Except String Bytes) :
    AuthProvider → Except String (List (String × Bytes))
  | .basic username password =>
      .ok [("Authorization",
        bytes "Basic " ++ Base64.encode (bytes (username ++ ":" ++ password)))]
  | .token secret => .ok [("Authorization", bytes "Bearer " ++ secret)]
  | .oauth2 _ _ _ _ => token.map fun value => [("Authorization", value)]
  | .header headers => .ok (headers.entries.map fun entry => (entry.1, bytes entry.2))

theorem addAuthentication_eq_ok_iff {token : Except String Bytes} {provider : AuthProvider}
    {before after : Header} :
    provider.addAuthentication token before = .ok after ↔
      ∃ entries, credentials token provider = .ok entries ∧ after = before.setAll entries := by
  cases provider with
  | basic username password =>
      simp [AuthProvider.addAuthentication, credentials, Header.setAll, eq_comm]
  | token secret => simp [AuthProvider.addAuthentication, credentials, Header.setAll, eq_comm]
  | oauth2 clientID clientSecret tokenURL scopes =>
      simp only [AuthProvider.addAuthentication, credentials, bind_eq_ok_iff, wrap_eq_ok_iff]
      cases token with
      | error message => simp [Except.map]
      | ok value => simp [Except.map, pure, Except.pure, Header.setAll, eq_comm]
  | header headers =>
      simp [AuthProvider.addAuthentication, credentials, Header.setAll, List.foldl_map, eq_comm]

/-- The headers that the provider of a sender sets. -/
def HTTPSender.credentials (token : Except String Bytes) (sender : HTTPSender) :
    Except String (List (String × Bytes)) :=
  match sender.authProvider with
  | some provider => Delivery.credentials token provider
  | none => .ok []

/-- The headers that are set for an encrypted request, in order. -/
def headersSet (keyID : String) (entries : List (String × Bytes)) : List (String × Bytes) :=
  [("Content-Type", bytes "application/octet-stream"), ("X-Encrypted", bytes "true"),
    ("X-Key-ID", bytes keyID)] ++ entries

theorem HTTPSender.addAuthentication_eq_ok_iff {attempt : Attempt} {sender : HTTPSender}
    {before after : Header} :
    sender.addAuthentication attempt before = .ok after ↔
      ∃ entries, sender.credentials attempt.token = .ok entries ∧
        after = before.setAll entries := by
  unfold HTTPSender.addAuthentication HTTPSender.credentials
  cases sender.authProvider with
  | none => simp [Header.setAll, eq_comm]
  | some auth => exact Delivery.addAuthentication_eq_ok_iff

theorem HTTPSender.get_baseHeader {sender : HTTPSender} {provider : EncryptionProvider}
    (encrypts : sender.encryptionProvider = some provider) :
    sender.baseHeader.get "X-Encrypted" = bytes "true" ∧
      sender.baseHeader.get "Content-Type" = bytes "application/octet-stream" ∧
      sender.baseHeader.get "X-Key-ID" = bytes provider.keyID := by
  simp only [baseHeader, encrypts]
  refine ⟨?_, ?_, Header.get_set_of_eq rfl⟩
  · rw [Header.get_set_of_ne (by decide), Header.get_set_of_eq rfl]
  · rw [Header.get_set_of_ne (by decide), Header.get_set_of_ne (by decide),
      Header.get_set_of_eq rfl]

theorem HTTPSender.baseHeader_setAll {sender : HTTPSender} {provider : EncryptionProvider}
    (encrypts : sender.encryptionProvider = some provider) (entries : List (String × Bytes)) :
    sender.baseHeader.setAll entries =
      Header.setAll [] (headersSet provider.keyID entries) := by
  rw [baseHeader, encrypts, headersSet, Header.setAll, Header.setAll, List.foldl_append]
  rfl

/-! ## Agreement -/

/-- The delivery gets as far as a request that the client sends. -/
structure Sendable (attempt : Attempt) (sender : HTTPSender) (keyID : String)
    (entries : List (String × Bytes)) : Prop where
  nonce : ∃ nonce, attempt.nonce = .ok nonce
  created : attempt.newRequest = .ok ()
  authenticated : sender.credentials attempt.token = .ok entries
  valid : ∀ entry ∈ headersSet keyID entries, validName (canonicalKey entry.1) = true ∧
    validValue (Header.lastOr [] (headersSet keyID entries) entry.1) = true

/-- The credentials do not set a header to another value than the sender's own, and the
value has no blanks at its ends. -/
def Keeps (entries : List (String × Bytes)) (key : String) (value : Bytes) : Prop :=
  trim (Header.lastOr value entries key) = value

instance (entries : List (String × Bytes)) (key : String) (value : Bytes) :
    Decidable (Keeps entries key value) :=
  inferInstanceAs (Decidable (_ = _))

/-- The three headers arrive as the sender set them. -/
structure Legible (keyID : String) (entries : List (String × Bytes)) : Prop where
  marked : Keeps entries "X-Encrypted" (bytes "true")
  typed : Keeps entries "Content-Type" (bytes "application/octet-stream")
  keyed : Keeps entries "X-Key-ID" (bytes keyID)

theorem handleLogs_received_iff {aead : Aead} (inverts : aead.Exact) {key keyID : Bytes}
    {nonce : Nonce} {plaintext : Bytes} {header : Header} (named : keyID ≠ []) :
    handleLogs aead key ⟨header.received,
        nonce.bytes ++ aead.sealWith key nonce.bytes plaintext keyID⟩ = .decrypted plaintext ↔
      trim (header.get "X-Encrypted") = bytes "true" ∧
        trim (header.get "Content-Type") = bytes "application/octet-stream" ∧
        trim (header.get "X-Key-ID") = keyID := by
  have opened := @openSealed_append_eq_ok_iff aead inverts key keyID
    (trim (header.get "X-Key-ID")) nonce plaintext
  have marks := header.get_received_of_carried (by decide :
    isReserved (canonicalKey "X-Encrypted") = false)
  have types := header.get_received_of_carried (by decide :
    isReserved (canonicalKey "Content-Type") = false)
  have keys := header.get_received_of_carried (by decide :
    isReserved (canonicalKey "X-Key-ID") = false)
  simp only [handleLogs, isEncrypted, marks, types, keys, Bool.and_eq_true, beq_iff_eq,
    bne_iff_ne]
  split
  next encrypted =>
    rcases encrypted with ⟨⟨marked, typed⟩, _⟩
    simp only [marked, typed, true_and]
    rw [← opened]
    cases openSealed aead key (nonce.bytes ++ aead.sealWith key nonce.bytes plaintext keyID)
        (trim (header.get "X-Key-ID")) with
    | error message => simp
    | ok other => simp
  next unmarked =>
    constructor
    · intro decrypted
      contradiction
    · rintro ⟨marked, typed, keyed⟩
      exact absurd ⟨⟨marked, typed⟩, keyed ▸ named⟩ unmarked

section Request

variable {ciphers : Ciphers} {attempt : Attempt} {sender : HTTPSender}
  {provider : EncryptionProvider} {plaintext : Bytes}

/-- The request for a plaintext, from the nonce and the credentials that were obtained. -/
def encryptedRequest (aead : Aead) (sender : HTTPSender) (provider : EncryptionProvider)
    (plaintext : Bytes) (nonce : Nonce) (entries : List (String × Bytes)) : Request where
  url := sender.serverURL
  header := sender.baseHeader.setAll entries
  body := nonce.bytes ++
    aead.sealWith provider.key nonce.bytes plaintext (bytes provider.keyID)

theorem assemble_eq_ok_iff_encryptedRequest {request : Request} (aes : provider.type = .aes)
    (encrypts : sender.encryptionProvider = some provider) :
    sender.assemble ciphers attempt plaintext = .ok request ↔
      ∃ nonce entries, attempt.nonce = .ok nonce ∧ attempt.newRequest = .ok () ∧
        sender.credentials attempt.token = .ok entries ∧
        request = encryptedRequest (ciphers .aes) sender provider plaintext nonce entries := by
  simp only [HTTPSender.assemble_eq_ok_iff, HTTPSender.encryptBody_of_some encrypts,
    HTTPSender.addAuthentication_eq_ok_iff, EncryptionProvider.encrypt, aes, bind_eq_ok_iff,
    wrap_eq_ok_iff]
  constructor
  · rintro ⟨body, header, ⟨nonce, drawn, sealed⟩, created, ⟨entries, given, rfl⟩, rfl⟩
    cases sealed
    exact ⟨nonce, entries, drawn, created, given, rfl⟩
  · rintro ⟨nonce, entries, drawn, created, given, rfl⟩
    exact ⟨_, _, ⟨nonce, drawn, rfl⟩, created, ⟨entries, given, rfl⟩, rfl⟩

theorem handleLogs_encryptedRequest_iff {aead : Aead} (inverts : aead.Exact)
    (named : provider.keyID ≠ "") (encrypts : sender.encryptionProvider = some provider)
    {nonce : Nonce} {entries : List (String × Bytes)} :
    handleLogs aead provider.key
        ⟨(encryptedRequest aead sender provider plaintext nonce entries).header.received,
          (encryptedRequest aead sender provider plaintext nonce entries).body⟩ =
      .decrypted plaintext ↔ Legible provider.keyID entries := by
  have namedBytes : bytes provider.keyID ≠ [] := by
    rw [Ne, bytes_eq_nil_iff]
    exact named
  rcases HTTPSender.get_baseHeader encrypts with ⟨marked, typed, keyed⟩
  rw [encryptedRequest, handleLogs_received_iff inverts namedBytes]
  simp only [Header.get_setAll, marked, typed, keyed]
  constructor
  · rintro ⟨marked, typed, keyed⟩
    exact ⟨marked, typed, keyed⟩
  · rintro ⟨marked, typed, keyed⟩
    exact ⟨marked, typed, keyed⟩

theorem valid_encryptedRequest_iff {aead : Aead}
    (encrypts : sender.encryptionProvider = some provider) {nonce : Nonce}
    {entries : List (String × Bytes)} :
    (encryptedRequest aead sender provider plaintext nonce entries).header.valid = true ↔
      ∀ entry ∈ headersSet provider.keyID entries, validName (canonicalKey entry.1) = true ∧
        validValue (Header.lastOr [] (headersSet provider.keyID entries) entry.1) = true := by
  rw [encryptedRequest, HTTPSender.baseHeader_setAll encrypts, Header.valid_setAll_iff]

/-- The sender and the server agree if and only if nothing is sent or the three headers
arrive as the sender set them. -/
theorem agrees_iff {environment : Environment} {config : EncryptionConfig}
    (inverts : (ciphers .aes).Exact) (enabled : config.enabled = true)
    (made : newEncryptionProvider environment config = .ok (some provider))
    (aes : provider.type = .aes) (encrypts : sender.encryptionProvider = some provider) :
    Agrees ciphers attempt sender provider.key plaintext ↔
      ∀ entries, Sendable attempt sender provider.keyID entries →
        Legible provider.keyID entries := by
  have named : provider.keyID ≠ "" := by
    rcases newEncryptionProvider_eq_ok enabled made with ⟨given, same, named⟩
    cases same
    exact named
  constructor
  · rintro agrees entries ⟨⟨nonce, drawn⟩, created, authenticated, valid⟩
    apply (handleLogs_encryptedRequest_iff inverts named encrypts).mp
    apply agrees _ _ ((assemble_eq_ok_iff_encryptedRequest aes encrypts).mpr
      ⟨nonce, entries, drawn, created, authenticated, rfl⟩)
    exact transmit_eq_ok_iff.mpr ⟨(valid_encryptedRequest_iff encrypts).mpr valid, rfl⟩
  · intro legible request received assembled transmitted
    rcases (assemble_eq_ok_iff_encryptedRequest aes encrypts).mp assembled with
      ⟨nonce, entries, drawn, created, authenticated, rfl⟩
    rcases transmit_eq_ok_iff.mp transmitted with ⟨valid, rfl⟩
    apply (handleLogs_encryptedRequest_iff inverts named encrypts).mpr
    exact legible entries
      ⟨⟨nonce, drawn⟩, created, authenticated, (valid_encryptedRequest_iff encrypts).mp valid⟩

end Request

theorem sampleAead_exact : sampleAead.Exact where
  openWith_sealWith := by
    intro key nonce plaintext data given
    simp only [sampleAead, List.dropPrefix?_eq_some_iff]
    constructor
    · rintro ⟨front, opened, same⟩
      rw [beq_iff_eq] at same
      subst same
      have lengths := congrArg List.length opened
      simp only [List.length_append, List.length_cons, List.length_replicate] at lengths
      have same : given.length = data.length := by omega
      rw [same, List.append_assoc, List.append_cancel_left_eq, List.cons_append,
        List.cons.injEq, List.append_cancel_right_eq] at opened
      exact opened.2.symm
    · rintro rfl
      exact ⟨_, by simp, beq_self_eq_true _⟩

/-- Basic credentials and the generated id of the key do not disturb the server. -/
theorem agrees_iff_secureConfig :
    ∃ sender provider,
      setupLogSender sampleEnvironment (resolved .linux secureConfig) = .ok sender ∧
      sender.encryptionProvider = some provider ∧
      Agrees (fun _ => sampleAead) sampleAttempt sender provider.key (bytes "[\"line\"]") := by
  refine ⟨_, _, rfl, rfl, (@agrees_iff (fun _ => sampleAead) sampleAttempt _ _ _
    sampleEnvironment (resolved .linux secureConfig).security.encryption
    sampleAead_exact (by decide) rfl rfl rfl).mpr ?_⟩
  intro entries sendable
  cases sendable.authenticated
  exact ⟨by decide, by decide, by decide⟩

/-- A file whose id of the key ends in a blank. -/
def blankConfig : Config where
  serverURL := "https://logs:8080"
  security := { encryption := { enabled := true, keyEnv := "KEY", keyID := "agent " } }

/-- A key id that ends in a blank, which a header does not keep. -/
def blankProvider : EncryptionProvider where
  type := .aes
  key := List.replicate 32 0
  keyID := "agent "
  keySize := rfl

/-- A sender with that key. -/
def blankSender : HTTPSender :=
  { plainSender with serverURL := "https://logs:8080", encryptionProvider := some blankProvider }

/-- The blank is authenticated with the data and missing in the header that arrives. -/
theorem blank_keyID_disagrees :
    complete .linux blankConfig = .ok (resolved .linux blankConfig) ∧
      setupLogSender sampleEnvironment (resolved .linux blankConfig) = .ok blankSender ∧
      ∀ ciphers : Ciphers, (ciphers .aes).Exact →
        ¬ Agrees ciphers sampleAttempt blankSender blankProvider.key (bytes "[\"line\"]") := by
  refine ⟨by decide, rfl, ?_⟩
  intro ciphers inverts agrees
  have sent := (@assemble_eq_ok_iff_encryptedRequest ciphers sampleAttempt blankSender
    blankProvider (bytes "[\"line\"]") _ rfl rfl).mpr ⟨_, [], rfl, rfl, rfl, rfl⟩
  have valid : (blankSender.baseHeader.setAll []).valid = true := by decide
  have decrypted := agrees _ _ sent (transmit_eq_ok_iff.mpr ⟨valid, rfl⟩)
  rw [handleLogs_encryptedRequest_iff inverts (by decide) rfl] at decrypted
  exact absurd decrypted.keyed (by decide)

end Tailpost.Delivery
