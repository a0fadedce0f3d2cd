import Tailpost.Security.Auth

/-!
# Encryption

A provider seals data with a key of 32 bytes and a nonce that it draws for each
message, and puts the nonce in front of the sealed data.  The id of the key is
authenticated with the data and not part of it.  The ciphers themselves are
parameters.
-/

namespace Tailpost.Security

open Tailpost.Configuration
open Tailpost.Hoare
open Tailpost.Utf8

/-! ## Ciphers -/

/-- Authenticated encryption with associated data; the arguments are the key, the
nonce, the data and the associated data. -/
structure Aead where
  sealWith : Bytes → Bytes → Bytes → Bytes → Bytes
  openWith : Bytes → Bytes → Bytes → Bytes → Option Bytes

/-- Sealed data is opened exactly with the associated data it was sealed with. -/
structure Aead.Exact (aead : Aead) : Prop where
  openWith_sealWith : ∀ key nonce plaintext data given,
    aead.openWith key nonce (aead.sealWith key nonce plaintext data) given = some plaintext ↔
      given = data

/-- The size of an authentication tag is the same for both ciphers. -/
def tagSize : Nat :=
  16

/-- Sealed data is longer than the data by a tag. -/
structure Aead.Tagged (aead : Aead) : Prop where
  length_sealWith : ∀ key nonce plaintext data,
    (aead.sealWith key nonce plaintext data).length = plaintext.length + tagSize

/-- The ciphers of the two providers. -/
inductive EncryptionType
  | aes
  | chacha20poly1305
  deriving DecidableEq

/-- The library's cipher of each type. -/
abbrev Ciphers :=
  EncryptionType → Aead

/-- The size of a nonce is the same for both ciphers. -/
def nonceSize : Nat :=
  12

/-- A nonce has the length that the ciphers need. -/
structure Nonce where
  bytes : Bytes
  size : bytes.length = nonceSize

/-- Open what has a nonce in front of it. -/
def openSealed (aead : Aead) (key ciphertext keyID : Bytes) : Except String Bytes :=
  if ciphertext.length < nonceSize then
    .error "ciphertext too short"
  else
    match aead.openWith key (ciphertext.take nonceSize) (ciphertext.drop nonceSize) keyID with
    | none => .error "error decrypting: message authentication failed"
    | some plaintext => .ok plaintext

theorem openSealed_append_eq_ok_iff {aead : Aead} (inverts : aead.Exact) {key keyID given : Bytes}
    {nonce : Nonce} {plaintext : Bytes} :
    openSealed aead key (nonce.bytes ++ aead.sealWith key nonce.bytes plaintext keyID) given =
      .ok plaintext ↔ given = keyID := by
  have long :
      ¬ (nonce.bytes ++ aead.sealWith key nonce.bytes plaintext keyID).length < nonceSize := by
    rw [List.length_append, nonce.size]
    omega
  have front : (nonce.bytes ++ aead.sealWith key nonce.bytes plaintext keyID).take nonceSize =
      nonce.bytes := by
    rw [← nonce.size, List.take_left]
  have back : (nonce.bytes ++ aead.sealWith key nonce.bytes plaintext keyID).drop nonceSize =
      aead.sealWith key nonce.bytes plaintext keyID := by
    rw [← nonce.size, List.drop_left]
  rw [openSealed, if_neg long, front, back, ← inverts.openWith_sealWith key nonce.bytes plaintext]
  cases aead.openWith key nonce.bytes (aead.sealWith key nonce.bytes plaintext keyID) given with
  | none => simp
  | some opened => simp

/-! ## Providers -/

/-- The key of a provider has the right size. -/
structure EncryptionProvider where
  type : EncryptionType
  key : Bytes
  keyID : String
  keySize : key.length = 32

/-- A provider of a type, or the type's message about the size of the key. -/
def newProvider (type : EncryptionType) (message : String) (key : Bytes) (keyID : String) :
    Except String EncryptionProvider :=
  if size : key.length = 32 then .ok ⟨type, key, keyID, size⟩ else .error message

/-- The provider of AES-256-GCM. -/
def newAESGCMProvider (key : Bytes) (keyID : String) : Except String EncryptionProvider :=
  newProvider .aes "AES-256-GCM requires a 32-byte key" key keyID

/-- The provider of ChaCha20-Poly1305. -/
def newChaCha20Poly1305Provider (key : Bytes) (keyID : String) :
    Except String EncryptionProvider :=
  newProvider .chacha20poly1305 "ChaCha20-Poly1305 requires a 32-byte key" key keyID

namespace EncryptionProvider

/-- `random` is what reading a nonce from the source of randomness returns. -/
def encrypt (ciphers : Ciphers) (random : Except String Nonce) (provider : EncryptionProvider)
    (plaintext : Bytes) : Except String Bytes := do
  let nonce ← wrap "error generating nonce: " random
  return nonce.bytes ++
    (ciphers provider.type).sealWith provider.key nonce.bytes plaintext (Utf8.bytes provider.keyID)

/-- The key's id is the additional data, on both sides. -/
def decrypt (ciphers : Ciphers) (provider : EncryptionProvider) (ciphertext : Bytes) :
    Except String Bytes :=
  openSealed (ciphers provider.type) provider.key ciphertext (Utf8.bytes provider.keyID)

/-- What a provider returns has a nonce and a tag more than what it was given. -/
theorem length_encrypt {ciphers : Ciphers} {random : Except String Nonce}
    {provider : EncryptionProvider} {plaintext ciphertext : Bytes}
    (tagged : (ciphers provider.type).Tagged)
    (encrypted : provider.encrypt ciphers random plaintext = .ok ciphertext) :
    ciphertext.length = nonceSize + (plaintext.length + tagSize) := by
  rcases bind_eq_ok_iff.mp encrypted with ⟨nonce, _, made⟩
  cases made
  rw [List.length_append, nonce.size, tagged.length_sealWith]

/-- A provider never returns what it was given. -/
theorem encrypt_ne_self {ciphers : Ciphers} {random : Except String Nonce}
    {provider : EncryptionProvider} {plaintext : Bytes}
    (tagged : (ciphers provider.type).Tagged) :
    provider.encrypt ciphers random plaintext ≠ .ok plaintext := by
  intro encrypted
  have longer := length_encrypt tagged encrypted
  unfold nonceSize at longer
  omega

/-- A provider opens what it sealed. -/
theorem decrypt_encrypt {ciphers : Ciphers} {random : Except String Nonce}
    {provider : EncryptionProvider} {plaintext ciphertext : Bytes}
    (inverts : (ciphers provider.type).Exact)
    (encrypted : provider.encrypt ciphers random plaintext = .ok ciphertext) :
    provider.decrypt ciphers ciphertext = .ok plaintext := by
  rcases bind_eq_ok_iff.mp encrypted with ⟨nonce, _, made⟩
  cases made
  exact (openSealed_append_eq_ok_iff inverts).mpr rfl

end EncryptionProvider

/-! ## Keys -/

/-- What the process gets from its host. -/
structure Environment where
  files : Files
  getenv : String → Bytes
  /-- The time in seconds. -/
  unix : Nat
  createTLSConfig : TLSConfig → Except String Unit

/-- The id of a key that has none: the time it was loaded. -/
def generateKeyID (environment : Environment) : String :=
  "key-" ++ toString environment.unix

/-- The key, from a file or else from a variable. -/
def readKey (environment : Environment) (config : EncryptionConfig) : Except String Bytes :=
  if config.keyFile ≠ "" then
    wrap "error reading key file: " (environment.files config.keyFile)
  else if config.keyEnv ≠ "" then
    if environment.getenv config.keyEnv = [] then
      .error ("encryption key environment variable " ++ config.keyEnv ++ " is empty")
    else
      match Hex.decode (environment.getenv config.keyEnv) with
      | none => .error "error decoding hex key: encoding/hex"
      | some key => .ok key
  else
    .error "no key source specified"

/-- The key and its id. -/
def loadKey (environment : Environment) (config : EncryptionConfig) :
    Except String (Bytes × String) := do
  let key ← readKey environment config
  return (key, if config.keyID ≠ "" then config.keyID else generateKeyID environment)

/-- The provider of a configuration; none when encryption is disabled. -/
def newEncryptionProvider (environment : Environment) (config : EncryptionConfig) :
    Except String (Option EncryptionProvider) :=
  if config.enabled then do
    let (key, keyID) ← loadKey environment config
    if config.type = "aes" then
      (newAESGCMProvider key keyID).map some
    else if config.type = "chacha20poly1305" then
      (newChaCha20Poly1305Provider key keyID).map some
    else
      .error ("unsupported encryption type: " ++ config.type)
  else
    .ok none

theorem keyID_of_newProvider {type : EncryptionType} {message keyID : String} {key : Bytes}
    {provider : EncryptionProvider} (created : newProvider type message key keyID = .ok provider) :
    provider.keyID = keyID := by
  unfold newProvider at created
  split at created
  next =>
    cases created
    rfl
  next => contradiction

theorem keyID_ne_empty_of_loadKey {environment : Environment} {config : EncryptionConfig}
    {key : Bytes} {keyID : String} (loaded : loadKey environment config = .ok (key, keyID)) :
    keyID ≠ "" := by
  rcases bind_eq_ok_iff.mp loaded with ⟨found, _, made⟩
  cases made
  split
  next given => exact given
  next => simp [generateKeyID]

/-- Enabled encryption gives a provider or an error. -/
theorem newEncryptionProvider_eq_ok {environment : Environment} {config : EncryptionConfig}
    {result : Option EncryptionProvider} (enabled : config.enabled = true)
    (created : newEncryptionProvider environment config = .ok result) :
    ∃ provider, result = some provider ∧ provider.keyID ≠ "" := by
  rw [newEncryptionProvider, if_pos enabled] at created
  rcases bind_eq_ok_iff.mp created with ⟨⟨key, keyID⟩, loaded, made⟩
  have ofProvider : ∀ type message,
      (newProvider type message key keyID).map some = .ok result →
      ∃ provider, result = some provider ∧ provider.keyID ≠ "" := by
    intro type message mapped
    rcases map_eq_ok_iff.mp mapped with ⟨provider, provided, rfl⟩
    exact ⟨provider, rfl, keyID_of_newProvider provided ▸ keyID_ne_empty_of_loadKey loaded⟩
  dsimp only at made
  split at made
  next => exact ofProvider _ _ made
  next =>
    split at made
    next => exact ofProvider _ _ made
    next => contradiction

end Tailpost.Security
