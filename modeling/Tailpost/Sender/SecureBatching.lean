import Tailpost.Sender.Delivery

/-!
# Batches of a secured sender

The two constructors of a sender take the batch size and the flush interval from the
same configuration.  Only the plain one replaces a batch size that is not positive; the
other one makes a batch of the given capacity, and a negative capacity is a panic.  The
interval needs no such care, because the flush loop replaces it for both.
-/

namespace Tailpost.Delivery

open Tailpost.Configuration
open Tailpost.Hoare (bind_eq_ok_iff)
open Tailpost.Security
open Tailpost.Sender.HTTPSender (effectiveBatchSize effectiveBatchSize_of_pos)

namespace HTTPSender

/-- The test of `SendWithContext` after it has added a line. -/
def full (sender : HTTPSender) (length : Nat) : Bool :=
  sender.batchSize ≤ length

/-- The interval of the ticker in `flushLoop`. -/
def interval (sender : HTTPSender) : Int :=
  if sender.flushInterval ≤ 0 then 1000000000 else sender.flushInterval

/-- Both senders flush at the same number of lines and in the same intervals.  A batch
to which a line has been added is not empty. -/
structure SameBatching (sender other : HTTPSender) : Prop where
  size : ∀ length, 0 < length → sender.full length = other.full length
  interval : sender.interval = other.interval

end HTTPSender

open HTTPSender

theorem makeBatch_eq_ok_iff {capacity : Int} :
    makeBatch capacity = .ok () ↔ 0 ≤ capacity ∧ capacity * 16 ≤ maxAlloc := by
  unfold makeBatch
  split
  next allowed => exact iff_of_true rfl allowed
  next refused => exact iff_of_false (by simp) refused

/-- The sizes and intervals of both constructors agree wherever both return. -/
theorem sameBatching_replaced {serverURL : String} {batchSize flushInterval : Int}
    {auth : Option AuthProvider} {encryption : Option EncryptionProvider} :
    SameBatching ⟨serverURL, batchSize, flushInterval, auth, encryption⟩
      ⟨serverURL, effectiveBatchSize batchSize,
        if flushInterval ≤ 0 then 1000000000 else flushInterval, none, none⟩ where
  size length positive := by
    apply decide_eq_decide.mpr
    simp only [effectiveBatchSize]
    split <;> omega
  interval := by
    simp only [HTTPSender.interval]
    split <;> simp [*]

theorem batchSize_resolved (platform : Platform) (raw : Config) :
    (resolved platform raw).batchSize = orElse 0 raw.batchSize 10 := by
  simp only [resolved]
  split <;> rfl

/-- Zero stands for a default, so that no accepted file has a batch size of zero. -/
theorem batchSize_ne_zero {platform : Platform} {raw config : Config}
    (accepted : complete platform raw = .ok config) : config.batchSize ≠ 0 := by
  rw [← (complete_eq_ok_iff.mp accepted).2, batchSize_resolved, orElse]
  split <;> omega

/-- A secured sender exists and batches as a plain one does exactly if the batch size of
the file is not negative and a batch of that size can be allocated. -/
theorem secure_sameBatching_iff {platform : Platform} {raw config : Config}
    {environment : Environment} {authProvider : Option AuthProvider}
    {encryptionProvider : Option EncryptionProvider}
    (accepted : complete platform raw = .ok config)
    (tls : configureTLS environment config.security.tls = .ok ())
    (auth : configureAuth environment config.security.auth = .ok authProvider)
    (encryption : configureEncryption environment config.security.encryption =
      .ok encryptionProvider) :
    (∃ secure plain, newSecureHTTPSender environment config = .ok secure ∧
        newHTTPSender config.serverURL config.batchSize config.flushInterval = .ok plain ∧
        SameBatching secure plain) ↔
      0 ≤ raw.batchSize ∧ raw.batchSize * 16 ≤ maxAlloc := by
  have size : config.batchSize = orElse 0 raw.batchSize 10 := by
    rw [← (complete_eq_ok_iff.mp accepted).2, batchSize_resolved]
  -- Zero stands for ten, so that only a negative size reaches the constructors unchanged.
  have bounds : 0 ≤ raw.batchSize ∧ raw.batchSize * 16 ≤ maxAlloc ↔
      0 < config.batchSize ∧ config.batchSize * 16 ≤ maxAlloc := by
    rw [size, orElse, maxAlloc]
    split <;> omega
  rw [bounds]
  constructor
  · rintro ⟨secure, plain, built, _, _⟩
    rcases bind_eq_ok_iff.mp built with ⟨⟨⟩, made, _⟩
    have allowed := makeBatch_eq_ok_iff.mp made
    have given := batchSize_ne_zero accepted
    exact ⟨by omega, allowed.2⟩
  · rintro ⟨positive, fits⟩
    have made : makeBatch config.batchSize = .ok () :=
      makeBatch_eq_ok_iff.mpr ⟨Int.le_of_lt positive, fits⟩
    refine ⟨⟨config.serverURL, config.batchSize, config.flushInterval, authProvider,
      encryptionProvider⟩, _, ?_, ?_, sameBatching_replaced⟩
    · simp only [newSecureHTTPSender, bind_eq_ok_iff, orFail_eq_ok_iff]
      exact ⟨(), made, (), tls, authProvider, auth, encryptionProvider, encryption, rfl⟩
    · have kept := effectiveBatchSize_of_pos positive
      rw [newHTTPSender, bind_eq_ok_iff]
      exact ⟨(), kept.symm ▸ made, rfl⟩

/-- Encryption and credentials are set up for a configuration without a batch size. -/
theorem secure_sameBatching_secureConfig :
    ∃ secure plain,
      newSecureHTTPSender sampleEnvironment (resolved .linux secureConfig) = .ok secure ∧
        newHTTPSender "https://logs:8080" 10 5000000000 = .ok plain ∧
        SameBatching secure plain :=
  (secure_sameBatching_iff
    (by decide : complete .linux secureConfig = .ok (resolved .linux secureConfig)) rfl rfl
    rfl).mpr (by decide)

/-- The configuration asks for credentials, and for batches of `-1` lines. -/
def negativeBatchConfig : Config where
  serverURL := "http://logs:8080"
  batchSize := -1
  security := { auth := { type := "basic", username := "agent", password := "secret" } }

/-- The configuration is accepted and the set-up of its security succeeds, but the
constructor panics where the plain one makes batches of one line. -/
theorem negative_batch_size_panics :
    ∃ config authProvider plain, complete .linux negativeBatchConfig = .ok config ∧
      configureTLS sampleEnvironment config.security.tls = .ok () ∧
      configureAuth sampleEnvironment config.security.auth = .ok authProvider ∧
      configureEncryption sampleEnvironment config.security.encryption = .ok none ∧
      newHTTPSender config.serverURL config.batchSize config.flushInterval = .ok plain ∧
      plain.batchSize = 1 ∧ newSecureHTTPSender sampleEnvironment config = .error .panic :=
  ⟨resolved .linux negativeBatchConfig, _, _, by decide, rfl, rfl, rfl, rfl, rfl, rfl⟩

/-! ## The running sender -/

section Running

universe u

variable {α : Type u} [Inhabited α]

/-- What a constructor returns, before anyone uses it. -/
def HTTPSender.unused (sender : HTTPSender) : Sender.HTTPSender α :=
  .create sender.batchSize

/-- With or without security, the sender of an accepted configuration runs as the one that
`NewHTTPSender` makes for the batch size of the configuration. -/
theorem unused_of_setupLogSender {platform : Platform} {raw config : Config}
    {environment : Environment} {sender : HTTPSender}
    (accepted : complete platform raw = .ok config)
    (built : setupLogSender environment config = .ok sender) :
    (sender.unused : Sender.HTTPSender α) = .newHTTPSender config.batchSize := by
  unfold setupLogSender at built
  split at built
  next =>
    simp only [newSecureHTTPSender, bind_eq_ok_iff, orFail_eq_ok_iff] at built
    obtain ⟨_, made, _, _, _, _, _, _, returned⟩ := built
    cases returned
    have allowed := makeBatch_eq_ok_iff.mp made
    have given := batchSize_ne_zero accepted
    rw [Sender.HTTPSender.newHTTPSender, effectiveBatchSize_of_pos (by omega)]
    rfl
  next =>
    rw [newHTTPSender, bind_eq_ok_iff] at built
    obtain ⟨_, _, returned⟩ := built
    cases returned
    rfl

/-- A running sender decides with the test of its settings whether a batch is full. -/
theorem sendWithContext_of_check {sender : HTTPSender} {running : Sender.HTTPSender α} {id : Nat}
    (size : running.batchSize = sender.batchSize) (position : running.callers id = .check) :
    running.sendWithContext id =
      some (running.goto id
        (if sender.full running.batch.length then .flush else .sendUnlock)) := by
  simp only [Sender.HTTPSender.sendWithContext, position, size, full, Sender.Batches.batch_length,
    decide_eq_true_eq]
  split <;> rfl

end Running

end Tailpost.Delivery
