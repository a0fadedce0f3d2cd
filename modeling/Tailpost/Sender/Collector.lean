import Tailpost.Sender.DecryptingServer

/-!
# The servers that collect the lines

Both mock servers have two handlers.  The one of `/logs` parses the body of a request as a
list of lines and prints them, after opening an encrypted body in the server with decryption;
the one of `/health` answers with success and prints nothing.  So a server prints the lines of
a batch when the address that the agent was given leads to `/logs`, and otherwise nothing.
-/

namespace Tailpost.Delivery

open Tailpost.Hoare (bind_eq_ok_iff)
open Tailpost.Http
open Tailpost.Security
open Tailpost.Utf8

/-! ## Servers -/

/-- A `POST` request whose body could be read, and the path it was sent to. -/
structure Arrival where
  path : String
  request : Received

/-- How a request is answered. -/
inductive Answer
  /-- The lines are printed, and the request is answered with success. -/
  | printed (logs : List Bytes)
  /-- The request is answered with an error. -/
  | badRequest (message : String)
  /-- The server says that it is healthy. -/
  | healthy
  /-- There is no handler for the path. -/
  | notFound
  deriving DecidableEq

namespace Answer

/-- The status code of the answer. -/
def status : Answer → Nat
  | .printed _ | .healthy => 200
  | .badRequest _ => 400
  | .notFound => 404

/-- The lines that are printed. -/
def lines : Answer → List Bytes
  | .printed logs => logs
  | .badRequest _ | .healthy | .notFound => []

end Answer

/-- Parse the JSON of the lines and print them. -/
def printLogs (data : Bytes) : Answer :=
  match Json.unmarshal data with
  | some logs => .printed logs
  | none => .badRequest "Failed to parse JSON"

/-- A server with a handler for `/logs` and one for `/health`. -/
def route (logs : Received → Answer) (arrival : Arrival) : Answer :=
  if arrival.path = "/logs" then logs arrival.request
  else if arrival.path = "/health" then .healthy
  else .notFound

/-- The mock server. -/
def mockServer : Arrival → Answer :=
  route fun request => printLogs request.body

/-- The mock server with decryption. -/
def decryptingServer (aead : Aead) (key : Bytes) : Arrival → Answer :=
  route fun request =>
    match handleLogs aead key request with
    | .refused message => .badRequest message
    | .decrypted data | .unencrypted data => printLogs data

/-! ## From a batch to a server -/

section Transport

variable (ciphers : Ciphers) (pathOf : String → String) (sender : HTTPSender)

/-- The request for a batch as the server gets it; `pathOf` is the path of a URL as the client
takes it apart. -/
def transport (attempt : Attempt) (logs : List Bytes) : Except String Arrival := do
  let request ← sender.prepare ciphers attempt logs
  let received ← transmit request
  return ⟨pathOf request.url, received⟩

/-- The server prints lines of a batch that reaches it, from the first one on and with what is
not encoded text replaced, and nothing else. -/
def PrintsOnly (server : Arrival → Answer) : Prop :=
  ∀ attempt logs arrival, transport ciphers pathOf sender attempt logs = .ok arrival →
    (server arrival).lines <+: logs.map coerce

/-- The server prints the lines of every batch that reaches it, with what is not encoded
text replaced. -/
def Reads (server : Arrival → Answer) : Prop :=
  ∀ attempt logs arrival, transport ciphers pathOf sender attempt logs = .ok arrival →
    server arrival = .printed (logs.map coerce)

end Transport

section Servers

variable {ciphers : Ciphers} {pathOf : String → String} {sender : HTTPSender}

theorem Reads.printsOnly {server : Arrival → Answer}
    (reads : Reads ciphers pathOf sender server) : PrintsOnly ciphers pathOf sender server := by
  intro attempt logs arrival arrived
  rw [reads attempt logs arrival arrived]
  exact List.prefix_rfl

theorem printLogs_marshal (logs : List Bytes) :
    printLogs (Json.marshal logs) = .printed (logs.map coerce) := by
  rw [printLogs, Json.unmarshal_marshal]

theorem transport_eq_ok_iff {attempt : Attempt} {logs : List Bytes} {arrival : Arrival} :
    transport ciphers pathOf sender attempt logs = .ok arrival ↔
      ∃ request received, attempt.marshal = none ∧
        sender.assemble ciphers attempt (Json.marshal logs) = .ok request ∧
        transmit request = .ok received ∧ arrival = ⟨pathOf request.url, received⟩ := by
  simp only [transport, bind_eq_ok_iff, HTTPSender.prepare_eq_ok_iff]
  constructor
  · rintro ⟨request, ⟨marshalled, assembled⟩, received, transmitted, made⟩
    exact ⟨request, received, marshalled, assembled, transmitted, (Except.ok.inj made).symm⟩
  · rintro ⟨request, received, marshalled, assembled, transmitted, rfl⟩
    exact ⟨request, ⟨marshalled, assembled⟩, received, transmitted, rfl⟩

/-- All requests of a sender go to the path of its address. -/
theorem path_of_transport {attempt : Attempt} {logs : List Bytes} {arrival : Arrival}
    (arrived : transport ciphers pathOf sender attempt logs = .ok arrival) :
    arrival.path = pathOf sender.serverURL := by
  obtain ⟨request, received, _, assembled, _, rfl⟩ := transport_eq_ok_iff.mp arrived
  obtain ⟨body, header, _, _, _, rfl⟩ := HTTPSender.assemble_eq_ok_iff.mp assembled
  rfl

/-- What the handler of `/logs` does decides what a server prints. -/
theorem reads_route {logsHandler : Received → Answer} (leads : pathOf sender.serverURL = "/logs")
    (handles : ∀ attempt logs arrival, transport ciphers pathOf sender attempt logs = .ok arrival →
      logsHandler arrival.request = .printed (logs.map coerce)) :
    Reads ciphers pathOf sender (route logsHandler) := by
  intro attempt logs arrival arrived
  rw [route, if_pos ((path_of_transport arrived).trans leads)]
  exact handles attempt logs arrival arrived

/-- A server prints nothing for an address that does not lead to `/logs`. -/
theorem printsOnly_route {logsHandler : Received → Answer}
    (handles : ∀ attempt logs arrival, transport ciphers pathOf sender attempt logs = .ok arrival →
      logsHandler arrival.request = .printed (logs.map coerce)) :
    PrintsOnly ciphers pathOf sender (route logsHandler) := by
  intro attempt logs arrival arrived
  by_cases leads : pathOf sender.serverURL = "/logs"
  · exact (reads_route leads handles).printsOnly attempt logs arrival arrived
  · rw [← path_of_transport arrived] at leads
    rw [route, if_neg leads]
    split <;> exact List.nil_prefix

/-- The mock server parses the body of a sender without encryption, whatever its credentials
are. -/
theorem printLogs_of_transport (plain : sender.encryptionProvider = none) {attempt : Attempt}
    {logs : List Bytes} {arrival : Arrival}
    (arrived : transport ciphers pathOf sender attempt logs = .ok arrival) :
    printLogs arrival.request.body = .printed (logs.map coerce) := by
  obtain ⟨request, received, _, assembled, transmitted, rfl⟩ := transport_eq_ok_iff.mp arrived
  obtain ⟨body, header, encrypted, _, _, rfl⟩ := HTTPSender.assemble_eq_ok_iff.mp assembled
  obtain ⟨_, rfl⟩ := transmit_eq_ok_iff.mp transmitted
  rw [HTTPSender.encryptBody, plain] at encrypted
  cases encrypted
  exact printLogs_marshal logs

theorem reads_mockServer (plain : sender.encryptionProvider = none)
    (leads : pathOf sender.serverURL = "/logs") : Reads ciphers pathOf sender mockServer :=
  reads_route leads fun _ _ _ => printLogs_of_transport plain

theorem printsOnly_mockServer (plain : sender.encryptionProvider = none) :
    PrintsOnly ciphers pathOf sender mockServer :=
  printsOnly_route fun _ _ _ => printLogs_of_transport plain

/-- The server with decryption reads a sender that encrypts with its key, when the headers
that mark the request arrive as the sender set them. -/
theorem reads_decryptingServer {provider : EncryptionProvider} (inverts : (ciphers .aes).Exact)
    (aes : provider.type = .aes) (named : provider.keyID ≠ "")
    (encrypts : sender.encryptionProvider = some provider)
    (legible : ∀ token entries, sender.credentials token = .ok entries →
      Legible provider.keyID entries) (leads : pathOf sender.serverURL = "/logs") :
    Reads ciphers pathOf sender (decryptingServer (ciphers .aes) provider.key) := by
  apply reads_route leads
  intro attempt logs arrival arrived
  obtain ⟨request, received, _, assembled, transmitted, rfl⟩ := transport_eq_ok_iff.mp arrived
  obtain ⟨nonce, entries, _, _, authenticated, rfl⟩ :=
    (assemble_eq_ok_iff_encryptedRequest aes encrypts).mp assembled
  obtain ⟨_, rfl⟩ := transmit_eq_ok_iff.mp transmitted
  rw [(handleLogs_encryptedRequest_iff inverts named encrypts).mpr
    (legible attempt.token entries authenticated)]
  exact printLogs_marshal logs

end Servers

end Tailpost.Delivery
