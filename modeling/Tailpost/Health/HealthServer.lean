import Tailpost.Security.Auth

/-!
# The health server

The server answers probes on three endpoints.  With security enabled each of them is
wrapped in a check of the request's credentials, and the wrapped handler is called
only when the check succeeds.
-/

namespace Tailpost.Health

open Tailpost.Configuration
open Tailpost.Hoare
open Tailpost.Http
open Tailpost.Security
open Tailpost.Utf8

/-- The server with its settings. -/
structure HealthServer where
  listenAddr : String
  ready : Bool
  authProvider : Option AuthProvider
  useTLS : Bool
  certFile : String
  keyFile : String

/-- A server without TLS and authentication, not ready. -/
def newHealthServer (listenAddr : String) : HealthServer where
  listenAddr := listenAddr
  ready := false
  authProvider := none
  useTLS := false
  certFile := ""
  keyFile := ""

/-- A server from the section `security`. -/
def newSecureHealthServer (files : Files) (listenAddr : String) (security : SecurityConfig) :
    Except String HealthServer := do
  let server := newHealthServer listenAddr
  let server :=
    if security.tls.enabled then
      { server with
        useTLS := true
        certFile := security.tls.certFile
        keyFile := security.tls.keyFile }
    else
      server
  if security.auth.type ≠ "none" then
    return { server with authProvider := ← newAuthProvider files security.auth }
  else
    return server

/-! ## Requests -/

/-- What becomes of a request: an error is returned, or the handler is called. -/
inductive Reply (ρ : Type)
  | refused (status : Nat) (message : String)
  | handled (response : ρ)
  deriving DecidableEq

/-- Check the credentials of a request before the handler is called. -/
def HealthServer.withAuth {ρ : Type} (server : HealthServer) (handler : Header → ρ)
    (request : Header) : Reply ρ :=
  match server.authProvider with
  | none => .handled (handler request)
  | some provider =>
      match provider.authenticate request with
      | .error _ => .refused 500 "Authentication error"
      | .ok false => .refused 401 "Unauthorized"
      | .ok true => .handled (handler request)

/-- The answer to a request. -/
structure Response where
  status : Nat
  contentType : String
  body : String
  deriving DecidableEq

/-- The JSON of a status; `timestamp` is the time of the request. -/
def statusResponse (code : Nat) (status timestamp : String) : Response where
  status := code
  contentType := "application/json"
  body := "\x7b\"status\":\"" ++ status ++ "\",\"timestamp\":\"" ++ timestamp ++
    "\",\"version\":\"1.0.0\"\x7d\n"

/-- The paths that the server handles. -/
inductive Endpoint
  | health
  | ready
  | metrics
  deriving DecidableEq

/-- The handlers do not look at the header. -/
def HealthServer.handler (server : HealthServer) (timestamp : String) :
    Endpoint → Header → Response
  | .health, _ => statusResponse 200 "ok" timestamp
  | .ready, _ =>
      if server.ready then statusResponse 200 "ready" timestamp
      else statusResponse 503 "not ready" timestamp
  | .metrics, _ =>
      { status := 200
        contentType := "text/plain"
        body := "# HELP tailpost_up Whether the Tailpost agent is running\n" ++
          "# TYPE tailpost_up gauge\n" ++ "tailpost_up 1\n" }

/-- A request to an endpoint. -/
def HealthServer.serve (server : HealthServer) (timestamp : String) (endpoint : Endpoint)
    (request : Header) : Reply Response :=
  server.withAuth (server.handler timestamp endpoint) request

/-! ## Requests without credentials -/

/-- Every request without a header is refused on every endpoint. -/
def RefusesBare (server : HealthServer) : Prop :=
  ∀ timestamp endpoint, ∃ status message,
    server.serve timestamp endpoint [] = .refused status message

/-- A request is refused unless its credentials are accepted. -/
theorem refused_iff {server : HealthServer} {provider : AuthProvider}
    (checked : server.authProvider = some provider) {timestamp : String} {endpoint : Endpoint}
    {request : Header} :
    (∃ status message, server.serve timestamp endpoint request = .refused status message) ↔
      provider.authenticate request ≠ .ok true := by
  unfold HealthServer.serve HealthServer.withAuth
  rw [checked]
  cases verdict : provider.authenticate request with
  | error message => simp [verdict]
  | ok accepted => cases accepted <;> simp [verdict]

/-- Only a check for headers that are all empty lets a request without a header pass. -/
theorem authenticate_nil_eq_true_iff {provider : AuthProvider} :
    provider.authenticate [] = .ok true ↔
      ∃ headers, provider = .header headers ∧ ∀ entry ∈ headers.entries, entry.2 = "" := by
  cases provider with
  | basic username password =>
      have missing : (Header.get [] "Authorization").dropPrefix? (bytes "Basic ") = none := by
        decide
      simp [AuthProvider.authenticate, missing]
  | token secret =>
      have missing : (Header.get [] "Authorization").dropPrefix? (bytes "Bearer ") = none := by
        decide
      simp [AuthProvider.authenticate, missing]
  | oauth2 clientID clientSecret tokenURL scopes => simp [AuthProvider.authenticate]
  | header headers =>
      have matched : ∀ entry : String × String,
          (Header.get [] entry.1 == bytes entry.2) = true ↔ entry.2 = "" := by
        intro entry
        rw [Header.get_nil, beq_iff_eq, eq_comm, bytes_eq_nil_iff]
      simp only [AuthProvider.authenticate, Except.ok.injEq, List.all_eq_true, matched]
      simp

theorem newSecureHealthServer_authProvider {files : Files} {listenAddr : String}
    {security : SecurityConfig} {server : HealthServer} (enabled : security.auth.type ≠ "none")
    (created : newSecureHealthServer files listenAddr security = .ok server) :
    newAuthProvider files security.auth = .ok server.authProvider := by
  simp only [newSecureHealthServer, if_pos enabled, bind_eq_ok_iff] at created
  rcases created with ⟨provider, provided, made⟩
  cases made
  exact provided

/-- With authentication enabled, requests without a header are refused if and only if
authentication by headers asks for a header with a value. -/
theorem refusesBare_iff {files : Files} {listenAddr : String} {security : SecurityConfig}
    {server : HealthServer} (enabled : security.auth.type ≠ "none")
    (created : newSecureHealthServer files listenAddr security = .ok server) :
    RefusesBare server ↔
      (security.auth.type = "header" → ∃ entry ∈ security.auth.headers.entries, entry.2 ≠ "") := by
  have made := newSecureHealthServer_authProvider enabled created
  rcases exists_provider enabled made with ⟨provider, checked⟩
  have refuses : RefusesBare server ↔ provider.authenticate [] ≠ .ok true := by
    unfold RefusesBare
    simp only [refused_iff checked]
    constructor
    · intro refused
      exact refused "" .health
    · intro refused _ _
      exact refused
  rw [refuses, Ne, authenticate_nil_eq_true_iff]
  rw [checked] at made
  rcases newAuthProvider_eq_ok enabled made with
    ⟨type, same⟩ | ⟨type, _, same⟩ | ⟨type, same⟩ | ⟨type, same⟩
  all_goals
    cases same
    simp [type]

/-- The loaded configuration for authentication by headers. -/
def headerConfig (headers : StringMap) : Config :=
  resolved .linux
    { serverURL := "http://logs:8080"
      security := { auth := { type := "header", headers := headers } } }

/-- The endpoints are closed when a value is asked for. -/
theorem refusesBare_iff_apiKey :
    ∃ server,
      newSecureHealthServer (fun _ => .error "no such file") ":8080"
          (headerConfig ⟨[("X-Api-Key", "secret")], by decide⟩).security = .ok server ∧
        RefusesBare server :=
  ⟨_, rfl, (@refusesBare_iff (fun _ => .error "no such file") ":8080"
    (headerConfig ⟨[("X-Api-Key", "secret")], by decide⟩).security _ (by decide) rfl).mpr
    fun _ => ⟨("X-Api-Key", "secret"), List.mem_singleton.mpr rfl, by decide⟩⟩

/-- A file with authentication by headers and no headers is accepted, and everyone gets
an answer. -/
theorem empty_headers_open :
    complete .linux
        { serverURL := "http://logs:8080", security := { auth := { type := "header" } } } =
        .ok (headerConfig .empty) ∧
      (headerConfig .empty).security.auth.type ≠ "none" ∧
      ∃ server,
        newSecureHealthServer (fun _ => .error "no such file") ":8080"
            (headerConfig .empty).security = .ok server ∧
          server.serve "2024-01-01T00:00:00Z" .metrics [] =
            .handled (server.handler "2024-01-01T00:00:00Z" .metrics []) :=
  ⟨by decide, by decide, _, rfl, rfl⟩

end Tailpost.Health
