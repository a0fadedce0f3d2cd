import Tailpost.Configuration.LoadConfig
import Tailpost.Hoare.Triple
import Tailpost.Http.Header
import Tailpost.Text.BinaryText

/-!
# Authentication

A provider adds credentials to the header of a request, on the side of a client, and
checks those of a request, on the side of a server.  The token of an OAuth2 provider
comes from a token source that may fail.
-/

namespace Tailpost.Security

open Tailpost.Configuration
open Tailpost.Hoare
open Tailpost.Http
open Tailpost.Utf8

/-- The authentication providers. -/
inductive AuthProvider
  | basic (username password : String)
  | token (token : Bytes)
  | oauth2 (clientID clientSecret tokenURL : String) (scopes : List String)
  | header (headers : StringMap)
  deriving DecidableEq

/-- The files of the host. -/
abbrev Files :=
  String → Except String Bytes

/-- The token of a file, without the space around it. -/
def newTokenAuthProvider (files : Files) (tokenFile : String) : Except String AuthProvider := do
  let data ← wrap "error reading token file: " (files tokenFile)
  return .token (trimSpace data)

/-- No provider is a nil interface. -/
def newAuthProvider (files : Files) (auth : AuthConfig) : Except String (Option AuthProvider) :=
  if auth.type = "none" then
    .ok none
  else if auth.type = "basic" then
    .ok (some (.basic auth.username auth.password))
  else if auth.type = "token" then
    (newTokenAuthProvider files auth.tokenFile).map some
  else if auth.type = "oauth2" then
    .ok (some (.oauth2 auth.clientID auth.clientSecret auth.tokenURL auth.scopes))
  else if auth.type = "header" then
    .ok (some (.header auth.headers))
  else
    .error ("unsupported authentication type: " ++ auth.type)

namespace AuthProvider

/-- `token` is what the token source of an OAuth2 provider returns: the value of the
header `Authorization`, or an error. -/
def addAuthentication (token : Except String Bytes) (provider : AuthProvider)
    (header : Header) : Except String Header :=
  match provider with
  | basic username password =>
      .ok (header.set "Authorization"
        (bytes "Basic " ++ Base64.encode (bytes (username ++ ":" ++ password))))
  | .token secret => .ok (header.set "Authorization" (bytes "Bearer " ++ secret))
  | oauth2 _ _ _ _ => do
      let value ← wrap "error getting OAuth2 token: " token
      return header.set "Authorization" value
  | .header headers =>
      .ok (headers.entries.foldl (fun header entry => header.set entry.1 (bytes entry.2)) header)

/-- Cut at the first colon. -/
def splitColon (text : Bytes) : Option (Bytes × Bytes) :=
  match text.dropWhile (· != 0x3A) with
  | [] => none
  | _ :: rest => some (text.takeWhile (· != 0x3A), rest)

/-- The check of a request's header, an error where it cannot be read. -/
def authenticate (provider : AuthProvider) (header : Header) : Except String Bool :=
  match provider with
  | basic username password =>
      match (header.get "Authorization").dropPrefix? (bytes "Basic ") with
      | none => .ok false
      | some encoded =>
          match Base64.decode encoded with
          | none => .error "error decoding auth header: illegal base64 data"
          | some payload =>
              match splitColon payload with
              | none => .ok false
              | some (name, secret) => .ok (name == bytes username && secret == bytes password)
  | .token secret =>
      match (header.get "Authorization").dropPrefix? (bytes "Bearer ") with
      | none => .ok false
      | some sent => .ok (sent == secret)
  | oauth2 _ _ _ _ => .error "OAuth2 server-side authentication not implemented"
  | .header headers =>
      .ok (headers.entries.all fun entry => header.get entry.1 == bytes entry.2)

end AuthProvider

theorem newTokenAuthProvider_eq_ok {files : Files} {tokenFile : String}
    {provider : AuthProvider} (created : newTokenAuthProvider files tokenFile = .ok provider) :
    ∃ secret, provider = .token secret := by
  rcases bind_eq_ok_iff.mp created with ⟨data, _, made⟩
  exact ⟨trimSpace data, (Except.ok.inj made).symm⟩

/-- The provider of each type that is not `none`. -/
theorem newAuthProvider_eq_ok {files : Files} {auth : AuthConfig}
    {provider : Option AuthProvider} (enabled : auth.type ≠ "none")
    (created : newAuthProvider files auth = .ok provider) :
    (auth.type = "basic" ∧ provider = some (.basic auth.username auth.password)) ∨
      (auth.type = "token" ∧ ∃ secret, provider = some (.token secret)) ∨
      (auth.type = "oauth2" ∧ provider =
        some (.oauth2 auth.clientID auth.clientSecret auth.tokenURL auth.scopes)) ∨
      (auth.type = "header" ∧ provider = some (.header auth.headers)) := by
  rw [newAuthProvider, if_neg enabled] at created
  split at created
  next basic => exact .inl ⟨basic, (Except.ok.inj created).symm⟩
  next =>
    split at created
    next token =>
      rcases map_eq_ok_iff.mp created with ⟨tokenProvider, made, rfl⟩
      rcases newTokenAuthProvider_eq_ok made with ⟨secret, rfl⟩
      exact .inr (.inl ⟨token, secret, rfl⟩)
    next =>
      split at created
      next oauth2 => exact .inr (.inr (.inl ⟨oauth2, (Except.ok.inj created).symm⟩))
      next =>
        split at created
        next header => exact .inr (.inr (.inr ⟨header, (Except.ok.inj created).symm⟩))
        next => contradiction

/-- A type other than `none` gives a provider or an error. -/
theorem exists_provider {files : Files} {auth : AuthConfig} {provider : Option AuthProvider}
    (enabled : auth.type ≠ "none") (created : newAuthProvider files auth = .ok provider) :
    ∃ given, provider = some given := by
  rcases newAuthProvider_eq_ok enabled created with
    ⟨_, rfl⟩ | ⟨_, _, rfl⟩ | ⟨_, rfl⟩ | ⟨_, rfl⟩
  all_goals exact ⟨_, rfl⟩

end Tailpost.Security
