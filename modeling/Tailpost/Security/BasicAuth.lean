import Tailpost.Security.Auth

/-!
# Basic authentication

A client sends its username and its password joined by a colon, and a server cuts what
it gets at the first colon.  A server therefore accepts a client exactly if both have
the same joined text and the server's own username has no colon.  Credentials identify a
client as long as its username has none; otherwise the client does not even pass the
check of its own credentials.
-/

namespace Tailpost.Security

open Tailpost.Configuration
open Tailpost.Http
open Tailpost.Utf8

/-- The configuration of basic authentication. -/
def basicAuth (username password : String) : AuthConfig :=
  { type := "basic", username, password }

namespace AuthProvider

/-- The server's provider accepts a request to which the client's provider has added its
credentials. -/
def Accepts (server client : AuthProvider) (token : Except String Bytes) (header : Header) :
    Prop :=
  ∃ request, client.addAuthentication token header = .ok request ∧
    server.authenticate request = .ok true

/-- The cut is at the first colon. -/
theorem splitColon_eq_some_iff {text name secret : Bytes} :
    splitColon text = some (name, secret) ↔ 0x3A ∉ name ∧ text = name ++ 0x3A :: secret := by
  constructor
  · intro cut
    unfold splitColon at cut
    split at cut
    next => contradiction
    next byte rest dropped =>
      cases cut
      have colon : byte = 0x3A := by
        have stops := List.head?_dropWhile_not (fun byte : UInt8 => byte != 0x3A) text
        simpa [dropped] using stops
      constructor
      · intro member
        simpa using List.mem_takeWhile_imp member
      · rw [colon] at dropped
        rw [← dropped, List.takeWhile_append_dropWhile]
  · rintro ⟨missing, rfl⟩
    have other : ∀ byte ∈ name, (byte != 0x3A) = true := by
      intro byte member
      rw [bne_iff_ne]
      rintro rfl
      exact missing member
    rw [splitColon, List.dropWhile_append_of_pos other, List.takeWhile_append_of_pos other]
    simp

/-- A server reads back what a client has encoded. -/
theorem authenticate_basic_iff {name secret : String} {header : Header} {payload : Bytes} :
    (basic name secret).authenticate
        (header.set "Authorization" (bytes "Basic " ++ Base64.encode payload)) = .ok true ↔
      splitColon payload = some (bytes name, bytes secret) := by
  have stripped : (bytes "Basic " ++ Base64.encode payload).dropPrefix? (bytes "Basic ") =
      some (Base64.encode payload) :=
    List.dropPrefix?_append_of_beq _ (BEq.refl _)
  simp only [authenticate, Header.get_set_of_eq, stripped, Base64.decode_encode]
  cases splitColon payload with
  | none => simp
  | some parts => simp [Prod.ext_iff]

/-- Two texts joined by a colon are cut where they were joined, unless the first one has
a colon of its own. -/
theorem splitColon_join_iff {username password name secret : String} :
    splitColon (bytes (username ++ ":" ++ password)) = some (bytes name, bytes secret) ↔
      ':' ∉ name.toList ∧ username ++ ":" ++ password = name ++ ":" ++ secret := by
  have colon : (0x3A : UInt8) ∈ bytes name ↔ ':' ∈ name.toList :=
    @mem_bytes_iff name ':' (by decide)
  have joined : bytes name ++ 0x3A :: bytes secret = bytes (name ++ ":" ++ secret) := by
    rw [bytes_append, bytes_append, List.append_assoc]
    rfl
  rw [splitColon_eq_some_iff, colon, joined, bytes_injective.eq_iff]

/-- A server accepts the joined text of its own credentials, if it can cut it. -/
theorem accepts_basic_iff {username password name secret : String}
    {token : Except String Bytes} {header : Header} :
    Accepts (.basic name secret) (.basic username password) token header ↔
      ':' ∉ name.toList ∧ username ++ ":" ++ password = name ++ ":" ++ secret := by
  simp only [Accepts, addAuthentication, Except.ok.injEq, exists_eq_left',
    authenticate_basic_iff, splitColon_join_iff]

/-- A text is cut in one way only. -/
theorem eq_of_join_eq {username password name secret : String}
    (plain : ':' ∉ username.toList) (plainName : ':' ∉ name.toList)
    (same : username ++ ":" ++ password = name ++ ":" ++ secret) :
    username = name ∧ password = secret := by
  have own := splitColon_join_iff.mpr ⟨plain, Eq.refl (username ++ ":" ++ password)⟩
  have other := splitColon_join_iff.mpr ⟨plainName, same⟩
  have parts := Prod.ext_iff.mp (Option.some.inj (own.symm.trans other))
  exact ⟨bytes_injective parts.1, bytes_injective parts.2⟩

end AuthProvider

open AuthProvider

/-- Credentials that the configuration admits identify their owner exactly if the
username has no colon. -/
theorem accepts_iff_eq_iff_no_colon {username password : String}
    (admitted : validateAuth (basicAuth username password) = .ok ())
    (token : Except String Bytes) (header : Header) :
    (∀ name secret, validateAuth (basicAuth name secret) = .ok () →
        (Accepts (.basic name secret) (.basic username password) token header ↔
          username = name ∧ password = secret)) ↔
      ':' ∉ username.toList := by
  constructor
  · intro identifies
    have own := (identifies username password admitted).mpr ⟨rfl, rfl⟩
    exact (accepts_basic_iff.mp own).1
  · intro plain name secret _
    rw [accepts_basic_iff]
    constructor
    · rintro ⟨plainName, same⟩
      exact eq_of_join_eq plain plainName same
    · rintro ⟨rfl, rfl⟩
      exact ⟨plain, rfl⟩

/-- The owner of the username `ann` is recognised, a colon in the password
notwithstanding, and no one else is. -/
theorem accepts_iff_eq_plain :
    validateAuth (basicAuth "ann" "x:y") = .ok () ∧
      ∀ name secret, validateAuth (basicAuth name secret) = .ok () →
        (Accepts (.basic name secret) (.basic "ann" "x:y") (.error "no token") [] ↔
          "ann" = name ∧ "x:y" = secret) :=
  ⟨by decide, (accepts_iff_eq_iff_no_colon (by decide) (.error "no token") []).mpr (by decide)⟩

/-- The username `a:b` with the password `c` is refused by its own provider, and accepted
by the provider of the username `a` with the password `b:c`. -/
theorem colon_in_username_confused :
    validateAuth (basicAuth "a:b" "c") = .ok () ∧ validateAuth (basicAuth "a" "b:c") = .ok () ∧
      ¬ Accepts (.basic "a:b" "c") (.basic "a:b" "c") (.error "no token") [] ∧
      Accepts (.basic "a" "b:c") (.basic "a:b" "c") (.error "no token") [] := by
  refine ⟨by decide, by decide, ?_, ?_⟩
  · rintro ⟨_, ⟨⟩, refused⟩
    exact absurd refused (by decide)
  · exact ⟨_, rfl, by decide⟩

end Tailpost.Security
