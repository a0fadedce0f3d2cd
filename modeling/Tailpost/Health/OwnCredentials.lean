import Tailpost.Health.HealthServer
import Tailpost.Security.BasicAuth
import Tailpost.Sender.DecryptingServer

/-!
# A client and a server with the same credentials

The configuration that a health server checks requests against also tells a client what to
send.  On the way the header has to be one that a client is allowed to send, values lose the
blanks at their ends, and what stands under a name that describes the message is lost.  The
file says which configurations let their own clients in.
-/

namespace Tailpost.Health

open Tailpost.Configuration
open Tailpost.Delivery (credentials addAuthentication_eq_ok_iff)
open Tailpost.Http
open Tailpost.Security
open Tailpost.Utf8

/-! ## Values on their way -/

/-- A value without blanks at its ends arrives as it is. -/
theorem trim_eq_self {value : Bytes} (first : ∀ byte ∈ value.head?, isBlank byte = false)
    (last : ∀ byte ∈ value.getLast?, isBlank byte = false) : trim value = value := by
  have front : value.dropWhile isBlank = value := by
    cases value with
    | nil => rfl
    | cons byte rest => exact List.dropWhile_cons_of_neg (by simp [first byte rfl])
  rw [trim, front, List.rdropWhile_eq_self_iff]
  intro given blank
  rw [last _ (List.getLast?_eq_some_getLast given)] at blank
  contradiction

theorem trim_nil : trim [] = [] :=
  rfl

/-- What is stripped off is a pattern. -/
theorem length_of_findSome? {patterns : List Bytes} (solid : [] ∉ patterns) {text rest : Bytes}
    (found : patterns.findSome? text.dropPrefix? = some rest) : rest.length < text.length := by
  obtain ⟨pattern, member, dropped⟩ := List.exists_of_findSome?_eq_some found
  obtain ⟨front, rfl, same⟩ := List.dropPrefix?_eq_some_iff.mp dropped
  rw [beq_iff_eq] at same
  subst same
  have given : 0 < front.length := by
    rw [List.length_pos_iff]
    rintro rfl
    exact solid member
  rw [List.length_append]
  omega

/-- Enough fuel leaves nothing to strip. -/
theorem findSome?_stripFront {patterns : List Bytes} (solid : [] ∉ patterns) {fuel : Nat}
    {text : Bytes} (enough : text.length ≤ fuel) :
    patterns.findSome? (stripFront patterns fuel text).dropPrefix? = none := by
  induction fuel generalizing text with
  | zero =>
      cases found : patterns.findSome? (stripFront patterns 0 text).dropPrefix? with
      | none => rfl
      | some rest =>
          have shorter := length_of_findSome? solid found
          rw [stripFront] at shorter
          omega
  | succ fuel ih =>
      rw [stripFront]
      cases found : patterns.findSome? text.dropPrefix? with
      | none => exact found
      | some rest =>
          have shorter := length_of_findSome? solid found
          exact ih (by omega)

/-- Trimmed text does not end in a blank. -/
theorem getLast?_trimSpace {text : Bytes} {byte : UInt8}
    (last : (trimSpace text).getLast? = some byte) : isBlank byte = false := by
  have solid : [] ∉ (spaces.map String.utf8EncodeChar).map List.reverse := by decide
  rw [trimSpace, List.getLast?_reverse] at last
  generalize stripFront (spaces.map String.utf8EncodeChar) text.length text = front at last
  have stripped := findSome?_stripFront solid (Nat.le_of_eq front.length_reverse)
  generalize stripFront _ _ front.reverse = back at last stripped
  cases back with
  | nil => contradiction
  | cons first rest =>
      cases last
      rw [List.findSome?_eq_none_iff] at stripped
      by_contra blank
      have single : [byte] ∈ (spaces.map String.utf8EncodeChar).map List.reverse := by
        rw [Bool.not_eq_false, isBlank, Bool.or_eq_true, beq_iff_eq, beq_iff_eq] at blank
        rcases blank with rfl | rfl
        · decide
        · decide
      have none := stripped [byte] single
      simp [List.dropPrefix?] at none

/-- A character of an encoding. -/
theorem of_mem_encode {text : Bytes} {byte : UInt8} (member : byte ∈ Base64.encode text) :
    isBlank byte = false ∧ isControl byte = false := by
  have digits : ∀ number < 64, isBlank (Base64.digit number) = false ∧
      isControl (Base64.digit number) = false := by
    decide
  have padding : isBlank Base64.padding = false ∧ isControl Base64.padding = false := by decide
  induction text using Base64.encode.induct with
  | case1 => contradiction
  | case2 a =>
      have aSmall := a.toNat_lt
      simp only [Base64.encode, List.mem_cons, List.not_mem_nil, or_false] at member
      rcases member with rfl | rfl | rfl | rfl
      · exact digits _ (by omega)
      · exact digits _ (by omega)
      · exact padding
      · exact padding
  | case3 a b =>
      have aSmall := a.toNat_lt
      have bSmall := b.toNat_lt
      simp only [Base64.encode, List.mem_cons, List.not_mem_nil, or_false] at member
      rcases member with rfl | rfl | rfl | rfl
      · exact digits _ (by omega)
      · exact digits _ (by omega)
      · exact digits _ (by omega)
      · exact padding
  | case4 a b c rest ih =>
      have aSmall := a.toNat_lt
      have bSmall := b.toNat_lt
      have cSmall := c.toNat_lt
      simp only [Base64.encode, List.mem_cons] at member
      rcases member with rfl | rfl | rfl | rfl | later
      · exact digits _ (by omega)
      · exact digits _ (by omega)
      · exact digits _ (by omega)
      · exact digits _ (by omega)
      · exact ih later

theorem encode_ne_nil {text : Bytes} (given : text ≠ []) : Base64.encode text ≠ [] := by
  intro empty
  have decoded := Base64.decode_encode text
  rw [empty] at decoded
  exact given (Option.some.inj decoded).symm

/-! ## Credentials -/

/-- The client's provider adds credentials to a request that can be sent, and the server's
provider accepts it as it arrives. -/
def Passes (server client : AuthProvider) (token : Except String Bytes) : Prop :=
  ∃ request : Header, client.addAuthentication token [] = .ok request ∧ request.valid = true ∧
    server.authenticate request.received = .ok true

/-- The same credentials; a loop over headers may visit them in another order. -/
inductive Same : AuthProvider → AuthProvider → Prop
  | refl (provider : AuthProvider) : Same provider provider
  | headers {checked sent : StringMap} : sent.entries.Perm checked.entries →
      Same (.header checked) (.header sent)

/-- Every header can be sent, arrives with its value, and is not set to another one under a
different spelling of its name. -/
structure Clean (headers : StringMap) : Prop where
  name : ∀ entry ∈ headers.entries, validName (canonicalKey entry.1) = true
  carried : ∀ entry ∈ headers.entries, isReserved (canonicalKey entry.1) = true → entry.2 = ""
  value : ∀ entry ∈ headers.entries, validValue (bytes entry.2) = true
  trimmed : ∀ entry ∈ headers.entries, trim (bytes entry.2) = bytes entry.2
  unique : ∀ entry ∈ headers.entries, ∀ other ∈ headers.entries,
    canonicalKey other.1 = canonicalKey entry.1 → other.2 = entry.2

/-- Who has these credentials is let in. -/
def Recognizable : AuthProvider → Prop
  | .basic username _ => ':' ∉ username.toList
  | .token secret => secret ≠ [] ∧ validValue secret = true
  | .oauth2 _ _ _ _ => False
  | .header headers => Clean headers

-- two spellings of a name with different values contradict each other
example : ¬ Recognizable (.header ⟨[("X-Key", "a"), ("x-key", "b")], by decide⟩) := fun clean =>
  absurd (clean.unique ("X-Key", "a") (by simp) ("x-key", "b") (by simp) (by decide)) (by decide)

-- the address of the server does not arrive as a header
example : ¬ Recognizable (.header ⟨[("Host", "logs")], by decide⟩) := fun clean =>
  absurd (clean.carried ("Host", "logs") (by simp) (by decide)) (by decide)

theorem passes_iff {server client : AuthProvider} {token : Except String Bytes} :
    Passes server client token ↔
      ∃ entries, credentials token client = .ok entries ∧
        (Header.setAll [] entries).valid = true ∧
        server.authenticate (Header.setAll [] entries).received = .ok true := by
  simp only [Passes, addAuthentication_eq_ok_iff]
  constructor
  · rintro ⟨_, ⟨entries, given, rfl⟩, sendable, accepted⟩
    exact ⟨entries, given, sendable, accepted⟩
  · rintro ⟨entries, given, sendable, accepted⟩
    exact ⟨_, ⟨entries, given, rfl⟩, sendable, accepted⟩

/-- A request with one value under `Authorization`. -/
theorem valid_authorization_iff {value : Bytes} :
    (Header.setAll [] [("Authorization", value)]).valid = true ↔ validValue value = true := by
  have name : validName (canonicalKey "Authorization") = true := by decide
  simp [Header.setAll, Header.set, Header.valid, name]

theorem get_authorization (value : Bytes) :
    (Header.setAll [] [("Authorization", value)]).received.get "Authorization" = trim value := by
  rw [Header.get_received_of_carried _ (by decide), Header.get_setAll]
  simp [Header.lastOr]

/-- A value behind a scheme arrives as it is, unless nothing is there or it ends in a
blank. -/
theorem trim_scheme {scheme value : Bytes} (given : value ≠ [])
    (first : ∃ byte rest, scheme = byte :: rest ∧ isBlank byte = false)
    (last : ∀ byte ∈ value.getLast?, isBlank byte = false) :
    trim (scheme ++ value) = scheme ++ value := by
  obtain ⟨letter, rest, rfl, solid⟩ := first
  apply trim_eq_self
  · intro byte head
    cases head
    exact solid
  · intro byte final
    rw [List.getLast?_append_of_ne_nil _ given] at final
    exact last byte final

theorem validValue_append {front back : Bytes} :
    validValue (front ++ back) = (validValue front && validValue back) :=
  List.all_append

theorem passes_basic_iff {username password : String} {token : Except String Bytes} :
    Passes (.basic username password) (.basic username password) token ↔
      ':' ∉ username.toList := by
  generalize joined : bytes (username ++ ":" ++ password) = payload
  have given : payload ≠ [] := by
    rw [← joined, Ne, bytes_eq_nil_iff]
    intro empty
    simpa using congrArg String.toList empty
  have sendable : validValue (bytes "Basic " ++ Base64.encode payload) = true := by
    rw [validValue_append, Bool.and_eq_true]
    refine ⟨by decide, List.all_eq_true.mpr fun byte member => ?_⟩
    rw [(of_mem_encode member).2]
    rfl
  have arrives : trim (bytes "Basic " ++ Base64.encode payload) =
      bytes "Basic " ++ Base64.encode payload :=
    trim_scheme (encode_ne_nil given) ⟨_, _, rfl, rfl⟩
      fun byte final => (of_mem_encode (List.mem_of_getLast? final)).1
  have checked := @AuthProvider.authenticate_basic_iff username password [] payload
  simp only [AuthProvider.authenticate, Header.get_set_of_eq] at checked
  have cut := @AuthProvider.splitColon_join_iff username password username password
  rw [joined] at cut
  simp only [passes_iff, credentials, joined, Except.ok.injEq, exists_eq_left',
    valid_authorization_iff, sendable, true_and, AuthProvider.authenticate, get_authorization,
    arrives, checked, cut, and_true]

theorem passes_token_iff {secret : Bytes} {token : Except String Bytes}
    (trimmed : ∀ byte ∈ secret.getLast?, isBlank byte = false) :
    Passes (.token secret) (.token secret) token ↔ secret ≠ [] ∧ validValue secret = true := by
  have scheme : validValue (bytes "Bearer ") = true := by decide
  simp only [passes_iff, credentials, Except.ok.injEq, exists_eq_left', valid_authorization_iff,
    validValue_append, scheme, Bool.true_and, AuthProvider.authenticate, get_authorization]
  by_cases empty : secret = []
  · subst empty
    have refused : (trim (bytes "Bearer " ++ [])).dropPrefix? (bytes "Bearer ") = none := by
      decide
    rw [refused]
    simp
  · have arrives : trim (bytes "Bearer " ++ secret) = bytes "Bearer " ++ secret :=
      trim_scheme empty ⟨_, _, rfl, rfl⟩ trimmed
    have stripped : (bytes "Bearer " ++ secret).dropPrefix? (bytes "Bearer ") = some secret :=
      List.dropPrefix?_append_of_beq _ (BEq.refl _)
    simp [arrives, stripped, empty]

/-! ## Headers -/

/-- The last entry for a name is one of the entries. -/
theorem exists_lastOr {entries : List (String × Bytes)} {key : String} {entry : String × Bytes}
    (member : entry ∈ entries) (named : canonicalKey entry.1 = canonicalKey key)
    (otherwise : Bytes) :
    ∃ last ∈ entries, canonicalKey last.1 = canonicalKey key ∧
      Header.lastOr otherwise entries key = last.2 := by
  have present : (entries.reverse.find? fun entry =>
      canonicalKey entry.1 == canonicalKey key).isSome = true := by
    rw [List.find?_isSome]
    exact ⟨entry, List.mem_reverse.mpr member, beq_iff_eq.mpr named⟩
  obtain ⟨last, found⟩ := Option.isSome_iff_exists.mp present
  refine ⟨last, List.mem_reverse.mp (List.mem_of_find?_eq_some found), ?_, ?_⟩
  · simpa using List.find?_some found
  · rw [Header.lastOr, found]
    rfl

theorem lastOr_congr {entries : List (String × Bytes)} {key other : String} {otherwise : Bytes}
    (same : canonicalKey key = canonicalKey other) :
    Header.lastOr otherwise entries key = Header.lastOr otherwise entries other := by
  simp only [Header.lastOr, same]

section Headers

variable {checked sent : StringMap}

/-- The headers that a loop sets. -/
def settings (headers : StringMap) : List (String × Bytes) :=
  headers.entries.map fun entry => (entry.1, bytes entry.2)

theorem mem_settings (perm : sent.entries.Perm checked.entries) {entry : String × String}
    (member : entry ∈ checked.entries) : (entry.1, bytes entry.2) ∈ settings sent :=
  List.mem_map.mpr ⟨entry, perm.mem_iff.mpr member, rfl⟩

/-- The value that is sent for a header is one that was asked for. -/
theorem exists_settings (perm : sent.entries.Perm checked.entries) {entry : String × String}
    (member : entry ∈ checked.entries) :
    ∃ last ∈ checked.entries, canonicalKey last.1 = canonicalKey entry.1 ∧
      Header.lastOr [] (settings sent) entry.1 = bytes last.2 := by
  obtain ⟨_, found, named, value⟩ := exists_lastOr (mem_settings perm member) rfl []
  obtain ⟨last, later, rfl⟩ := List.mem_map.mp found
  exact ⟨last, perm.mem_iff.mp later, named, value⟩

theorem valid_settings_iff (perm : sent.entries.Perm checked.entries) :
    (Header.setAll [] (settings sent)).valid = true ↔
      ∀ entry ∈ checked.entries, validName (canonicalKey entry.1) = true ∧
        validValue (Header.lastOr [] (settings sent) entry.1) = true := by
  rw [Header.valid_setAll_iff]
  constructor
  · intro sendable entry member
    exact sendable (entry.1, bytes entry.2) (mem_settings perm member)
  · intro sendable _ member
    obtain ⟨entry, given, rfl⟩ := List.mem_map.mp member
    exact sendable entry (perm.mem_iff.mp given)

/-- What arrives under a name. -/
def arriving (sent : StringMap) (key : String) : Bytes :=
  if isReserved (canonicalKey key) then [] else trim (Header.lastOr [] (settings sent) key)

theorem arriving_congr {key other : String} (same : canonicalKey key = canonicalKey other) :
    arriving sent key = arriving sent other := by
  rw [arriving, arriving, same, lastOr_congr same]

theorem authenticate_settings_iff :
    (AuthProvider.header checked).authenticate (Header.setAll [] (settings sent)).received =
        .ok true ↔
      ∀ entry ∈ checked.entries, arriving sent entry.1 = bytes entry.2 := by
  simp only [AuthProvider.authenticate, Except.ok.injEq, List.all_eq_true, beq_iff_eq,
    Header.get_received, Header.get_setAll, Header.get_nil, arriving]

/-- Headers that pass were sent as they were asked for. -/
theorem lastOr_of_authenticate (perm : sent.entries.Perm checked.entries)
    (accepted : ∀ entry ∈ checked.entries, arriving sent entry.1 = bytes entry.2)
    {entry : String × String} (member : entry ∈ checked.entries) :
    Header.lastOr [] (settings sent) entry.1 = bytes entry.2 := by
  obtain ⟨last, later, named, value⟩ := exists_settings perm member
  calc Header.lastOr [] (settings sent) entry.1
      = bytes last.2 := value
    _ = arriving sent last.1 := (accepted last later).symm
    _ = arriving sent entry.1 := arriving_congr named
    _ = bytes entry.2 := accepted entry member

theorem passes_header_iff (perm : sent.entries.Perm checked.entries)
    {token : Except String Bytes} :
    Passes (.header checked) (.header sent) token ↔ Clean checked := by
  have given : credentials token (.header sent) = .ok (settings sent) := rfl
  simp only [passes_iff, given, Except.ok.injEq, exists_eq_left', valid_settings_iff perm,
    authenticate_settings_iff]
  constructor
  · rintro ⟨sendable, accepted⟩
    have arrives : ∀ entry ∈ checked.entries,
        Header.lastOr [] (settings sent) entry.1 = bytes entry.2 :=
      fun _ member => lastOr_of_authenticate perm accepted member
    refine ⟨fun entry member => (sendable entry member).1, fun entry member reserved => ?_,
      fun entry member => ?_, fun entry member => ?_, fun entry member other otherMember same => ?_⟩
    · have lost := accepted entry member
      rw [arriving, if_pos reserved] at lost
      exact bytes_eq_nil_iff.mp lost.symm
    · rw [← arrives entry member]
      exact (sendable entry member).2
    · have received := accepted entry member
      rw [arriving] at received
      split at received
      next => rw [← received, trim_nil]
      next => rwa [arrives entry member] at received
    · apply bytes_injective
      rw [← arrives entry member, ← arrives other otherMember, lastOr_congr same]
  · rintro ⟨names, carried, values, trimmed, unique⟩
    have arrives : ∀ entry ∈ checked.entries,
        Header.lastOr [] (settings sent) entry.1 = bytes entry.2 := by
      intro entry member
      obtain ⟨last, later, named, value⟩ := exists_settings perm member
      rw [value, unique entry member last later named]
    constructor
    · intro entry member
      rw [arrives entry member]
      exact ⟨names entry member, values entry member⟩
    · intro entry member
      rw [arriving]
      split
      next reserved =>
        rw [carried entry member reserved]
        rfl
      next =>
        rw [arrives entry member]
        exact trimmed entry member

end Headers

/-! ## The server -/

/-- A token was read from a file, and trimmed. -/
theorem trimmed_of_newAuthProvider {files : Files} {auth : AuthConfig} {secret : Bytes}
    (enabled : auth.type ≠ "none")
    (made : newAuthProvider files auth = .ok (some (.token secret))) :
    ∀ byte ∈ secret.getLast?, isBlank byte = false := by
  rcases newAuthProvider_eq_ok enabled made with
    ⟨_, same⟩ | ⟨isToken, _, _⟩ | ⟨_, same⟩ | ⟨_, same⟩
  · cases same
  · have read : (newTokenAuthProvider files auth.tokenFile).map some =
        .ok (some (.token secret)) := by
      simpa [newAuthProvider, isToken] using made
    rcases Hoare.map_eq_ok_iff.mp read with ⟨provider, provided, same⟩
    cases same
    rcases Hoare.bind_eq_ok_iff.mp provided with ⟨data, _, trimmed⟩
    cases trimmed
    exact fun byte last => getLast?_trimSpace last
  · cases same
  · cases same

theorem passes_same_iff {files : Files} {auth : AuthConfig} {provider client : AuthProvider}
    {token : Except String Bytes} (enabled : auth.type ≠ "none")
    (made : newAuthProvider files auth = .ok (some provider)) (same : Same provider client) :
    Passes provider client token ↔ Recognizable provider := by
  cases same with
  | headers perm => exact passes_header_iff perm
  | refl =>
      cases provider with
      | basic username password => exact passes_basic_iff
      | token secret => exact passes_token_iff (trimmed_of_newAuthProvider enabled made)
      | oauth2 clientID clientSecret tokenURL scopes =>
          simp [passes_iff, AuthProvider.authenticate, Recognizable]
      | header headers => exact passes_header_iff (List.Perm.refl _)

/-- A request is handled exactly if its credentials are accepted. -/
theorem handled_iff {server : HealthServer} {provider : AuthProvider}
    (checked : server.authProvider = some provider) {timestamp : String} {endpoint : Endpoint}
    {request : Header} :
    (∃ response, server.serve timestamp endpoint request = .handled response) ↔
      provider.authenticate request = .ok true := by
  unfold HealthServer.serve HealthServer.withAuth
  rw [checked]
  cases verdict : provider.authenticate request with
  | error message => simp [verdict]
  | ok accepted => cases accepted <;> simp [verdict]

/-- A token file that ends in a newline. -/
def tokenSecurity : SecurityConfig where
  auth := { type := "token", tokenFile := "/etc/token" }

end Tailpost.Health
