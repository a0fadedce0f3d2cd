import Mathlib.Data.List.DropRight
import Tailpost.Text.Utf8

/-!
# Headers of HTTP requests

A header maps names to values.  Names are compared in their canonical form, in
which every part between hyphens starts with a capital.  A client refuses to send a
header with a name that is no token or a value with a control character; the handler
of a server gets the values without the blanks at their ends, and nothing under the
names that describe the message itself.
-/

namespace Tailpost.Http

open Tailpost.Utf8

/-! ## Names -/

/-- The characters of which a name consists. -/
def isToken (c : Char) : Bool :=
  c.isAlphanum || "!#$%&'*+-.^_`|~".toList.contains c

/-- Upper case at the beginning and behind hyphens, lower case elsewhere. -/
def capitalize : Bool → List Char → List Char
  | _, [] => []
  | upper, c :: rest => (if upper then c.toUpper else c.toLower) :: capitalize (c == '-') rest

/-- The form in which names are stored; what is no name stays as it is. -/
def canonicalKey (key : String) : String :=
  if key.toList.all isToken then .ofList (capitalize true key.toList) else key

example : canonicalKey "x-KEY-id" = "X-Key-Id" := by decide

/-- A name of a header field. -/
def validName (key : String) : Bool :=
  key != "" && key.toList.all isToken

/-- The names that describe the message.  A client leaves out what a header has under
them, and a server takes them out of the header of the request. -/
def isReserved (name : String) : Bool :=
  ["Host", "Content-Length", "Transfer-Encoding", "Trailer"].contains name

/-! ## Values -/

/-- A blank or a tab. -/
def isBlank (byte : UInt8) : Bool :=
  byte == 0x20 || byte == 0x09

/-- A value without the blanks at its ends. -/
def trim (value : Bytes) : Bytes :=
  (value.dropWhile isBlank).rdropWhile isBlank

/-- Control characters; a tab counts as a blank. -/
def isControl (byte : UInt8) : Bool :=
  (byte < 0x20 && byte != 0x09) || byte == 0x7F

/-- A value of a header field. -/
def validValue (value : Bytes) : Bool :=
  value.all (!isControl ·)

/-! ## Headers -/

/-- The entries have different names in canonical form, as far as they come from
`set`. -/
abbrev Header :=
  List (String × Bytes)

namespace Header

/-- The value replaces all values of the key. -/
def set (header : Header) (key : String) (value : Bytes) : Header :=
  (canonicalKey key, value) :: header.filter fun entry => entry.1 != canonicalKey key

/-- A missing value is empty. -/
def get (header : Header) (key : String) : Bytes :=
  ((header.find? fun entry => entry.1 == canonicalKey key).map Prod.snd).getD []

/-- A client sends the header. -/
def valid (header : Header) : Bool :=
  header.all fun entry => validName entry.1 && validValue entry.2

/-- The header as the handler of a server gets it. -/
def received (header : Header) : Header :=
  (header.filter fun entry => !isReserved entry.1).map fun entry => (entry.1, trim entry.2)

theorem get_nil (key : String) : get [] key = [] :=
  rfl

theorem get_set_of_eq {header : Header} {key other : String} {value : Bytes}
    (same : canonicalKey other = canonicalKey key) : (header.set key value).get other = value := by
  simp [get, set, same]

theorem get_set_of_ne {header : Header} {key other : String} {value : Bytes}
    (different : canonicalKey other ≠ canonicalKey key) :
    (header.set key value).get other = header.get other := by
  have kept : ((header.filter fun entry => entry.1 != canonicalKey key).find?
      fun entry => entry.1 == canonicalKey other) =
      header.find? fun entry => entry.1 == canonicalKey other := by
    rw [List.find?_filter]
    congr 1
    funext entry
    by_cases named : entry.1 = canonicalKey other
    · simp [named, different]
    · simp [named]
  rw [get, set, List.find?_cons_of_neg (by simpa using different.symm), kept, get]

/-- What a handler finds under a name. -/
theorem get_received (header : Header) (key : String) :
    header.received.get key =
      if isReserved (canonicalKey key) then [] else trim (header.get key) := by
  have found : (header.received.find? fun entry => entry.1 == canonicalKey key) =
      ((header.find? fun entry => !isReserved entry.1 && entry.1 == canonicalKey key).map
        fun entry => (entry.1, trim entry.2)) := by
    rw [received, List.find?_map, List.find?_filter]
    simp [Bool.beq_eq_decide_eq]
  rw [get, found]
  split
  next reserved =>
    have nothing : (header.find? fun entry =>
        !isReserved entry.1 && entry.1 == canonicalKey key) = none := by
      rw [List.find?_eq_none]
      rintro ⟨name, value⟩ _
      rw [Bool.and_eq_true, beq_iff_eq]
      rintro ⟨carried, rfl⟩
      rw [reserved] at carried
      contradiction
    rw [nothing]
    rfl
  next carried =>
    have same : (fun entry : String × Bytes =>
        !isReserved entry.1 && entry.1 == canonicalKey key) =
        fun entry => entry.1 == canonicalKey key := by
      funext entry
      by_cases named : entry.1 = canonicalKey key
      · simp [named, carried]
      · simp [named]
    rw [same, get]
    cases header.find? fun entry => entry.1 == canonicalKey key <;> rfl

/-- A header that is not about the message arrives without blanks at its ends. -/
theorem get_received_of_carried (header : Header) {key : String}
    (carried : isReserved (canonicalKey key) = false) :
    header.received.get key = trim (header.get key) := by
  rw [get_received, carried]
  rfl

/-! ### Several entries -/

/-- Set entries one after the other. -/
def setAll (header : Header) (entries : List (String × Bytes)) : Header :=
  entries.foldl (fun header entry => header.set entry.1 entry.2) header

/-- The value of the last entry for a name, or another one when there is none. -/
def lastOr (otherwise : Bytes) (entries : List (String × Bytes)) (key : String) : Bytes :=
  ((entries.reverse.find? fun entry => canonicalKey entry.1 == canonicalKey key).map
    Prod.snd).getD otherwise

theorem setAll_concat (header : Header) (entries : List (String × Bytes))
    (entry : String × Bytes) :
    header.setAll (entries ++ [entry]) = (header.setAll entries).set entry.1 entry.2 := by
  rw [setAll, List.foldl_append]
  rfl

theorem lastOr_concat_of_eq {otherwise : Bytes} {entries : List (String × Bytes)}
    {entry : String × Bytes} {key : String} (same : canonicalKey entry.1 = canonicalKey key) :
    lastOr otherwise (entries ++ [entry]) key = entry.2 := by
  simp [lastOr, same]

theorem lastOr_concat_of_ne {otherwise : Bytes} {entries : List (String × Bytes)}
    {entry : String × Bytes} {key : String}
    (different : canonicalKey entry.1 ≠ canonicalKey key) :
    lastOr otherwise (entries ++ [entry]) key = lastOr otherwise entries key := by
  simp [lastOr, different]

/-- The last entry for a name decides. -/
theorem get_setAll (header : Header) (entries : List (String × Bytes)) (key : String) :
    (header.setAll entries).get key = lastOr (header.get key) entries key := by
  induction entries using List.reverseRecOn with
  | nil => rfl
  | append_singleton entries entry ih =>
      rw [setAll_concat]
      by_cases same : canonicalKey entry.1 = canonicalKey key
      · rw [get_set_of_eq same.symm, lastOr_concat_of_eq same]
      · rw [get_set_of_ne (Ne.symm same), lastOr_concat_of_ne same, ih]

theorem mem_setAll_iff {entries : List (String × Bytes)} {name : String} {value : Bytes} :
    (name, value) ∈ setAll [] entries ↔
      ∃ entry ∈ entries, name = canonicalKey entry.1 ∧ value = lastOr [] entries entry.1 := by
  induction entries using List.reverseRecOn with
  | nil => simp [setAll]
  | append_singleton entries latest ih =>
      rw [setAll_concat, set, List.mem_cons, List.mem_filter, ih]
      constructor
      · rintro (newest | ⟨⟨entry, member, rfl, rfl⟩, kept⟩)
        · cases newest
          exact ⟨latest, List.mem_append_right _ (List.mem_singleton.mpr rfl), rfl,
            (lastOr_concat_of_eq rfl).symm⟩
        · have different : canonicalKey latest.1 ≠ canonicalKey entry.1 :=
            (bne_iff_ne.mp kept).symm
          exact ⟨entry, List.mem_append_left _ member, rfl, (lastOr_concat_of_ne different).symm⟩
      · rintro ⟨entry, member, rfl, rfl⟩
        by_cases same : canonicalKey latest.1 = canonicalKey entry.1
        · rw [lastOr_concat_of_eq same, same]
          exact .inl rfl
        · have earlier : entry ∈ entries := by
            rcases List.mem_append.mp member with earlier | newest
            · exact earlier
            · exact absurd (by rw [List.mem_singleton.mp newest]) same
          exact .inr ⟨⟨entry, earlier, rfl, lastOr_concat_of_ne same⟩,
            bne_iff_ne.mpr (Ne.symm same)⟩

/-- A header that was put together can be sent when every name and the last value for
it can. -/
theorem valid_setAll_iff {entries : List (String × Bytes)} :
    (setAll [] entries).valid = true ↔
      ∀ entry ∈ entries, validName (canonicalKey entry.1) = true ∧
        validValue (lastOr [] entries entry.1) = true := by
  simp only [valid, List.all_eq_true, Bool.and_eq_true]
  constructor
  · intro sendable entry member
    exact sendable _ (mem_setAll_iff.mpr ⟨entry, member, rfl, rfl⟩)
  · rintro sendable ⟨name, value⟩ member
    rcases mem_setAll_iff.mp member with ⟨entry, given, rfl, rfl⟩
    exact sendable entry given

end Header

end Tailpost.Http
