import Mathlib.Data.List.Basic

/-!
# Runes

A byte string that is meant to be text is read rune by rune.  A rune is the
character at the front, or a single byte where no character starts.  Replacing the
bytes that start no character makes a text of any byte string, and changes exactly
those byte strings that are no text.
-/

namespace Tailpost.Utf8

/-- A string of Go: any bytes. -/
abbrev Bytes :=
  List UInt8

/-- The bytes of a text. -/
def bytes (text : String) : Bytes :=
  text.toList.flatMap String.utf8EncodeChar

/-- What the decoder makes of the next bytes. -/
inductive Rune
  | char (c : Char)
  | invalid (byte : UInt8)
  deriving DecidableEq

/-- The character that stands for a rune. -/
def Rune.toChar : Rune → Char
  | char c => c
  | invalid _ => '�'

/-- The character at the front. -/
def decodeChar (text : Bytes) : Option Char :=
  text.toByteArray.utf8DecodeChar? 0

/-- The rune at the front, and what follows it. -/
def nextRune : Bytes → Option (Rune × Bytes)
  | [] => none
  | byte :: rest =>
      match decodeChar (byte :: rest) with
      | some c => some (.char c, (byte :: rest).drop c.utf8Size)
      | none => some (.invalid byte, rest)

/-- The first runes, as many as the fuel allows. -/
def firstRunes : Nat → Bytes → List Rune
  | 0, _ => []
  | fuel + 1, text =>
      match nextRune text with
      | none => []
      | some (rune, rest) => rune :: firstRunes fuel rest

/-- There are no more runes than bytes. -/
def runes (text : Bytes) : List Rune :=
  firstRunes text.length text

/-- The text with every byte that starts no character replaced. -/
def coerce (text : Bytes) : Bytes :=
  (runes text).flatMap fun rune => String.utf8EncodeChar rune.toChar

/-- The byte string is the encoding of characters. -/
def IsText (text : Bytes) : Prop :=
  ∃ chars : List Char, text = chars.flatMap String.utf8EncodeChar

theorem isText_bytes (text : String) : IsText (bytes text) :=
  ⟨text.toList, rfl⟩

theorem utf8EncodeChar_ne_nil (c : Char) : String.utf8EncodeChar c ≠ [] := by
  rw [← List.length_pos_iff, String.length_utf8EncodeChar]
  exact c.utf8Size_pos

theorem bytes_eq_nil_iff {text : String} : bytes text = [] ↔ text = "" := by
  constructor
  · intro empty
    apply String.toList_injective
    cases chars : text.toList with
    | nil => rfl
    | cons c rest =>
        rw [bytes, chars, List.flatMap_cons, List.append_eq_nil_iff] at empty
        exact absurd empty.1 (utf8EncodeChar_ne_nil c)
  · rintro rfl
    rfl

theorem nextRune_append (c : Char) (rest : Bytes) :
    nextRune (String.utf8EncodeChar c ++ rest) = some (.char c, rest) := by
  have decoded : decodeChar (String.utf8EncodeChar c ++ rest) = some c := by
    rw [decodeChar, List.toByteArray_append]
    exact ByteArray.utf8DecodeChar?_utf8EncodeChar_append
  have dropped : (String.utf8EncodeChar c ++ rest).drop c.utf8Size = rest := by
    rw [← String.length_utf8EncodeChar, List.drop_left]
  cases spelled : String.utf8EncodeChar c ++ rest with
  | nil => exact absurd (List.append_eq_nil_iff.mp spelled).1 (utf8EncodeChar_ne_nil c)
  | cons byte others =>
      rw [spelled] at decoded dropped
      simp only [nextRune, decoded, dropped]

theorem firstRunes_flatMap (chars : List Char) {fuel : Nat} (enough : chars.length ≤ fuel) :
    firstRunes fuel (chars.flatMap String.utf8EncodeChar) = chars.map .char := by
  induction chars generalizing fuel with
  | nil => cases fuel <;> rfl
  | cons c chars ih =>
      cases fuel with
      | zero => contradiction
      | succ fuel =>
          have later := ih (Nat.le_of_succ_le_succ enough)
          simp only [List.flatMap_cons, firstRunes, nextRune_append, later, List.map_cons]

theorem length_le_length_flatMap {α : Type} (encode : α → Bytes) (given : ∀ a, encode a ≠ [])
    (items : List α) : items.length ≤ (items.flatMap encode).length := by
  induction items with
  | nil => exact Nat.le_refl 0
  | cons item items ih =>
      have positive := List.length_pos_iff.mpr (given item)
      rw [List.flatMap_cons, List.length_append, List.length_cons]
      omega

theorem runes_flatMap (chars : List Char) :
    runes (chars.flatMap String.utf8EncodeChar) = chars.map .char :=
  firstRunes_flatMap chars
    (length_le_length_flatMap String.utf8EncodeChar utf8EncodeChar_ne_nil chars)

/-- Replacing what is no text changes exactly what is no text. -/
theorem coerce_eq_self_iff {text : Bytes} : coerce text = text ↔ IsText text := by
  constructor
  · intro same
    refine ⟨(runes text).map Rune.toChar, ?_⟩
    rw [List.flatMap_map]
    exact same.symm
  · rintro ⟨chars, rfl⟩
    rw [coerce, runes_flatMap, List.flatMap_map]
    rfl

theorem bytes_injective : Function.Injective bytes := by
  intro text other same
  have sameRunes : text.toList.map Rune.char = other.toList.map Rune.char := by
    rw [← runes_flatMap, ← runes_flatMap]
    exact congrArg runes same
  have charInjective : Function.Injective Rune.char := fun _ _ => Rune.char.inj
  exact String.toList_injective (charInjective.list_map sameRunes)

theorem bytes_append (text other : String) : bytes (text ++ other) = bytes text ++ bytes other := by
  rw [bytes, String.toList_append, List.flatMap_append]
  rfl

/-- An ASCII character is its own byte, and any other has no ASCII byte. -/
theorem utf8EncodeChar_cases (c : Char) :
    (c.toNat < 0x80 ∧ String.utf8EncodeChar c = [UInt8.ofNat c.toNat]) ∨
      0x80 ≤ c.toNat ∧ ∀ byte ∈ String.utf8EncodeChar c, 0x80 ≤ byte.toNat := by
  have number : c.toNat = c.val.toNat := rfl
  simp only [String.utf8EncodeChar]
  split
  next ascii => exact .inl ⟨by omega, rfl⟩
  next wide =>
    refine .inr ⟨by omega, ?_⟩
    split
    next =>
      simp only [List.forall_mem_cons, List.not_mem_nil, false_imp_iff, implies_true,
        and_true, UInt8.toNat_ofNat']
      omega
    next =>
      split
      all_goals
        simp only [List.forall_mem_cons, List.not_mem_nil, false_imp_iff, implies_true,
          and_true, UInt8.toNat_ofNat']
        omega

theorem toNat_ofNat_of_ascii {ascii : Char} (small : ascii.toNat < 0x80) :
    (UInt8.ofNat ascii.toNat).toNat = ascii.toNat := by
  rw [UInt8.toNat_ofNat']
  omega

/-- The byte of an ASCII character stands in the encoding of no other character. -/
theorem mem_utf8EncodeChar_iff {ascii c : Char} (small : ascii.toNat < 0x80) :
    UInt8.ofNat ascii.toNat ∈ String.utf8EncodeChar c ↔ ascii = c := by
  have number := toNat_ofNat_of_ascii small
  rcases utf8EncodeChar_cases c with ⟨other, spelled⟩ | ⟨wide, bytes⟩
  · rw [spelled, List.mem_singleton, ← UInt8.toNat_inj, number, toNat_ofNat_of_ascii other,
      Char.toNat_inj]
  · constructor
    · intro member
      have := bytes _ member
      omega
    · rintro rfl
      omega

theorem mem_bytes_iff {text : String} {ascii : Char} (small : ascii.toNat < 0x80) :
    UInt8.ofNat ascii.toNat ∈ bytes text ↔ ascii ∈ text.toList := by
  simp only [bytes, List.mem_flatMap, mem_utf8EncodeChar_iff small, exists_eq_right']

/-! ## White space -/

/-- The characters that are white space. -/
def spaces : List Char :=
  ['\t', '\n', '\x0b', '\x0c', '\r', ' ', '\u0085', '\u00a0', '\u1680', '\u2000', '\u2001',
    '\u2002', '\u2003', '\u2004', '\u2005', '\u2006', '\u2007', '\u2008', '\u2009', '\u200a',
    '\u2028', '\u2029', '\u202f', '\u205f', '\u3000']

/-- Take any of some byte strings off the front, as often as the fuel allows. -/
def stripFront (patterns : List Bytes) : Nat → Bytes → Bytes
  | 0, text => text
  | fuel + 1, text =>
      match patterns.findSome? text.dropPrefix? with
      | some rest => stripFront patterns fuel rest
      | none => text

/-- A byte string without the white space at its ends. -/
def trimSpace (text : Bytes) : Bytes :=
  let patterns := spaces.map String.utf8EncodeChar
  let front := stripFront patterns text.length text
  (stripFront (patterns.map List.reverse) front.length front.reverse).reverse

example : trimSpace (bytes " \u00a0token\n") = bytes "token" := by decide

example : coerce [0x66, 0xFC, 0x72] = [0x66, 0xEF, 0xBF, 0xBD, 0x72] := by decide

end Tailpost.Utf8
