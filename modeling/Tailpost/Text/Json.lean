import Tailpost.Text.BinaryText

/-!
# Arrays of strings in JSON

`marshal` writes an array of byte strings as the `encoding/json` package does: a
byte that starts no character is replaced, and so are, by escapes, control
characters and the characters that mean something in HTML.  `unmarshal` reads such
an array.  Reading back what was written gives the byte strings with the replaced
bytes, in the same order.
-/

namespace Tailpost.Json

open Tailpost.Utf8

/-- The byte of a quotation mark. -/
def quote : UInt8 :=
  0x22

/-- The byte of a backslash. -/
def backslash : UInt8 :=
  0x5C

/-- The byte of a comma. -/
def comma : UInt8 :=
  0x2C

/-- The byte that opens an array. -/
def leftBracket : UInt8 :=
  0x5B

/-- The byte that closes an array. -/
def rightBracket : UInt8 :=
  0x5D

/-! ## Writing -/

/-- The four digits of a number below `65536`. -/
def hexDigits (value : Nat) : Bytes :=
  [Hex.digit (value / 4096 % 16), Hex.digit (value / 256 % 16), Hex.digit (value / 16 % 16),
    Hex.digit (value % 16)]

/-- The escape of a character by its number. -/
def unicodeEscape (c : Char) : Bytes :=
  backslash :: 0x75 :: hexDigits c.toNat

/-- The letters of the short escapes. -/
def shortEscape : Char → Option UInt8
  | '"' => some 0x22
  | '\\' => some 0x5C
  | '\x08' => some 0x62
  | '\x0c' => some 0x66
  | '\n' => some 0x6E
  | '\r' => some 0x72
  | '\t' => some 0x74
  | _ => none

/-- Characters that are written by their number. -/
def isEscaped (c : Char) : Bool :=
  c.toNat < 0x20 || c == '<' || c == '>' || c == '&' || c == '\u2028' || c == '\u2029'

/-- One rune inside a string; an invalid byte becomes the replacement character. -/
def escape : Rune → Bytes
  | .invalid _ => unicodeEscape '\ufffd'
  | .char c =>
      match shortEscape c with
      | some letter => [backslash, letter]
      | none => if isEscaped c then unicodeEscape c else String.utf8EncodeChar c

/-- A string, between quotation marks. -/
def marshalString (text : Bytes) : Bytes :=
  quote :: ((runes text).flatMap escape ++ [quote])

/-- The elements behind the first one, each with its comma. -/
def marshalRest (texts : List Bytes) : Bytes :=
  texts.flatMap fun text => comma :: marshalString text

/-- An array of strings, as `json.Marshal` writes a `[]string`. -/
def marshal : List Bytes → Bytes
  | [] => [leftBracket, rightBracket]
  | text :: texts => leftBracket :: (marshalString text ++ marshalRest texts ++ [rightBracket])

/-! ## Reading -/

/-- The white space between tokens. -/
def isSpace (byte : UInt8) : Bool :=
  byte == 0x20 || byte == 0x09 || byte == 0x0A || byte == 0x0D

/-- The text from its next token on. -/
def skipSpace (text : Bytes) : Bytes :=
  text.dropWhile isSpace

/-- Read four digits. -/
def readHex : Bytes → Option (Nat × Bytes)
  | a :: b :: c :: d :: rest => do
      let value := (← Hex.value a) * 4096 + (← Hex.value b) * 256 + (← Hex.value c) * 16 +
        (← Hex.value d)
      return (value, rest)
  | _ => none

/-- The second half of a pair of surrogates. -/
def readLow : Bytes → Option (Nat × Bytes)
  | 0x5C :: 0x75 :: rest =>
      (readHex rest).filter fun (value, _) => 0xDC00 ≤ value && value ≤ 0xDFFF
  | _ => none

/-- The character with a number; a surrogate that is not paired is replaced. -/
def readUnicode (value : Nat) (rest : Bytes) : Char × Bytes :=
  if 0xD800 ≤ value ∧ value ≤ 0xDFFF then
    match if value ≤ 0xDBFF then readLow rest else none with
    | some (low, rest) => (.ofNat (0x10000 + (value - 0xD800) * 0x400 + (low - 0xDC00)), rest)
    | none => ('\ufffd', rest)
  else
    (.ofNat value, rest)

/-- The character of an escape, behind its backslash. -/
def readEscape : Bytes → Option (Char × Bytes)
  | 0x22 :: rest => some ('"', rest)
  | 0x5C :: rest => some ('\\', rest)
  | 0x2F :: rest => some ('/', rest)
  | 0x62 :: rest => some ('\x08', rest)
  | 0x66 :: rest => some ('\x0c', rest)
  | 0x6E :: rest => some ('\n', rest)
  | 0x72 :: rest => some ('\r', rest)
  | 0x74 :: rest => some ('\t', rest)
  | 0x75 :: rest => (readHex rest).map fun (value, rest) => readUnicode value rest
  | _ => none

/-- The character at the front of a string's contents. -/
def readChar : Bytes → Option (Char × Bytes)
  | [] => none
  | byte :: rest =>
      if byte = backslash then
        readEscape rest
      else if byte < 0x20 then
        none
      else
        (nextRune (byte :: rest)).map fun (rune, rest) => (rune.toChar, rest)

/-- Read the contents of a string up to its quote. -/
def readChars : Nat → Bytes → Option (List Char × Bytes)
  | 0, _ => none
  | fuel + 1, text =>
      if text.head? = some quote then
        some ([], text.tail)
      else do
        let (c, rest) ← readChar text
        let (chars, rest) ← readChars fuel rest
        return (c :: chars, rest)

/-- Read a string from its first quote on. -/
def readString (text : Bytes) : Option (Bytes × Bytes) :=
  if text.head? = some quote then
    (readChars text.length text.tail).map fun (chars, rest) =>
      (chars.flatMap String.utf8EncodeChar, rest)
  else
    none

/-- Read the elements of an array, one at least, up to its bracket. -/
def readElements : Nat → Bytes → Option (List Bytes × Bytes)
  | 0, _ => none
  | fuel + 1, text => do
      let (element, rest) ← readString (skipSpace text)
      match skipSpace rest with
      | 0x2C :: rest =>
          let (elements, rest) ← readElements fuel rest
          return (element :: elements, rest)
      | 0x5D :: rest => return ([element], rest)
      | _ => none

/-- Read an array of strings and nothing behind it. -/
def unmarshal (text : Bytes) : Option (List Bytes) :=
  match skipSpace text with
  | 0x5B :: rest => do
      let (elements, rest) ←
        match skipSpace rest with
        | 0x5D :: rest => some ([], rest)
        | _ => readElements rest.length rest
      if skipSpace rest = [] then some elements else none
  | _ => none

/-! ## Reading back -/

theorem readHex_hexDigits {value : Nat} (small : value < 65536) (rest : Bytes) :
    readHex (hexDigits value ++ rest) = some (value, rest) := by
  have thousands : value / 4096 % 16 < 16 := Nat.mod_lt _ (by decide)
  have hundreds : value / 256 % 16 < 16 := Nat.mod_lt _ (by decide)
  have tens : value / 16 % 16 < 16 := Nat.mod_lt _ (by decide)
  have units : value % 16 < 16 := Nat.mod_lt _ (by decide)
  have sum : value / 4096 % 16 * 4096 + value / 256 % 16 * 256 + value / 16 % 16 * 16 +
      value % 16 = value := by
    omega
  simp [hexDigits, readHex, Hex.value_digit, thousands, hundreds, tens, units, sum]

theorem readUnicode_toNat (c : Char) (rest : Bytes) : readUnicode c.toNat rest = (c, rest) := by
  have valid : ¬ (0xD800 ≤ c.toNat ∧ c.toNat ≤ 0xDFFF) := by
    have inRange := c.valid
    simp only [UInt32.isValidChar, Nat.isValidChar] at inRange
    change ¬ (0xD800 ≤ c.val.toNat ∧ c.val.toNat ≤ 0xDFFF)
    omega
  rw [readUnicode, if_neg valid, Char.ofNat_toNat]

theorem readChar_unicodeEscape {c : Char} (small : c.toNat < 65536) (rest : Bytes) :
    readChar (unicodeEscape c ++ rest) = some (c, rest) := by
  have digits := readHex_hexDigits small rest
  simp [unicodeEscape, readChar, readEscape, digits, readUnicode_toNat]

theorem readChar_shortEscape {c : Char} {letter : UInt8} (short : shortEscape c = some letter)
    (rest : Bytes) : readChar (backslash :: letter :: rest) = some (c, rest) := by
  unfold shortEscape at short
  split at short <;> cases short <;> rfl

/-- The first byte of a character is the character's own number or no ASCII byte. -/
theorem exists_utf8EncodeChar (c : Char) :
    ∃ byte rest, String.utf8EncodeChar c = byte :: rest ∧
      (byte.toNat = c.toNat ∨ 0x80 ≤ byte.toNat) := by
  rcases utf8EncodeChar_cases c with ⟨ascii, spelled⟩ | ⟨_, wide⟩
  · exact ⟨_, [], spelled, .inl (toNat_ofNat_of_ascii ascii)⟩
  · cases spelled : String.utf8EncodeChar c with
    | nil => exact absurd spelled (utf8EncodeChar_ne_nil c)
    | cons byte rest => exact ⟨byte, rest, rfl, .inr (wide byte (spelled ▸ List.mem_cons_self))⟩

/-- A character that is written as it is starts with none of the bytes that end or
escape something. -/
theorem readChar_utf8EncodeChar {c : Char} (short : shortEscape c = none)
    (plain : isEscaped c = false) (rest : Bytes) :
    (String.utf8EncodeChar c ++ rest).head? ≠ some quote ∧
      readChar (String.utf8EncodeChar c ++ rest) = some (c, rest) := by
  have next := nextRune_append c rest
  rcases exists_utf8EncodeChar c with ⟨byte, others, spelled, first⟩
  have ownNumber : ∀ special : UInt8, special.toNat < 0x80 → byte = special →
      c = .ofNat special.toNat := by
    rintro _ ascii rfl
    rw [first.resolve_right (by omega), Char.ofNat_toNat]
  have notQuote : byte ≠ quote := by
    intro same
    rw [ownNumber quote (by decide) same] at short
    exact absurd short (by decide)
  have notBackslash : byte ≠ backslash := by
    intro same
    rw [ownNumber backslash (by decide) same] at short
    exact absurd short (by decide)
  have notControl : ¬ byte < 0x20 := by
    intro control
    have below : byte.toNat < 0x20 := UInt8.lt_iff_toNat_lt.mp control
    have escaped : isEscaped c = true := by
      simp [isEscaped, ← first.resolve_right (by omega), below]
    rw [plain] at escaped
    contradiction
  rw [spelled, List.cons_append] at next ⊢
  constructor
  · simpa using notQuote
  · rw [readChar, if_neg notBackslash, if_neg notControl, next]
    rfl

theorem toNat_lt_of_isEscaped {c : Char} (escaped : isEscaped c = true) : c.toNat < 65536 := by
  simp only [isEscaped, Bool.or_eq_true, decide_eq_true_eq, beq_iff_eq] at escaped
  rcases escaped with ((((control | rfl) | rfl) | rfl) | rfl) | rfl
  · omega
  all_goals decide

theorem readChar_escape (rune : Rune) (rest : Bytes) :
    (escape rune ++ rest).head? ≠ some quote ∧
      readChar (escape rune ++ rest) = some (rune.toChar, rest) := by
  have escapeStarts : ∀ c : Char, (unicodeEscape c ++ rest).head? ≠ some quote := by
    intro c
    simp [unicodeEscape, backslash, quote]
  cases rune with
  | invalid byte => exact ⟨escapeStarts _, readChar_unicodeEscape (by decide) rest⟩
  | char c =>
      rw [escape]
      cases short : shortEscape c with
      | some letter =>
          exact ⟨by simp [backslash, quote], readChar_shortEscape short rest⟩
      | none =>
          cases escaped : isEscaped c with
          | true =>
              exact ⟨escapeStarts c, readChar_unicodeEscape (toNat_lt_of_isEscaped escaped) rest⟩
          | false => exact readChar_utf8EncodeChar short escaped rest

theorem escape_ne_nil (rune : Rune) : escape rune ≠ [] := by
  intro empty
  have read := (readChar_escape rune []).2
  rw [empty] at read
  contradiction

theorem readChars_flatMap_escape (contents : List Rune) (rest : Bytes) {fuel : Nat}
    (enough : contents.length < fuel) :
    readChars fuel (contents.flatMap escape ++ quote :: rest) =
      some (contents.map Rune.toChar, rest) := by
  induction contents generalizing fuel with
  | nil =>
      cases fuel with
      | zero => contradiction
      | succ fuel => rfl
  | cons rune contents ih =>
      cases fuel with
      | zero => contradiction
      | succ fuel =>
          rcases readChar_escape rune (contents.flatMap escape ++ quote :: rest) with
            ⟨goesOn, read⟩
          have later := ih (Nat.lt_of_succ_lt_succ enough)
          rw [List.flatMap_cons, List.append_assoc, readChars, if_neg goesOn, read]
          simp [later]

theorem readString_marshalString (text rest : Bytes) :
    readString (marshalString text ++ rest) = some (coerce text, rest) := by
  have enough : (runes text).length < (marshalString text ++ rest).length := by
    have short := length_le_length_flatMap escape escape_ne_nil (runes text)
    simp only [marshalString, List.cons_append, List.length_cons, List.length_append]
    omega
  have read := readChars_flatMap_escape (runes text) rest enough
  have contents : (marshalString text ++ rest).tail =
      (runes text).flatMap escape ++ quote :: rest := by
    simp [marshalString]
  rw [readString, if_pos (by rfl), contents, read]
  simp [coerce, List.flatMap_map]

/-- No space is skipped in front of a byte that is none. -/
theorem skipSpace_cons {byte : UInt8} (visible : isSpace byte = false) (rest : Bytes) :
    skipSpace (byte :: rest) = byte :: rest := by
  rw [skipSpace, List.dropWhile_cons, visible]
  rfl

theorem skipSpace_marshalString (text rest : Bytes) :
    skipSpace (marshalString text ++ rest) = marshalString text ++ rest :=
  skipSpace_cons rfl _

theorem readElements_marshal (text : Bytes) (texts : List Bytes) (rest : Bytes) {fuel : Nat}
    (enough : texts.length < fuel) :
    readElements fuel (marshalString text ++ (marshalRest texts ++ rightBracket :: rest)) =
      some (coerce text :: texts.map coerce, rest) := by
  induction texts generalizing text fuel with
  | nil =>
      cases fuel with
      | zero => contradiction
      | succ fuel =>
          rw [readElements, skipSpace_marshalString, readString_marshalString]
          simp [marshalRest, skipSpace_cons, rightBracket, isSpace]
  | cons next texts ih =>
      cases fuel with
      | zero => contradiction
      | succ fuel =>
          have later := ih next (Nat.lt_of_succ_lt_succ enough)
          have behind : marshalRest (next :: texts) ++ rightBracket :: rest =
              comma :: (marshalString next ++ (marshalRest texts ++ rightBracket :: rest)) := by
            simp [marshalRest]
          rw [readElements, skipSpace_marshalString, readString_marshalString, behind]
          simp [skipSpace_cons, comma, isSpace, later]

/-- Reading back gives every byte string, with the bytes replaced that start no
character. -/
theorem unmarshal_marshal (texts : List Bytes) :
    unmarshal (marshal texts) = some (texts.map coerce) := by
  cases texts with
  | nil => rfl
  | cons text texts =>
      have several : texts.length < (marshalString text ++
          (marshalRest texts ++ [rightBracket])).length := by
        have elements := length_le_length_flatMap (fun text => comma :: marshalString text)
          (fun _ => nofun) texts
        simp only [marshalRest, List.length_append, List.length_singleton]
        omega
      have read := readElements_marshal text texts [] several
      rw [marshal, unmarshal, skipSpace_cons rfl, List.append_assoc]
      simp only [leftBracket, skipSpace_marshalString]
      rw [read]
      rfl

example : unmarshal (bytes "[\"a\\u003c\\n\" , \"\\ud83d\\ude00\"]") =
    some [bytes "a<\n", bytes "😀"] := by
  decide

end Tailpost.Json
