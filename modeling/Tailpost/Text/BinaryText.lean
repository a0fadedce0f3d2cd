import Tailpost.Text.Utf8

/-!
# Bytes as text

Hexadecimal digits, and Base64 in the standard alphabet with padding.  Reading Base64
skips line breaks and does not look at the bits that padding leaves over.
-/

namespace Tailpost.Hex

open Tailpost.Utf8

/-- The digit of a number below sixteen. -/
def digit (value : Nat) : UInt8 :=
  if value < 10 then .ofNat (0x30 + value) else .ofNat (0x61 + value - 10)

/-- The value of a hexadecimal digit. -/
def value (byte : UInt8) : Option Nat :=
  if 0x30 ≤ byte ∧ byte ≤ 0x39 then some (byte.toNat - 0x30)
  else if 0x61 ≤ byte ∧ byte ≤ 0x66 then some (byte.toNat - 0x61 + 10)
  else if 0x41 ≤ byte ∧ byte ≤ 0x46 then some (byte.toNat - 0x41 + 10)
  else none

theorem value_digit {number : Nat} (small : number < 16) :
    value (digit number) = some number := by
  decide +revert

/-- The bytes of pairs of digits. -/
def decode : Bytes → Option Bytes
  | [] => some []
  | [_] => none
  | a :: b :: rest => do
      let byte := UInt8.ofNat ((← value a) * 16 + (← value b))
      return byte :: (← decode rest)

end Tailpost.Hex

namespace Tailpost.Base64

open Tailpost.Utf8

/-- The character for a number below `64`. -/
def digit (value : Nat) : UInt8 :=
  if value < 26 then .ofNat (0x41 + value)
  else if value < 52 then .ofNat (0x61 + value - 26)
  else if value < 62 then .ofNat (0x30 + value - 52)
  else if value = 62 then 0x2B
  else 0x2F

/-- The value of a base64 digit. -/
def value (byte : UInt8) : Option Nat :=
  if 0x41 ≤ byte ∧ byte ≤ 0x5A then some (byte.toNat - 0x41)
  else if 0x61 ≤ byte ∧ byte ≤ 0x7A then some (byte.toNat - 0x61 + 26)
  else if 0x30 ≤ byte ∧ byte ≤ 0x39 then some (byte.toNat - 0x30 + 52)
  else if byte = 0x2B then some 62
  else if byte = 0x2F then some 63
  else none

/-- The padding of the last group. -/
def padding : UInt8 :=
  0x3D

/-- Three bytes become four characters. -/
def encode : Bytes → Bytes
  | [] => []
  | [a] => [digit (a.toNat / 4), digit (a.toNat % 4 * 16), padding, padding]
  | [a, b] =>
      [digit (a.toNat / 4), digit (a.toNat % 4 * 16 + b.toNat / 16), digit (b.toNat % 16 * 4),
        padding]
  | a :: b :: c :: rest =>
      digit (a.toNat / 4) :: digit (a.toNat % 4 * 16 + b.toNat / 16) ::
        digit (b.toNat % 16 * 4 + c.toNat / 64) :: digit (c.toNat % 64) :: encode rest

/-- The bytes of groups of four characters, padded at the end. -/
def decodeGroups : Bytes → Option Bytes
  | [] => some []
  | a :: b :: c :: d :: rest => do
      let first ← value a
      let second ← value b
      let front := UInt8.ofNat (first * 4 + second / 16)
      if c = padding then
        if d = padding ∧ rest = [] then some [front] else none
      else
        let third ← value c
        let middle := UInt8.ofNat (second % 16 * 16 + third / 4)
        if d = padding then
          if rest = [] then some [front, middle] else none
        else
          let fourth ← value d
          let others ← decodeGroups rest
          return front :: middle :: .ofNat (third % 4 * 64 + fourth) :: others
  | _ => none

/-- The bytes that the decoder skips. -/
def isLineBreak (byte : UInt8) : Bool :=
  byte == 0x0A || byte == 0x0D

/-- The bytes of a base64 text, with its line breaks skipped. -/
def decode (text : Bytes) : Option Bytes :=
  decodeGroups (text.filter (!isLineBreak ·))

/-! ## Decoding what has been encoded -/

section Digits

variable {number : Nat}

theorem value_digit (small : number < 64) : value (digit number) = some number := by
  decide +revert

theorem digit_ne_padding (small : number < 64) : digit number ≠ padding := by
  decide +revert

theorem isLineBreak_digit (small : number < 64) : isLineBreak (digit number) = false := by
  decide +revert

theorem ofNat_eq_byte {byte : UInt8} (same : number = byte.toNat) :
    UInt8.ofNat number = byte := by
  rw [same, UInt8.ofNat_toNat]

end Digits

theorem isLineBreak_padding : isLineBreak padding = false :=
  rfl

/-- The encoding has no line breaks. -/
theorem filter_encode (text : Bytes) :
    (encode text).filter (!isLineBreak ·) = encode text := by
  induction text using encode.induct with
  | case1 => rfl
  | case2 a =>
      have aSmall := a.toNat_lt
      simp (disch := omega) [encode, isLineBreak_digit, isLineBreak_padding]
  | case3 a b =>
      have aSmall := a.toNat_lt
      have bSmall := b.toNat_lt
      simp (disch := omega) [encode, isLineBreak_digit, isLineBreak_padding]
  | case4 a b c rest inductionHypothesis =>
      have aSmall := a.toNat_lt
      have bSmall := b.toNat_lt
      have cSmall := c.toNat_lt
      simp (disch := omega) only [encode, List.filter_cons, isLineBreak_digit, Bool.not_false,
        if_true, inductionHypothesis]

theorem decodeGroups_encode (text : Bytes) : decodeGroups (encode text) = some text := by
  induction text using encode.induct with
  | case1 => rfl
  | case2 a =>
      have aSmall := a.toNat_lt
      have first : UInt8.ofNat (a.toNat / 4 * 4 + a.toNat % 4 * 16 / 16) = a :=
        ofNat_eq_byte (by omega)
      simp (disch := omega) only [encode, decodeGroups, value_digit, Option.bind_eq_bind,
        Option.bind_some, if_true, and_self, first]
  | case3 a b =>
      have aSmall := a.toNat_lt
      have bSmall := b.toNat_lt
      have first : UInt8.ofNat (a.toNat / 4 * 4 + (a.toNat % 4 * 16 + b.toNat / 16) / 16) = a :=
        ofNat_eq_byte (by omega)
      have second : UInt8.ofNat ((a.toNat % 4 * 16 + b.toNat / 16) % 16 * 16 +
          b.toNat % 16 * 4 / 4) = b :=
        ofNat_eq_byte (by omega)
      simp (disch := omega) only [encode, decodeGroups, value_digit, digit_ne_padding,
        Option.bind_eq_bind, Option.bind_some, if_false, first, second]
      rfl
  | case4 a b c rest inductionHypothesis =>
      have aSmall := a.toNat_lt
      have bSmall := b.toNat_lt
      have cSmall := c.toNat_lt
      have first : UInt8.ofNat (a.toNat / 4 * 4 + (a.toNat % 4 * 16 + b.toNat / 16) / 16) = a :=
        ofNat_eq_byte (by omega)
      have second : UInt8.ofNat ((a.toNat % 4 * 16 + b.toNat / 16) % 16 * 16 +
          (b.toNat % 16 * 4 + c.toNat / 64) / 4) = b :=
        ofNat_eq_byte (by omega)
      have third : UInt8.ofNat ((b.toNat % 16 * 4 + c.toNat / 64) % 4 * 64 + c.toNat % 64) = c :=
        ofNat_eq_byte (by omega)
      simp (disch := omega) only [encode, decodeGroups, value_digit, digit_ne_padding,
        Option.bind_eq_bind, Option.bind_some, if_false, first, second, third,
        inductionHypothesis]
      rfl

theorem decode_encode (text : Bytes) : decode (encode text) = some text := by
  rw [decode, filter_encode, decodeGroups_encode]

example : encode (bytes "user:pass") = bytes "dXNlcjpwYXNz" := by decide

example : decode (bytes "dXNl\ncjpwYXM=") = some (bytes "user:pas") := by decide

end Tailpost.Base64
