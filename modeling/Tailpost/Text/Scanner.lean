import Tailpost.Text.Lines

/-!
# Scanning lines with a bounded buffer

A scanner returns the lines of its input one by one, without the newline and one carriage
return in front of it, and the last line also without a newline.  It looks for a newline
in a buffer of limited size.  A line that fills the buffer without a newline ends the
scan; so does a last line that fills it, because the end of the input is only seen by
reading on.
-/

namespace Tailpost.Text.Scanner

/-- What a scanner finds next. -/
inductive Scan
  | token (line rest : List UInt8)
  | tooLong
  | done

/-- The byte `'\r'`. -/
def carriageReturn : UInt8 :=
  13

/-- A line without a carriage return at its end. -/
def dropCR (line : List UInt8) : List UInt8 :=
  if line.getLast? = some carriageReturn then line.dropLast else line

/-- The next token, when all of the text has arrived. -/
def scan (limit : Nat) (text : List UInt8) : Scan :=
  match cutLine isNewline text with
  | some (line, rest) =>
      if line.length ≤ limit then .token (dropCR line.dropLast) rest else .tooLong
  | none =>
      if text = [] then .done
      else if text.length < limit then .token (dropCR text) []
      else .tooLong

/-- What is found, in terms of the segments of the text. -/
inductive Finds (limit : Nat) (text : List UInt8) : Scan → Prop
  | token {segment rest : List UInt8} :
      segments isNewline text = segment :: segments isNewline rest → segment.length < limit →
      rest.length < text.length → Finds limit text (.token (dropCR segment) rest)
  | tooLong {segment : List UInt8} {others : List (List UInt8)} :
      segments isNewline text = segment :: others → limit ≤ segment.length →
      Finds limit text .tooLong
  | done : segments isNewline text = [] → Finds limit text .done

/-- The scanner goes from segment to segment up to the first one that is too long. -/
theorem finds_scan (limit : Nat) (text : List UInt8) : Finds limit text (scan limit text) := by
  unfold scan
  rcases cut : cutLine isNewline text with _ | ⟨line, rest⟩
  · have all := segments_of_cutLine_eq_none cut
    dsimp only
    split
    next empty =>
      rw [if_pos empty] at all
      exact .done all
    next given =>
      rw [if_neg given] at all
      split
      next short => exact .token all short (List.length_pos_iff.mpr given)
      next long => exact .tooLong all (Nat.not_lt.mp long)
  · have all := segments_of_cutLine cut
    have terminated := length_dropLast_of_cutLine cut
    dsimp only
    split
    next short => exact .token all (by omega) (length_of_cutLine cut)
    next long => exact .tooLong all (by omega)

end Tailpost.Text.Scanner
