import Tailpost.Text.Lines

/-!
# The line reader of a log stream

`LogLineReader` keeps the bytes it has read and not yet returned.  `ReadLine`
looks for a newline in them; while there is none it calls `Read` and decides
from the bytes and the error of that call whether to return or to go on.  One
round of that loop is modelled here, over any alphabet with a terminator.
-/

namespace Tailpost.Container

open Tailpost.Text

universe u

/-- The error a `Read` may return. -/
inductive ReadError
  | eof
  | other
  deriving DecidableEq

/-- What `ReadLine` does after a `Read`. -/
inductive Progress (α : Type u)
  /-- It returns a line. -/
  | line (line : List α)
  /-- It returns an error. -/
  | failed (error : ReadError)
  /-- It looks for a newline again. -/
  | more
  deriving DecidableEq

namespace LogLineReader

variable {α : Type u}

/-- The size of the slice passed to `Read`. -/
def chunkSize : Nat :=
  1024

/-- The part of `ReadLine` behind a `Read`, with the buffer it leaves. -/
def receive (buffer chunk : List α) : Option ReadError → Progress α × List α
  | some .other => (.failed .other, buffer)
  | some .eof =>
      if chunk = [] then
        if buffer = [] then
          (.failed .eof, buffer)
        else
          (.line buffer, [])
      else
        (.more, buffer ++ chunk)
  | none => (.more, buffer ++ chunk)

/-- The loop goes on with the bytes appended, unless the stream failed or has
ended. -/
theorem receive_eq_more_iff {buffer chunk after : List α} {error : Option ReadError} :
    receive buffer chunk error = (.more, after) ↔
      (error = none ∨ error = some .eof ∧ chunk ≠ []) ∧ after = buffer ++ chunk := by
  cases error with
  | none => simp [receive, eq_comm]
  | some error =>
      cases error with
      | other => simp [receive]
      | eof =>
          by_cases empty : chunk = []
          · by_cases drained : buffer = [] <;> simp [receive, empty, drained]
          · simp [receive, empty, eq_comm]

/-- After a `Read`, a line is returned only at the end of the stream, and it is
all that was left. -/
theorem receive_eq_line_iff {buffer chunk line after : List α} {error : Option ReadError} :
    receive buffer chunk error = (.line line, after) ↔
      error = some .eof ∧ chunk = [] ∧ buffer ≠ [] ∧ line = buffer ∧ after = [] := by
  cases error with
  | none => simp [receive]
  | some error =>
      cases error with
      | other => simp [receive]
      | eof =>
          by_cases empty : chunk = []
          · by_cases drained : buffer = [] <;> simp [receive, empty, drained, eq_comm]
          · simp [receive, empty]

end LogLineReader

end Tailpost.Container
