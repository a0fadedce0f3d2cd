import Tailpost.Container.LogLineReader

/-!
# Calls of `ReadLine`

A log line reader is followed over all calls of `ReadLine`.  Its stream is given by the
answers to the coming calls of `Read`; they are finitely many, and behind them the stream
gives the same answer forever.  A `Read` that neither fails nor ends the stream only
appends its bytes, so the lines depend on the bytes and not on how they are cut into
chunks.  A `Read` that fails may bring bytes along, and these are lost.
-/

namespace Tailpost.Container

open Tailpost.Text

universe u

/-- What a `Read` returns. -/
structure Read (α : Type u) where
  chunk : List α
  error : Option ReadError

/-- A `Read` that neither fails nor ends the stream. -/
def Read.Continues {α : Type u} (read : Read α) : Prop :=
  read.error = none ∨ read.error = some .eof ∧ read.chunk ≠ []

/-- A line reader with the answers that its stream has still to give. -/
structure LogLineReader (α : Type u) where
  buffer : List α
  reads : List (Read α)

/-- A reader of a stream, with an empty buffer. -/
def newLogLineReader {α : Type u} (reads : List (Read α)) : LogLineReader α :=
  ⟨[], reads⟩

namespace LogLineReader

variable {α : Type u}

/-- Return, or go on with the buffer. -/
def answer (reads : List (Read α)) (again : List α → Except ReadError (List α) × LogLineReader α) :
    Progress α × List α → Except ReadError (List α) × LogLineReader α
  | (.line line, buffer) => (.ok line, ⟨buffer, reads⟩)
  | (.failed error, buffer) => (.error error, ⟨buffer, reads⟩)
  | (.more, buffer) => again buffer

section Calls

variable (isEnd : α → Bool) (final : ReadError)

/-- The loop of `ReadLine`.  When all answers are given, the stream returns `final` and no
bytes, and that is never a reason to go on. -/
def readFrom (reads : List (Read α)) (buffer : List α) :
    Except ReadError (List α) × LogLineReader α :=
  match cutLine isEnd buffer with
  | some (line, rest) => (.ok line.dropLast, ⟨rest, reads⟩)
  | none =>
      match reads with
      | [] => answer [] (fun buffer => (.error final, ⟨buffer, []⟩))
          (receive buffer [] (some final))
      | read :: reads => answer reads (fun buffer => readFrom reads buffer)
          (receive buffer read.chunk read.error)

/-- The next line, or the error of the stream. -/
def readLine (reader : LogLineReader α) : Except ReadError (List α) × LogLineReader α :=
  readFrom isEnd final reader.reads reader.buffer

/-- What the first calls of `ReadLine` return. -/
def readLines : Nat → LogLineReader α → List (Except ReadError (List α))
  | 0, _ => []
  | count + 1, reader =>
      (readLine isEnd final reader).1 :: readLines count (readLine isEnd final reader).2

end Calls

/-! ## One call -/

/-- The bytes that some reads bring. -/
def received (reads : List (Read α)) : List α :=
  reads.flatMap Read.chunk

variable {isEnd : α → Bool} {final : ReadError} {buffer line rest : List α}
  {front tail : List (Read α)}

theorem readLine_of_cutLine (found : cutLine isEnd buffer = some (line, rest)) :
    readLine isEnd final ⟨buffer, tail⟩ = (.ok line.dropLast, ⟨rest, tail⟩) := by
  unfold readLine readFrom
  simp only [found]

theorem readLine_of_continues {read : Read α} (missing : cutLine isEnd buffer = none)
    (goesOn : read.Continues) :
    readLine isEnd final ⟨buffer, read :: tail⟩ =
      readLine isEnd final ⟨buffer ++ read.chunk, tail⟩ := by
  have more := receive_eq_more_iff.mpr ⟨goesOn, Eq.refl (buffer ++ read.chunk)⟩
  conv => lhs; unfold readLine readFrom
  simp only [missing, more]
  rfl

/-- The bytes come to the buffer until a line can be cut off; what is left behind the
line is in the buffer and in the coming reads. -/
theorem readLine_of_line (goesOn : ∀ read ∈ front, read.Continues)
    (found : cutLine isEnd (buffer ++ received front) = some (line, rest)) :
    ∃ left coming, (∀ read ∈ coming, Read.Continues read) ∧ left ++ received coming = rest ∧
      readLine isEnd final ⟨buffer, front ++ tail⟩ =
        (.ok line.dropLast, ⟨left, coming ++ tail⟩) := by
  induction front generalizing buffer with
  | nil =>
      rw [received, List.flatMap_nil, List.append_nil] at found
      exact ⟨rest, [], goesOn, List.append_nil rest, readLine_of_cutLine found⟩
  | cons read front inductionHypothesis =>
      -- The line may lie in the buffer alone, and then nothing is read for it.
      rcases cut : cutLine isEnd buffer with _ | ⟨first, left⟩
      · have later := (List.forall_mem_cons.mp goesOn).2
        rw [received, List.flatMap_cons, ← List.append_assoc] at found
        rw [List.cons_append, readLine_of_continues cut (goesOn read List.mem_cons_self)]
        exact inductionHypothesis later found
      · have same := Option.some.inj (found.symm.trans (cutLine_append _ cut))
        cases same
        exact ⟨left, read :: front, goesOn, rfl, readLine_of_cutLine cut⟩

/-- Without a line, all bytes come to the buffer. -/
theorem readLine_of_no_line (goesOn : ∀ read ∈ front, read.Continues)
    (missing : cutLine isEnd (buffer ++ received front) = none) :
    readLine isEnd final ⟨buffer, front ++ tail⟩ =
      readLine isEnd final ⟨buffer ++ received front, tail⟩ := by
  induction front generalizing buffer with
  | nil => rw [received, List.flatMap_nil, List.append_nil, List.nil_append]
  | cons read front inductionHypothesis =>
      have noLine : cutLine isEnd buffer = none := by
        rcases cut : cutLine isEnd buffer with _ | ⟨line, rest⟩
        · rfl
        · rw [cutLine_append _ cut] at missing
          contradiction
      have later := (List.forall_mem_cons.mp goesOn).2
      rw [received, List.flatMap_cons, ← List.append_assoc] at missing ⊢
      rw [List.cons_append, readLine_of_continues noLine (goesOn read List.mem_cons_self)]
      exact inductionHypothesis later missing

/-! ## All calls -/

theorem length_readLines (isEnd : α → Bool) (final : ReadError) (count : Nat)
    (reader : LogLineReader α) : (readLines isEnd final count reader).length = count := by
  induction count generalizing reader with
  | zero => rfl
  | succ count inductionHypothesis =>
      rw [readLines, List.length_cons, inductionHypothesis]

/-- The first of some calls are calls. -/
theorem take_readLines {fewer count : Nat} (le : fewer ≤ count) (reader : LogLineReader α) :
    (readLines isEnd final count reader).take fewer = readLines isEnd final fewer reader := by
  induction count generalizing fewer reader with
  | zero =>
      cases Nat.le_zero.mp le
      rfl
  | succ count inductionHypothesis =>
      cases fewer with
      | zero => rfl
      | succ fewer =>
          rw [readLines, readLines, List.take_succ_cons,
            inductionHypothesis (Nat.le_of_succ_le_succ le)]

theorem readLines_congr {count : Nat} {reader other : LogLineReader α}
    (same : readLine isEnd final reader = readLine isEnd final other) :
    readLines isEnd final count reader = readLines isEnd final count other := by
  cases count with
  | zero => rfl
  | succ count => rw [readLines, readLines, same]

/-- The calls return the terminated lines of the bytes that come without a failure, and go
on with the bytes behind the last terminator in the buffer. -/
theorem readLines_eq (goesOn : ∀ read ∈ front, read.Continues) (count : Nat) :
    readLines isEnd final count ⟨buffer, front ++ tail⟩ =
      ((terminated isEnd (buffer ++ received front)).map Except.ok ++
        readLines isEnd final count
          ⟨unterminated isEnd (buffer ++ received front), tail⟩).take count := by
  induction count generalizing buffer front with
  | zero => rfl
  | succ count inductionHypothesis =>
      rcases cut : cutLine isEnd (buffer ++ received front) with _ | ⟨line, rest⟩
      · rw [terminated_of_cutLine_eq_none cut, unterminated_of_cutLine_eq_none cut,
          List.map_nil, List.nil_append, take_readLines (Nat.le_refl _)]
        exact readLines_congr (readLine_of_no_line goesOn cut)
      · obtain ⟨left, coming, comingGoesOn, rfl, returned⟩ := readLine_of_line goesOn cut
        rw [terminated_of_cutLine cut, unterminated_of_cutLine cut, readLines, returned,
          inductionHypothesis comingGoesOn]
        simp only [List.map_cons, List.cons_append, List.take_succ_cons, List.take_append]
        rw [take_readLines (Nat.sub_le _ _), take_readLines (Nat.le_succ_of_le (Nat.sub_le _ _))]

/-! ## A stream that ends -/

/-- A stream that answers no `Read` with a failure brings a text.  The last bytes may come
with the end of the stream; behind them every `Read` finds the end. -/
inductive Delivers : List (Read α) → List α → Prop
  | ended : Delivers [] []
  | last {chunk : List α} : chunk ≠ [] → Delivers [⟨chunk, some .eof⟩] chunk
  | read {chunk text : List α} {reads : List (Read α)} : Delivers reads text →
      Delivers (⟨chunk, none⟩ :: reads) (chunk ++ text)

theorem Delivers.continues {reads : List (Read α)} {text : List α}
    (delivers : Delivers reads text) :
    (∀ read ∈ reads, read.Continues) ∧ received reads = text := by
  induction delivers with
  | ended => exact ⟨List.forall_mem_nil _, rfl⟩
  | last nonempty => exact ⟨List.forall_mem_singleton.mpr (.inr ⟨rfl, nonempty⟩), List.append_nil _⟩
  | read _ inductionHypothesis =>
      obtain ⟨goesOn, same⟩ := inductionHypothesis
      exact ⟨List.forall_mem_cons.mpr ⟨.inl rfl, goesOn⟩, congrArg _ same⟩

/-- At the end of the stream the bytes that are left make a line, and then the end is
reported again and again. -/
theorem readLines_ended (missing : cutLine isEnd buffer = none) (count : Nat) :
    readLines isEnd .eof count ⟨buffer, []⟩ =
      ((if buffer = [] then [] else [buffer]).map Except.ok ++
        List.replicate count (Except.error ReadError.eof)).take count := by
  have drained : ∀ count, readLines isEnd .eof count ⟨[], []⟩ =
      List.replicate count (Except.error ReadError.eof) := by
    intro count
    induction count with
    | zero => rfl
    | succ count inductionHypothesis =>
        rw [List.replicate_succ, ← inductionHypothesis]
        rfl
  by_cases empty : buffer = []
  · rw [if_pos empty, empty, drained, List.map_nil, List.nil_append, List.take_replicate,
      Nat.min_self]
  · have line : readLine isEnd .eof ⟨buffer, []⟩ = (.ok buffer, ⟨[], []⟩) := by
      unfold readLine readFrom
      simp only [missing, receive, if_true, if_neg empty]
      rfl
    rw [if_neg empty]
    cases count with
    | zero => rfl
    | succ count =>
        rw [readLines, line, drained]
        simp

end LogLineReader

open LogLineReader

/-- However a text is cut into reads, the calls of `ReadLine` return its segments and then
report the end of the stream. -/
theorem readLines_eq_segments {reads : List (Read UInt8)} {text : List UInt8}
    (delivers : Delivers reads text) (count : Nat) :
    readLines isNewline .eof count (newLogLineReader reads) =
      ((segments isNewline text).map Except.ok ++
        List.replicate count (Except.error ReadError.eof)).take count := by
  obtain ⟨goesOn, rfl⟩ := delivers.continues
  have calls := @readLines_eq _ isNewline .eof [] reads [] goesOn count
  rw [List.append_nil, List.nil_append, readLines_ended (cutLine_unterminated _ _)] at calls
  have shortened : ∀ front back : List (Except ReadError (List UInt8)),
      (front ++ back.take count).take count = (front ++ back).take count := by
    intro front back
    rw [List.take_append, List.take_take, Nat.min_eq_left (Nat.sub_le _ _), ← List.take_append]
  rw [newLogLineReader, calls, shortened, segments, List.map_append, List.append_assoc]

/-- Lines that end within a chunk, at its end and in a later one, an empty chunk, and a
last line that comes with the end of the stream. -/
theorem readLines_eq_segments_chunks :
    readLines isNewline .eof 6
        (newLogLineReader [⟨[97, 10, 98], none⟩, ⟨[], none⟩, ⟨[99, 10], none⟩,
          ⟨[10, 100], some .eof⟩]) =
      [.ok [97], .ok [98, 99], .ok [], .ok [100], .error .eof, .error .eof] :=
  readLines_eq_segments (.read (.read (.read (.last (List.cons_ne_nil 10 [100]))))) 6

/-! ## A stream that fails -/

section Failing

variable {α : Type u} {isEnd : α → Bool} {final : ReadError} {reads : List (Read α)}
  {chunk : List α}

/-- A `Read` that fails loses its bytes. -/
theorem readLines_failing (succeed : ∀ read ∈ reads, read.error = none) :
    readLines isEnd final ((terminated isEnd (received reads)).length + 1)
        (newLogLineReader (reads ++ [⟨chunk, some .other⟩])) =
      (terminated isEnd (received reads)).map Except.ok ++ [.error .other] := by
  have goesOn : ∀ read ∈ reads, read.Continues := fun read member => .inl (succeed read member)
  have fails : readLine isEnd final
      ⟨unterminated isEnd (received reads), [⟨chunk, some .other⟩]⟩ =
        (.error .other, ⟨unterminated isEnd (received reads), []⟩) := by
    unfold readLine readFrom
    simp only [cutLine_unterminated]
    rfl
  rw [newLogLineReader, readLines_eq goesOn, List.nil_append, readLines, fails]
  simp [List.take_append]

/-- No line comes after the first error. -/
theorem length_le_of_readLines {reader : LogLineReader α} {lines others : List (List α)}
    {error first : ReadError} {count fewer : Nat}
    (calls : readLines isEnd final count reader = lines.map Except.ok ++ [.error error])
    (same : readLines isEnd final fewer reader = others.map Except.ok ++ [.error first]) :
    lines.length ≤ others.length := by
  have counted := congrArg List.length calls
  have countedFewer := congrArg List.length same
  simp only [length_readLines, List.length_append, List.length_map, List.length_singleton]
    at counted countedFewer
  by_contra longer
  have early := @take_readLines _ isEnd final fewer count (by omega) reader
  rw [calls, same, List.take_append_of_le_length (by simp; omega)] at early
  have member : Except.error first ∈ (lines.map Except.ok).take fewer := by
    rw [early]
    exact List.mem_append_right _ (List.mem_singleton_self _)
  simpa using List.mem_of_mem_take member

end Failing

/-- The lines returned before a `Read` fails are all the lines of the bytes received so far
exactly if the failing `Read` brings no terminator. -/
theorem lines_before_failure_iff {reads : List (Read UInt8)} {chunk : List UInt8}
    {final : ReadError} (succeed : ∀ read ∈ reads, read.error = none) :
    (∃ count, readLines isNewline final count
        (newLogLineReader (reads ++ [⟨chunk, some .other⟩])) =
          (terminated isNewline (received reads ++ chunk)).map Except.ok ++ [.error .other]) ↔
      ∀ byte ∈ chunk, isNewline byte = false := by
  have returned := @readLines_failing _ isNewline final reads chunk succeed
  constructor
  · rintro ⟨count, calls⟩ byte member
    have fewer := length_le_of_readLines calls returned
    rw [length_terminated, length_terminated, List.countP_append] at fewer
    have none : chunk.countP isNewline = 0 := by omega
    exact Bool.eq_false_iff.mpr (List.countP_eq_zero.mp none byte member)
  · intro inside
    rw [terminated_append_of_forall _ inside]
    exact ⟨_, returned⟩

/-- Three lines come before the failure, the last of them at the end of a chunk; the
failing `Read` brings the beginning of a fourth one. -/
theorem lines_before_failure_partial :
    ∃ count, readLines isNewline .other count
        (newLogLineReader [⟨[97, 10, 98, 10, 99], none⟩, ⟨[10], none⟩, ⟨[100], some .other⟩]) =
      [.ok [97], .ok [98], .ok [99], .error .other] :=
  (@lines_before_failure_iff [⟨[97, 10, 98, 10, 99], none⟩, ⟨[10], none⟩] [100] .other
    (by simp)).mpr (List.forall_mem_singleton.mpr rfl)

/-- The failing `Read` brings a whole line, and the first call reports the failure without
returning it. -/
theorem line_lost_with_failure :
    terminated isNewline (received [⟨[97, 10], some .other⟩]) = [[97]] ∧
      (readLine isNewline .other (newLogLineReader [⟨[97, 10], some .other⟩])).1 =
        .error .other ∧
      ¬ ∃ count, readLines isNewline .other count
          (newLogLineReader [⟨[97, 10], some .other⟩]) = [.ok [97], .error .other] := by
  refine ⟨by decide, rfl, ?_⟩
  rintro ⟨_ | count, calls⟩
  · contradiction
  · exact absurd (List.cons.inj calls).1 (by decide)

end Tailpost.Container
