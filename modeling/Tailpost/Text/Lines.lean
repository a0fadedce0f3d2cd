import Mathlib.Data.List.Infix

/-!
# Terminated lines of a text

A text over an arbitrary alphabet is cut at its terminators.  Every terminator
ends one segment; symbols after the last terminator belong to no segment.  The
lines of a text are its nonempty segments.

A text is closed when it is empty or ends in a terminator.  Cutting at the end
of a closed prefix neither splits a segment nor joins two of them, and this is
what makes line extraction compositional.
-/

namespace Tailpost.Text

universe u v

variable {α : Type u} {β : Type v}

/-! ## Parts of a text -/

/-- The symbols of a text from position `low` up to position `high`. -/
def part (text : List α) (low high : Nat) : List α :=
  (text.take high).drop low

@[simp]
theorem part_self (text : List α) (position : Nat) :
    part text position position = [] := by
  simp [part]

theorem length_part {text : List α} {low high : Nat} (highLe : high ≤ text.length) :
    (part text low high).length = high - low := by
  simp [part, Nat.min_eq_left highLe]

/-- Adjacent parts join. -/
theorem part_append_part (text : List α) {low middle high : Nat}
    (lowLe : low ≤ middle) (middleLe : middle ≤ high) :
    part text low middle ++ part text middle high = part text low high := by
  obtain ⟨first, rfl⟩ := Nat.exists_eq_add_of_le lowLe
  obtain ⟨second, rfl⟩ := Nat.exists_eq_add_of_le middleLe
  simp only [part, List.drop_take, Nat.add_sub_cancel_left]
  rw [show low + first + second - low = first + second by omega, List.take_add,
    List.drop_drop]

/-- Appending to a text leaves its parts alone. -/
theorem part_append {text : List α} {low high : Nat} (highLe : high ≤ text.length)
    (more : List α) : part (text ++ more) low high = part text low high := by
  rw [part, part, List.take_append_of_le_length highLe]

theorem part_map (relabel : α → β) (text : List α) (low high : Nat) :
    part (text.map relabel) low high = (part text low high).map relabel := by
  simp [part]

/-- Symbols taken behind a position form a part. -/
theorem take_drop_eq_part (text : List α) (position count : Nat) :
    (text.drop position).take count =
      part text position (position + ((text.drop position).take count).length) := by
  rw [part, ← List.take_drop, List.take_eq_take_iff, List.length_take]
  omega

/-- What was taken and what lies behind it are the text. -/
theorem take_append_drop_length (text : List α) (count : Nat) :
    text.take count ++ text.drop (text.take count).length = text := by
  rw [List.length_take, List.take_eq_take_min, List.take_append_drop]

/-- A part that is a concatenation consists of two adjacent parts. -/
theorem part_eq_append {text front back : List α} {low high : Nat}
    (highLe : high ≤ text.length) (eq : part text low high = front ++ back) :
    front = part text low (low + front.length) ∧
      back = part text (low + front.length) high := by
  have lengths := congrArg List.length eq
  rw [length_part highLe, List.length_append] at lengths
  rcases Nat.eq_zero_or_pos front.length with empty | nonempty
  · rw [List.length_eq_zero_iff.mp empty] at eq ⊢
    simpa using eq.symm
  · have joined := part_append_part text (Nat.le_add_right low front.length)
      (show low + front.length ≤ high by omega)
    rw [← joined] at eq
    obtain ⟨frontEq, backEq⟩ := List.append_inj eq (by rw [length_part] <;> omega)
    exact ⟨frontEq.symm, backEq.symm⟩

/-! ## Terminated segments -/

/-- The terminated segments of a text, without their terminators. -/
def terminated (isEnd : α → Bool) (text : List α) : List (List α) :=
  (text.splitOnP isEnd).dropLast

/-- The nonempty terminated segments of a text. -/
def lines (isEnd : α → Bool) (text : List α) : List (List α) :=
  (terminated isEnd text).filter fun segment => !segment.isEmpty

/-- A text whose last symbol, if there is one, is a terminator. -/
def Closed (isEnd : α → Bool) (text : List α) : Prop :=
  ∀ last ∈ text.getLast?, isEnd last = true

variable {isEnd : α → Bool}

@[simp]
theorem closed_nil : Closed isEnd [] := by
  simp [Closed]

/-- A closed text is empty or has its last terminator split off. -/
theorem closed_iff {text : List α} :
    Closed isEnd text ↔
      text = [] ∨ ∃ front last, text = front ++ [last] ∧ isEnd last = true := by
  constructor
  · intro closed
    rcases List.eq_nil_or_concat text with rfl | ⟨front, last, rfl⟩
    · exact Or.inl rfl
    · refine Or.inr ⟨front, last, by simp, closed last (by simp)⟩
  · rintro (rfl | ⟨front, last, rfl, ends⟩)
    · exact closed_nil
    · simpa [Closed] using ends

theorem closed_append {front back : List α} (closedFront : Closed isEnd front)
    (closedBack : Closed isEnd back) : Closed isEnd (front ++ back) := by
  rcases closed_iff.mp closedBack with rfl | ⟨rest, last, rfl, ends⟩
  · simpa using closedFront
  · exact closed_iff.mpr (Or.inr ⟨front ++ rest, last, by simp, ends⟩)

/-- A closed part is empty or ends right behind a terminator. -/
theorem closed_part {text : List α} {low high : Nat} (lowLe : low ≤ high)
    (highLe : high ≤ text.length) (closed : Closed isEnd (part text low high)) :
    high = low ∨ ∃ last, text[high - 1]? = some last ∧ isEnd last = true := by
  have length : (part text low high).length = high - low := length_part highLe
  rcases closed_iff.mp closed with empty | ⟨front, last, split, ends⟩
  · rw [empty, List.length_nil] at length
    exact Or.inl (by omega)
  · rw [split, List.length_append, List.length_singleton] at length
    refine Or.inr ⟨last, ?_, ends⟩
    have lastPart : (part text low high)[front.length]? = some last := by
      rw [split]
      simp
    rw [part, List.getElem?_drop, List.getElem?_take_of_lt (by omega)] at lastPart
    rwa [show low + front.length = high - 1 by omega] at lastPart

/-- Segments of a text that goes on after a terminator. -/
theorem terminated_append_cons (front back : List α) {last : α}
    (ends : isEnd last = true) :
    terminated isEnd (front ++ last :: back) =
      front.splitOnP isEnd ++ terminated isEnd back := by
  rw [terminated, List.splitOnP_append_cons front back ends,
    List.dropLast_append_of_ne_nil (List.splitOnP_ne_nil isEnd back)]
  rfl

/-- Segments compose at the end of a closed prefix. -/
theorem terminated_append {front : List α} (closed : Closed isEnd front)
    (back : List α) :
    terminated isEnd (front ++ back) =
      terminated isEnd front ++ terminated isEnd back := by
  rcases closed_iff.mp closed with rfl | ⟨rest, last, rfl, ends⟩
  · simp [terminated]
  · have whole := terminated_append_cons rest back ends
    have alone := terminated_append_cons rest [] ends
    rw [List.append_assoc, List.singleton_append, whole, alone]
    simp [terminated]

/-- One segment with its terminator. -/
theorem terminated_concat {segment : List α} {last : α}
    (inside : ∀ symbol ∈ segment, isEnd symbol = false) (ends : isEnd last = true) :
    terminated isEnd (segment ++ [last]) = [segment] := by
  rw [terminated_append_cons segment [] ends, List.splitOnP_eq_singleton inside]
  rfl

@[simp]
theorem lines_nil : lines isEnd [] = [] := by
  simp [lines, terminated]

theorem lines_append {front : List α} (closed : Closed isEnd front)
    (back : List α) :
    lines isEnd (front ++ back) = lines isEnd front ++ lines isEnd back := by
  simp only [lines, terminated_append closed, List.filter_append]

/-- One segment with its terminator is one line unless it is empty. -/
theorem lines_concat {segment : List α} {last : α}
    (inside : ∀ symbol ∈ segment, isEnd symbol = false) (ends : isEnd last = true) :
    lines isEnd (segment ++ [last]) = if segment = [] then [] else [segment] := by
  rw [lines, terminated_concat inside ends]
  cases segment <;> simp

/-- The lines behind a position are those of a closed part and those behind
the part. -/
theorem lines_drop {text : List α} {low high : Nat} (lowLe : low ≤ high)
    (highLe : high ≤ text.length) (closed : Closed isEnd (part text low high)) :
    lines isEnd (text.drop low) =
      lines isEnd (part text low high) ++ lines isEnd (text.drop high) := by
  have joined := part_append_part text lowLe highLe
  simp only [part, List.take_length] at joined closed ⊢
  rw [← joined, lines_append closed]

/-- Segments consist of symbols of the text. -/
theorem mem_of_mem_splitOnP {text segment : List α}
    (member : segment ∈ text.splitOnP isEnd) {symbol : α} (inside : symbol ∈ segment) :
    symbol ∈ text := by
  induction text generalizing segment with
  | nil =>
      rw [List.splitOnP_nil, List.mem_singleton] at member
      rw [member] at inside
      contradiction
  | cons first text ih =>
      rw [List.splitOnP_cons_eq_if_modifyHead] at member
      split at member
      next =>
        rcases List.mem_cons.mp member with rfl | later
        · contradiction
        · exact List.mem_cons_of_mem first (ih later inside)
      next =>
        cases segments : text.splitOnP isEnd with
        | nil => exact absurd segments (List.splitOnP_ne_nil isEnd text)
        | cons head rest =>
            rw [segments] at member ih
            rcases List.mem_cons.mp member with rfl | later
            · rcases List.mem_cons.mp inside with rfl | inHead
              · exact List.mem_cons_self
              · exact List.mem_cons_of_mem first (ih List.mem_cons_self inHead)
            · exact List.mem_cons_of_mem first
                (ih (List.mem_cons_of_mem head later) inside)

/-- A line is a nonempty segment of the text. -/
theorem of_mem_lines {text line : List α} (member : line ∈ lines isEnd text) :
    line ≠ [] ∧ ∀ symbol ∈ line, symbol ∈ text := by
  rcases List.mem_filter.mp member with ⟨segment, nonempty⟩
  constructor
  · simpa using nonempty
  · intro symbol inside
    exact mem_of_mem_splitOnP (List.dropLast_subset _ segment) inside

/-! ## Cutting off one line -/

/-- Cut a text behind its first terminator. -/
def cutLine (isEnd : α → Bool) : List α → Option (List α × List α)
  | [] => none
  | symbol :: text =>
      if isEnd symbol then
        some ([symbol], text)
      else
        (cutLine isEnd text).map fun (line, rest) => (symbol :: line, rest)

/-- The line that is cut off is a segment with its terminator. -/
theorem cutLine_eq_some_iff {text line rest : List α} :
    cutLine isEnd text = some (line, rest) ↔
      text = line ++ rest ∧ ∃ segment last, line = segment ++ [last] ∧
        isEnd last = true ∧ ∀ symbol ∈ segment, isEnd symbol = false := by
  induction text generalizing line with
  | nil =>
      constructor
      · intro found
        contradiction
      · rintro ⟨split, segment, last, rfl, _⟩
        simp at split
  | cons symbol text ih =>
      cases ends : isEnd symbol with
      | true =>
          simp only [cutLine, ends, if_true, Option.some.injEq, Prod.mk.injEq]
          constructor
          · rintro ⟨rfl, rfl⟩
            exact ⟨rfl, [], symbol, rfl, ends, by simp⟩
          · rintro ⟨split, segment, last, rfl, _, inside⟩
            cases segment with
            | nil => simpa using split
            | cons first segment =>
                have same : symbol = first := by simpa using congrArg List.head? split
                rw [← same, List.forall_mem_cons, ends] at inside
                exact absurd inside.1 Bool.noConfusion
      | false =>
          simp only [cutLine, ends, Bool.false_eq_true, if_false, Option.map_eq_some_iff,
            Prod.mk.injEq]
          constructor
          · rintro ⟨⟨line, rest⟩, found, rfl, rfl⟩
            rcases ih.mp found with ⟨rfl, segment, last, rfl, endsLast, inside⟩
            exact ⟨rfl, symbol :: segment, last, rfl, endsLast,
              List.forall_mem_cons.mpr ⟨ends, inside⟩⟩
          · rintro ⟨split, segment, last, rfl, endsLast, inside⟩
            cases segment with
            | nil =>
                have same : symbol = last := by simpa using congrArg List.head? split
                rw [same, endsLast] at ends
                contradiction
            | cons first segment =>
                rcases List.cons.inj split with ⟨rfl, tail⟩
                exact ⟨(segment ++ [last], rest), ih.mpr ⟨tail, segment, last, rfl, endsLast,
                  (List.forall_mem_cons.mp inside).2⟩, rfl, rfl⟩

/-- What follows a text does not change where its first line is cut. -/
theorem cutLine_append {text line rest : List α} (behind : List α)
    (found : cutLine isEnd text = some (line, rest)) :
    cutLine isEnd (text ++ behind) = some (line, rest ++ behind) := by
  rcases cutLine_eq_some_iff.mp found with ⟨rfl, cut⟩
  exact cutLine_eq_some_iff.mpr ⟨List.append_assoc line rest behind, cut⟩

theorem length_of_cutLine {text line rest : List α}
    (found : cutLine isEnd text = some (line, rest)) : rest.length < text.length := by
  obtain ⟨rfl, segment, last, rfl, _⟩ := cutLine_eq_some_iff.mp found
  simp only [List.length_append, List.length_singleton]
  omega

theorem length_dropLast_of_cutLine {text line rest : List α}
    (found : cutLine isEnd text = some (line, rest)) : line.dropLast.length + 1 = line.length := by
  obtain ⟨_, segment, last, rfl, _⟩ := cutLine_eq_some_iff.mp found
  simp

/-- A line that is cut off takes one terminator along. -/
theorem countP_of_cutLine {text line rest : List α}
    (found : cutLine isEnd text = some (line, rest)) :
    text.countP isEnd = rest.countP isEnd + 1 := by
  obtain ⟨rfl, segment, last, rfl, ends, inside⟩ := cutLine_eq_some_iff.mp found
  have none : segment.countP isEnd = 0 := by
    rw [List.countP_eq_zero]
    intro symbol member
    rw [inside symbol member]
    exact Bool.false_ne_true
  simp [List.countP_append, none, ends]

theorem countP_of_cutLine_eq_none {text : List α} (missing : cutLine isEnd text = none) :
    text.countP isEnd = 0 := by
  induction text with
  | nil => rfl
  | cons symbol text inductionHypothesis =>
      cases ends : isEnd symbol with
      | true => simp [cutLine, ends] at missing
      | false =>
          rw [List.countP_cons_of_neg (by simp [ends])]
          apply inductionHypothesis
          simpa [cutLine, ends] using missing

/-! ## All segments -/

/-- The symbols behind the last terminator. -/
def unterminated (isEnd : α → Bool) (text : List α) : List α :=
  (text.splitOnP isEnd).getLastD []

/-- The segments of a text; the one behind the last terminator counts unless it is
empty. -/
def segments (isEnd : α → Bool) (text : List α) : List (List α) :=
  terminated isEnd text ++
    if unterminated isEnd text = [] then [] else [unterminated isEnd text]

theorem splitOnP_of_cutLine {text line rest : List α}
    (found : cutLine isEnd text = some (line, rest)) :
    text.splitOnP isEnd = line.dropLast :: rest.splitOnP isEnd := by
  obtain ⟨rfl, segment, last, rfl, ends, inside⟩ := cutLine_eq_some_iff.mp found
  rw [List.append_assoc, List.singleton_append, List.splitOnP_append_cons segment rest ends,
    List.splitOnP_eq_singleton inside, List.dropLast_concat]
  rfl

theorem terminated_of_cutLine {text line rest : List α}
    (found : cutLine isEnd text = some (line, rest)) :
    terminated isEnd text = line.dropLast :: terminated isEnd rest := by
  rw [terminated, splitOnP_of_cutLine found,
    List.dropLast_cons_of_ne_nil (List.splitOnP_ne_nil isEnd rest)]
  rfl

theorem unterminated_of_cutLine {text line rest : List α}
    (found : cutLine isEnd text = some (line, rest)) :
    unterminated isEnd text = unterminated isEnd rest := by
  rw [unterminated, splitOnP_of_cutLine found]
  cases others : rest.splitOnP isEnd with
  | nil => exact absurd others (List.splitOnP_ne_nil isEnd rest)
  | cons first others => simp [unterminated, *]

/-- A text in which no line can be cut off is one unterminated segment. -/
theorem splitOnP_of_cutLine_eq_none {text : List α} (missing : cutLine isEnd text = none) :
    text.splitOnP isEnd = [text] := by
  have none := List.countP_eq_zero.mp (countP_of_cutLine_eq_none missing)
  exact List.splitOnP_eq_singleton fun symbol member => Bool.eq_false_iff.mpr (none symbol member)

theorem terminated_of_cutLine_eq_none {text : List α} (missing : cutLine isEnd text = none) :
    terminated isEnd text = [] := by
  rw [terminated, splitOnP_of_cutLine_eq_none missing]
  rfl

theorem unterminated_of_cutLine_eq_none {text : List α} (missing : cutLine isEnd text = none) :
    unterminated isEnd text = text := by
  rw [unterminated, splitOnP_of_cutLine_eq_none missing]
  rfl

theorem segments_of_cutLine {text line rest : List α}
    (found : cutLine isEnd text = some (line, rest)) :
    segments isEnd text = line.dropLast :: segments isEnd rest := by
  rw [segments, terminated_of_cutLine found, unterminated_of_cutLine found]
  rfl

theorem segments_of_cutLine_eq_none {text : List α} (missing : cutLine isEnd text = none) :
    segments isEnd text = if text = [] then [] else [text] := by
  rw [segments, terminated_of_cutLine_eq_none missing, unterminated_of_cutLine_eq_none missing]
  rfl

theorem unterminated_append {front : List α} (closed : Closed isEnd front) (back : List α) :
    unterminated isEnd (front ++ back) = unterminated isEnd back := by
  rcases closed_iff.mp closed with rfl | ⟨rest, last, rfl, ends⟩
  · rfl
  · rw [unterminated, List.append_assoc, List.singleton_append,
      List.splitOnP_append_cons rest back ends, unterminated]
    cases others : back.splitOnP isEnd with
    | nil => exact absurd others (List.splitOnP_ne_nil isEnd back)
    | cons segment segments =>
        simp [List.getLastD_eq_getLast?, List.getLast?_eq_some_getLast]

/-- Cutting at the end of a closed text splits no segment. -/
theorem segments_append {front : List α} (closed : Closed isEnd front) (back : List α) :
    segments isEnd (front ++ back) = segments isEnd front ++ segments isEnd back := by
  have whole : unterminated isEnd front = [] := by
    have empty := unterminated_append closed []
    rwa [List.append_nil] at empty
  simp only [segments, terminated_append closed, unterminated_append closed, whole, if_true,
    List.append_nil, List.append_assoc]

/-- The first lines of a text are the lines of a front part of it. -/
theorem exists_take_lines {text : List α} {first : List (List α)}
    (front : first <+: lines isEnd text) :
    ∃ count, first = lines isEnd (text.take count) := by
  rcases cut : cutLine isEnd text with _ | ⟨line, rest⟩
  · rw [lines, terminated_of_cutLine_eq_none cut] at front
    exact ⟨0, by rw [List.take_zero, lines_nil]; exact List.prefix_nil.mp front⟩
  · have shorter := length_of_cutLine cut
    obtain ⟨rfl, segment, last, rfl, ends, inside⟩ := cutLine_eq_some_iff.mp cut
    have closed : Closed isEnd (segment ++ [last]) := closed_iff.mpr (.inr ⟨_, _, rfl, ends⟩)
    have behind (count : Nat) :
        lines isEnd ((segment ++ [last] ++ rest).take ((segment ++ [last]).length + count)) =
          lines isEnd (segment ++ [last]) ++ lines isEnd (rest.take count) := by
      rw [List.take_length_add_append, lines_append closed]
    rw [lines_append closed] at front
    obtain ⟨more, all⟩ := front
    rcases List.append_eq_append_iff.mp all with ⟨others, whole, _⟩ | ⟨later, rfl, remaining⟩
    · -- at most the first line
      cases first with
      | nil => exact ⟨0, by rw [List.take_zero, lines_nil]⟩
      | cons line further =>
          refine ⟨(segment ++ [last]).length + 0, ?_⟩
          rw [behind, List.take_zero, lines_nil, List.append_nil]
          rw [lines_concat inside ends] at whole ⊢
          split at whole
          next => contradiction
          next given =>
            have nothing := (List.append_eq_nil_iff.mp (List.cons.inj whole).2.symm).1
            rw [if_neg given, (List.cons.inj whole).1, nothing]
    · obtain ⟨count, same⟩ := exists_take_lines ⟨more, remaining.symm⟩
      exact ⟨_, by rw [behind count, same]⟩
termination_by text.length

/-- Cutting off lines ends with a text in which there is none. -/
theorem cutLine_unterminated (isEnd : α → Bool) (text : List α) :
    cutLine isEnd (unterminated isEnd text) = none := by
  rcases cut : cutLine isEnd text with _ | ⟨line, rest⟩
  · rw [unterminated_of_cutLine_eq_none cut, cut]
  · have shorter := length_of_cutLine cut
    rw [unterminated_of_cutLine cut]
    exact cutLine_unterminated isEnd rest
termination_by text.length

/-- There is one terminated segment for each terminator. -/
theorem length_terminated (isEnd : α → Bool) (text : List α) :
    (terminated isEnd text).length = text.countP isEnd := by
  rcases cut : cutLine isEnd text with _ | ⟨line, rest⟩
  · rw [terminated_of_cutLine_eq_none cut, countP_of_cutLine_eq_none cut]
    rfl
  · have shorter := length_of_cutLine cut
    rw [terminated_of_cutLine cut, countP_of_cutLine cut, List.length_cons,
      length_terminated isEnd rest]
termination_by text.length

/-- Symbols that are no terminators add no terminated segment. -/
theorem terminated_append_of_forall (front : List α) {back : List α}
    (inside : ∀ symbol ∈ back, isEnd symbol = false) :
    terminated isEnd (front ++ back) = terminated isEnd front := by
  rcases cut : cutLine isEnd front with _ | ⟨line, rest⟩
  · have none : ∀ symbol ∈ front ++ back, isEnd symbol = false := by
      intro symbol member
      rcases List.mem_append.mp member with first | second
      · have counted := List.countP_eq_zero.mp (countP_of_cutLine_eq_none cut) symbol first
        exact Bool.eq_false_iff.mpr counted
      · exact inside symbol second
    rw [terminated_of_cutLine_eq_none cut, terminated, List.splitOnP_eq_singleton none]
    rfl
  · have shorter := length_of_cutLine cut
    rw [terminated_of_cutLine cut, terminated_of_cutLine (cutLine_append back cut),
      terminated_append_of_forall rest inside]
termination_by front.length

/-- What follows a text adds terminated segments behind those it has. -/
theorem terminated_prefix_append (isEnd : α → Bool) (front back : List α) :
    terminated isEnd front <+: terminated isEnd (front ++ back) := by
  rcases cut : cutLine isEnd front with _ | ⟨line, rest⟩
  · rw [terminated_of_cutLine_eq_none cut]
    exact List.nil_prefix
  · have shorter := length_of_cutLine cut
    rw [terminated_of_cutLine cut, terminated_of_cutLine (cutLine_append back cut)]
    exact (List.prefix_cons_inj _).mpr (terminated_prefix_append isEnd rest back)
termination_by front.length

theorem lines_prefix_append (isEnd : α → Bool) (front back : List α) :
    lines isEnd front <+: lines isEnd (front ++ back) :=
  (terminated_prefix_append isEnd front back).filter _

/-! ## Relabelling the alphabet -/

theorem splitOnP_map (relabel : α → β) (isEnd : β → Bool) (text : List α) :
    (text.map relabel).splitOnP isEnd =
      (text.splitOnP (isEnd ∘ relabel)).map (List.map relabel) := by
  induction text with
  | nil => simp
  | cons symbol text ih =>
      rw [List.map_cons, List.splitOnP_cons_eq_if_modifyHead,
        List.splitOnP_cons_eq_if_modifyHead, ih]
      cases ends : isEnd (relabel symbol) with
      | true => simp [ends]
      | false =>
          cases text.splitOnP (isEnd ∘ relabel) <;> simp [ends]

theorem closed_map (relabel : α → β) {isEnd : β → Bool} {text : List α} :
    Closed isEnd (text.map relabel) ↔ Closed (isEnd ∘ relabel) text := by
  simp [Closed, List.getLast?_map]

/-- Line extraction commutes with a relabelling that keeps terminators. -/
theorem lines_map (relabel : α → β) (isEnd : β → Bool) (text : List α) :
    lines isEnd (text.map relabel) =
      (lines (isEnd ∘ relabel) text).map (List.map relabel) := by
  rw [lines, lines, terminated, terminated, splitOnP_map, ← List.map_dropLast,
    List.filter_map]
  congr 2
  funext segment
  simp

/-! ## Lines of bytes -/

/-- The byte `'\n'`. -/
def newline : UInt8 :=
  10

/-- Test a byte for the line terminator. -/
def isNewline (byte : UInt8) : Bool :=
  byte == newline

end Tailpost.Text
