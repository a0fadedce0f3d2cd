import Tailpost.Text.Lines

/-!
# Block mappings of plain scalars

The part of YAML in which every line gives a key and, behind a colon and a space,
a scalar without quotes, and perhaps a comment.  A scalar can be written without
quotes when it does not start like another construct, has no blank at either end,
and holds no comment mark, no further key, no line break and no control
character.  Between such lines there may be others that YAML takes one by one: blank
lines, comments, lines in which the scalar holds a further key, and scalars without a
key.  The last two are errors.

`read` reads such a mapping.  It is a reference for what YAML says about these
lines and not a parser of YAML.
-/

namespace Tailpost.Yaml

open Tailpost.Text

/-! ## Characters -/

/-- A blank or a tab. -/
def isBlank (c : Char) : Bool :=
  c == ' ' || c == '\t'

/-- The characters a line may hold. -/
def isPrintable (c : Char) : Bool :=
  c == '\t' || (' '.toNat ≤ c.toNat && c.toNat ≤ '~'.toNat) ||
    (0xA0 ≤ c.toNat && c.toNat != 0x2028 && c.toNat != 0x2029 && c.toNat != 0xFEFF &&
      c.toNat != 0xFFFE && c.toNat != 0xFFFF)

/-- The characters that start something else than a plain scalar. -/
def isIndicator (c : Char) : Bool :=
  "-?:,[]\x7b\x7d#&*!|>'\"%@`".toList.contains c

/-- The end of a line. -/
def isBreak (c : Char) : Bool :=
  c == '\n'

theorem isBreak_of_isPrintable {c : Char} (printable : isPrintable c = true) :
    isBreak c = false := by
  by_contra broken
  have isNewline : c = '\n' := by simpa [isBreak] using broken
  subst isNewline
  exact absurd printable (by decide)

/-! ## Plain scalars -/

/-- Three of the indicators may start a scalar when more of it follows at once. -/
def startsPlain : List Char → Bool
  | [] => false
  | c :: rest =>
      if c == '-' || c == '?' || c == ':' then
        rest.head?.any fun next => !isBlank next
      else
        !isIndicator c && !isBlank c

/-- A blank and a number sign start a comment. -/
def hasComment : List Char → Bool
  | [] => false
  | [_] => false
  | c :: d :: rest => (isBlank c && d == '#') || hasComment (d :: rest)

/-- A colon in front of a blank, or at the end, ends a key. -/
def hasKey : List Char → Bool
  | [] => false
  | [c] => c == ':'
  | c :: d :: rest => (c == ':' && isBlank d) || hasKey (d :: rest)

/-- The text starts and ends like a scalar without quotes and is no more than one line. -/
structure Scalar (text : List Char) : Prop where
  starts : startsPlain text = true
  ends : text.getLast?.any (!isBlank ·) = true
  printable : text.all isPrintable = true
  noComment : hasComment text = false

/-- The text can be written as it is. -/
structure Plain (text : List Char) : Prop extends Scalar text where
  noKey : hasKey text = false

instance (text : List Char) : Decidable (Plain text) :=
  decidable_of_iff
    (startsPlain text = true ∧ text.getLast?.any (!isBlank ·) = true ∧
      text.all isPrintable = true ∧ hasComment text = false ∧ hasKey text = false)
    ⟨fun ⟨starts, ends, printable, noComment, noKey⟩ =>
      ⟨⟨starts, ends, printable, noComment⟩, noKey⟩,
      fun plain => ⟨plain.starts, plain.ends, plain.printable, plain.noComment, plain.noKey⟩⟩

theorem printable_of_isAlphanum {c : Char} (alphanumeric : c.isAlphanum = true) :
    isPrintable c = true := by
  have range : ' '.toNat ≤ c.toNat ∧ c.toNat ≤ '~'.toNat := by
    delta Char.isAlphanum Char.isAlpha Char.isUpper Char.isLower Char.isDigit at alphanumeric
    simp only [Bool.or_eq_true, Bool.and_eq_true, decide_eq_true_eq, ge_iff_le,
      UInt32.le_iff_toNat_le] at alphanumeric
    simp only [Char.toNat, UInt32.reduceToNat, Char.reduceVal] at *
    omega
  simp only [isPrintable, range, decide_true, Bool.and_self, Bool.or_true, Bool.true_or]

theorem isIndicator_of_isAlphanum {c : Char} (alphanumeric : c.isAlphanum = true) :
    isIndicator c = false := by
  by_contra indicator
  rw [Bool.not_eq_false, isIndicator, List.contains_iff_mem] at indicator
  have others : "-?:,[]\x7b\x7d#&*!|>'\"%@`".toList.all (!·.isAlphanum) = true := by decide
  have other := List.all_eq_true.mp others c indicator
  rw [alphanumeric] at other
  contradiction

theorem isBlank_of_isAlphanum {c : Char} (alphanumeric : c.isAlphanum = true) :
    isBlank c = false := by
  by_contra blank
  rw [Bool.not_eq_false, isBlank, Bool.or_eq_true, beq_iff_eq, beq_iff_eq] at blank
  rcases blank with rfl | rfl <;> exact absurd alphanumeric (by decide)

theorem hasComment_eq_false {text : List Char} (noBlank : ∀ c ∈ text, isBlank c = false) :
    hasComment text = false := by
  induction text with
  | nil => rfl
  | cons c rest ih =>
      cases rest with
      | nil => rfl
      | cons d rest =>
          rw [hasComment, noBlank c List.mem_cons_self,
            ih fun other member => noBlank other (List.mem_cons_of_mem c member)]
          rfl

theorem hasKey_eq_false {text : List Char} (noColon : ∀ c ∈ text, c ≠ ':') :
    hasKey text = false := by
  induction text with
  | nil => rfl
  | cons c rest ih =>
      have first : (c == ':') = false := beq_eq_false_iff_ne.mpr (noColon c List.mem_cons_self)
      cases rest with
      | nil => exact first
      | cons d rest =>
          rw [hasKey, first, ih fun other member => noColon other (List.mem_cons_of_mem c member)]
          rfl

/-- Letters and digits need no quotes. -/
theorem plain_of_isAlphanum {text : List Char} (given : text ≠ [])
    (alphanumeric : ∀ c ∈ text, c.isAlphanum = true) : Plain text where
  starts := by
    cases text with
    | nil => contradiction
    | cons c rest =>
        have first := alphanumeric c List.mem_cons_self
        have notIndicator := isIndicator_of_isAlphanum first
        have notDash : (c == '-' || c == '?' || c == ':') = false := by
          by_contra dash
          rw [Bool.not_eq_false, Bool.or_eq_true, Bool.or_eq_true, beq_iff_eq, beq_iff_eq,
            beq_iff_eq] at dash
          rcases dash with (rfl | rfl) | rfl <;> exact absurd first (by decide)
        rw [startsPlain, notDash, notIndicator, isBlank_of_isAlphanum first]
        rfl
  ends := by
    rw [List.getLast?_eq_some_getLast given]
    simp [isBlank_of_isAlphanum (alphanumeric _ (List.getLast_mem given))]
  printable := List.all_eq_true.mpr fun c member => printable_of_isAlphanum (alphanumeric c member)
  noComment := hasComment_eq_false fun c member => isBlank_of_isAlphanum (alphanumeric c member)
  noKey := by
    apply hasKey_eq_false
    rintro c member rfl
    exact absurd (alphanumeric ':' member) (by decide)

/-- The scalars that stand for no value. -/
def isNull (text : List Char) : Bool :=
  [[], "~".toList, "null".toList, "Null".toList, "NULL".toList].contains text

/-! ## Lines -/

/-- A key, its value, and perhaps a comment. -/
structure Line where
  key : List Char
  value : List Char
  comment : Option (List Char)

/-- A comment with the mark in front of it. -/
def note : Option (List Char) → List Char
  | none => []
  | some text => ' ' :: '#' :: text

/-- The text of a line in front of its newline. -/
def Line.body (line : Line) : List Char :=
  line.key ++ ':' :: ' ' :: (line.value ++ note line.comment)

/-- Letters and underscores make up the key, and a value that is given is a scalar. -/
structure Line.Proper (line : Line) : Prop where
  keyed : line.key ≠ []
  key : ∀ c ∈ line.key, (c.isAlpha || c == '_') = true
  value : line.value = [] ∨ Scalar line.value
  comment : ∀ text, line.comment = some text → text.all isPrintable = true

/-- The value has no key of its own, so that it is a plain scalar if it is given. -/
structure Line.WellFormed (line : Line) : Prop extends line.Proper where
  noKey : hasKey line.value = false

theorem Line.WellFormed.of_plain {line : Line} (keyed : line.key ≠ [])
    (letters : ∀ c ∈ line.key, (c.isAlpha || c == '_') = true)
    (plain : line.value = [] ∨ Plain line.value)
    (printable : ∀ text, line.comment = some text → text.all isPrintable = true) :
    line.WellFormed where
  keyed := keyed
  key := letters
  value := plain.imp_right Plain.toScalar
  comment := printable
  noKey := by
    rcases plain with empty | plain
    · rw [empty]
      rfl
    · exact plain.noKey

/-! ## Rows -/

/-- What separates documents. -/
def isMarker (text : List Char) : Bool :=
  "---".toList.isPrefixOf text || "...".toList.isPrefixOf text

/-- A row that is read by itself: an entry, a scalar without a key, or at most a
comment. -/
inductive Row : List Char → Prop
  | entry {line : Line} (proper : line.Proper) : Row line.body
  | keyless {text : List Char} (plain : Plain text) (unmarked : isMarker text = false) : Row text
  | blank : Row []
  | comment {text : List Char} (printable : text.all isPrintable = true) : Row ('#' :: text)

/-- The rows of a file that is read row by row.  The first one is an entry, so that the
file is a mapping. -/
structure Rowwise (rows : List (List Char)) : Prop where
  starts : ∃ line : Line, line.Proper ∧ rows.head? = some line.body
  row : ∀ row ∈ rows, Row row

/-- The text of a file with these rows. -/
def render (rows : List (List Char)) : List Char :=
  rows.flatMap (· ++ ['\n'])

/-! ## Reading -/

/-- Cut a text behind the first colon with a space. -/
def splitKey : List Char → Option (List Char × List Char)
  | ':' :: ' ' :: rest => some ([], rest)
  | c :: rest => (splitKey rest).map fun (key, value) => (c :: key, value)
  | [] => none

/-- A text up to its first comment. -/
def stripComment : List Char → List Char
  | [] => []
  | [c] => [c]
  | c :: d :: rest => if isBlank c && d == '#' then [] else c :: stripComment (d :: rest)

/-- The key and value of a line, without its comment.  The value must not have a key of
its own. -/
def readLine (text : List Char) : Option (List Char × List Char) :=
  match splitKey text with
  | none => none
  | some (key, value) =>
      if hasKey (stripComment value) then none else some (key, stripComment value)

/-- A row that holds at most a comment. -/
def isRemark (row : List Char) : Bool :=
  row.head?.all (· == '#')

/-- The entries of a document whose rows give an entry each, remarks apart. -/
def read (text : List Char) : Option (List (List Char × List Char)) :=
  ((terminated isBreak text).filter (!isRemark ·)).mapM readLine

/-- A key holds no colon. -/
theorem ne_colon_of_letters {key : List Char}
    (letters : ∀ c ∈ key, (c.isAlpha || c == '_') = true) : ∀ c ∈ key, c ≠ ':' := by
  rintro c member rfl
  exact absurd (letters ':' member) (by decide)

theorem splitKey_append {key : List Char} (rest : List Char) (noColon : ∀ c ∈ key, c ≠ ':') :
    splitKey (key ++ ':' :: ' ' :: rest) = some (key, rest) := by
  induction key with
  | nil => rfl
  | cons c key ih =>
      have different : c ≠ ':' := noColon c List.mem_cons_self
      have later := ih fun d member => noColon d (List.mem_cons_of_mem c member)
      rw [List.cons_append, splitKey, later]
      · rfl
      · intro _ colon
        exact absurd colon different

/-- Stripping stops at the first comment mark. -/
theorem stripComment_append {value : List Char} (text : List Char)
    (noComment : hasComment value = false) :
    stripComment (value ++ ' ' :: '#' :: text) = value := by
  induction value with
  | nil => rfl
  | cons c rest ih =>
      cases rest with
      | nil => simp [stripComment, isBlank]
      | cons d rest =>
          rw [hasComment, Bool.or_eq_false_iff] at noComment
          rw [List.cons_append, List.cons_append, stripComment, noComment.1, ← List.cons_append,
            ih noComment.2]
          rfl

theorem stripComment_eq_self {value : List Char} (noComment : hasComment value = false) :
    stripComment value = value := by
  induction value with
  | nil => rfl
  | cons c rest ih =>
      cases rest with
      | nil => rfl
      | cons d rest =>
          rw [hasComment, Bool.or_eq_false_iff] at noComment
          rw [stripComment, noComment.1, ih noComment.2]
          rfl

/-- The value is taken from the text. -/
theorem subset_of_splitKey {text key value : List Char}
    (split : splitKey text = some (key, value)) : value ⊆ text := by
  fun_induction splitKey text generalizing key with
  | case1 rest =>
      cases split
      exact List.Subset.trans (List.subset_cons_self _ _) (List.subset_cons_self _ _)
  | case2 c rest _ ih =>
      rcases Option.map_eq_some_iff.mp split with ⟨⟨before, behind⟩, found, same⟩
      cases same
      exact List.Subset.trans (ih found) (List.subset_cons_self c rest)
  | case3 => contradiction

theorem stripComment_subset (text : List Char) : stripComment text ⊆ text := by
  fun_induction stripComment text with
  | case1 => exact List.Subset.refl _
  | case2 c => exact List.Subset.refl _
  | case3 c d rest mark => exact List.nil_subset _
  | case4 c d rest noMark ih => exact List.cons_subset_cons c ih

theorem hasKey_append (front rest : List Char) :
    hasKey (front ++ ':' :: ' ' :: rest) = true := by
  induction front with
  | nil => simp [hasKey, isBlank]
  | cons c front ih =>
      cases later : front ++ ':' :: ' ' :: rest with
      | nil => simp at later
      | cons d behind =>
          rw [later] at ih
          rw [List.cons_append, later, hasKey, ih, Bool.or_true]

theorem hasComment_append (front rest : List Char) :
    hasComment (front ++ ' ' :: '#' :: rest) = true := by
  induction front with
  | nil => simp [hasComment, isBlank]
  | cons c front ih =>
      cases later : front ++ ' ' :: '#' :: rest with
      | nil => simp at later
      | cons d behind =>
          rw [later] at ih
          rw [List.cons_append, later, hasComment, ih, Bool.or_true]

/-- The values that are read come from the rows, each of which gives one. -/
theorem exists_of_readLines {rows : List (List Char)} {pairs : List (List Char × List Char)}
    (taken : rows.mapM readLine = some pairs) :
    (∀ row ∈ rows, ∃ pair, readLine row = some pair) ∧
      ∀ pair ∈ pairs, ∃ row ∈ rows, readLine row = some pair := by
  induction rows generalizing pairs with
  | nil =>
      cases taken
      exact ⟨nofun, nofun⟩
  | cons row rows ih =>
      rw [List.mapM_cons] at taken
      rcases Option.bind_eq_some_iff.mp taken with ⟨first, found, rest⟩
      rcases Option.bind_eq_some_iff.mp rest with ⟨others, later, same⟩
      cases same
      rcases ih later with ⟨given, sources⟩
      constructor
      · intro other member
        rcases List.mem_cons.mp member with rfl | member
        · exact ⟨first, found⟩
        · exact given other member
      · intro pair member
        rcases List.mem_cons.mp member with rfl | member
        · exact ⟨row, List.mem_cons_self, found⟩
        · rcases sources pair member with ⟨source, inside, found⟩
          exact ⟨source, List.mem_cons_of_mem row inside, found⟩

/-- The value of a row consists of characters of the row. -/
theorem subset_of_readLine {row key value : List Char}
    (found : readLine row = some (key, value)) : value ⊆ row := by
  unfold readLine at found
  split at found
  next => contradiction
  next before behind split =>
    split at found
    next => contradiction
    next =>
      cases found
      exact List.Subset.trans (stripComment_subset behind) (subset_of_splitKey split)

namespace Line.Proper

variable {line : Line}

theorem splitKey_body (proper : line.Proper) :
    splitKey line.body = some (line.key, line.value ++ note line.comment) :=
  splitKey_append _ (ne_colon_of_letters proper.key)

/-- A value with a key of its own cannot be read. -/
theorem readLine_body (proper : line.Proper) :
    readLine line.body = if hasKey line.value then none else some (line.key, line.value) := by
  have noComment : hasComment line.value = false := by
    rcases proper.value with empty | scalar
    · rw [empty]
      rfl
    · exact scalar.noComment
  have stripped : stripComment (line.value ++ note line.comment) = line.value := by
    cases line.comment with
    | none => rw [note, List.append_nil, stripComment_eq_self noComment]
    | some text => exact stripComment_append text noComment
  rw [readLine, proper.splitKey_body]
  simp only [stripped]

theorem isBreak_body (proper : line.Proper) : ∀ c ∈ line.body, isBreak c = false := by
  intro c member
  simp only [body, List.mem_append, List.mem_cons] at member
  rcases member with inKey | rfl | rfl | inValue | inNote
  · by_contra broken
    have isNewline : c = '\n' := by simpa [isBreak] using broken
    exact absurd (proper.key c inKey) (by rw [isNewline]; decide)
  · rfl
  · rfl
  · rcases proper.value with empty | scalar
    · rw [empty] at inValue
      contradiction
    · exact isBreak_of_isPrintable (List.all_eq_true.mp scalar.printable c inValue)
  · cases comment : line.comment with
    | none => simp [note, comment] at inNote
    | some text =>
        simp only [note, comment, List.mem_cons] at inNote
        rcases inNote with rfl | rfl | inText
        · rfl
        · rfl
        · have printable := proper.comment text comment
          exact isBreak_of_isPrintable (List.all_eq_true.mp printable c inText)

theorem isRemark_body (proper : line.Proper) : isRemark line.body = false := by
  cases letters : line.key with
  | nil => exact absurd letters proper.keyed
  | cons c rest =>
      have letter := proper.key c (by rw [letters]; exact List.mem_cons_self)
      have noMark : (c == '#') = false := by
        rw [beq_eq_false_iff_ne]
        rintro rfl
        exact absurd letter (by decide)
      simp [isRemark, body, letters, noMark]

end Line.Proper

/-! ## Reading rows -/

theorem Row.isBreak_eq_false {row : List Char} (given : Row row) :
    ∀ c ∈ row, isBreak c = false := by
  cases given with
  | entry proper => exact proper.isBreak_body
  | keyless plain _ =>
      exact fun c member =>
        isBreak_of_isPrintable (List.all_eq_true.mp plain.printable c member)
  | blank => exact nofun
  | comment printable =>
      intro c member
      rcases List.mem_cons.mp member with rfl | member
      · rfl
      · exact isBreak_of_isPrintable (List.all_eq_true.mp printable c member)

theorem Rowwise.isBreak_eq_false {rows : List (List Char)} (rowwise : Rowwise rows) :
    ∀ row ∈ rows, ∀ c ∈ row, isBreak c = false :=
  fun row member => (rowwise.row row member).isBreak_eq_false

/-- A row that begins with a key is an entry with this key. -/
theorem Row.exists_entry {key rest : List Char} (given : Row (key ++ ':' :: ' ' :: rest))
    (keyed : key ≠ []) (letters : ∀ c ∈ key, (c.isAlpha || c == '_') = true) :
    ∃ line : Line, line.Proper ∧ line.key = key ∧ line.value ++ note line.comment = rest := by
  have split := splitKey_append rest (ne_colon_of_letters letters)
  have second := hasKey_append key rest
  generalize row : key ++ ':' :: ' ' :: rest = text at given split second
  cases given with
  | entry proper =>
      rename_i line
      rw [proper.splitKey_body] at split
      cases split
      exact ⟨line, proper, rfl, rfl⟩
  | keyless plain _ =>
      rw [plain.noKey] at second
      contradiction
  | blank => simp at row
  | comment _ =>
      cases key with
      | nil => contradiction
      | cons c key =>
          cases row
          exact absurd (letters '#' List.mem_cons_self) (by decide)

theorem terminated_render {rows : List (List Char)}
    (whole : ∀ row ∈ rows, ∀ c ∈ row, isBreak c = false) :
    terminated isBreak (render rows) = rows := by
  induction rows with
  | nil => rfl
  | cons row rows ih =>
      have later := ih fun other member => whole other (List.mem_cons_of_mem row member)
      have first := whole row List.mem_cons_self
      rw [render, List.flatMap_cons, List.append_assoc, List.singleton_append,
        terminated_append_cons _ _ rfl, List.splitOnP_eq_singleton first]
      exact congrArg (row :: ·) later

theorem render_append (rows others : List (List Char)) :
    render (rows ++ others) = render rows ++ render others :=
  List.flatMap_append

/-- A text with a newline behind it, row by row. -/
theorem render_splitOn (text : List Char) : render (text.splitOn '\n') = text ++ ['\n'] := by
  have joined : ∀ {rows}, rows ≠ [] → render rows = ['\n'].intercalate rows ++ ['\n'] := by
    intro rows given
    induction rows with
    | nil => contradiction
    | cons row rows ih =>
        cases rows with
        | nil => simp [render]
        | cons next rows =>
            rw [List.intercalate_cons_cons, List.append_assoc, ← ih (List.cons_ne_nil next rows),
              List.append_assoc, List.singleton_append]
            simp [render]
  have given : text.splitOn '\n' ≠ [] := List.splitOnP_ne_nil _ text
  rw [joined given, List.intercalate_splitOn]

/-- A text that begins with characters of one row has them in its first row. -/
theorem head?_splitOn_append {front : List Char} (text : List Char) (oneRow : '\n' ∉ front) :
    ∃ rest, ((front ++ text).splitOn '\n').head? = some (front ++ rest) := by
  induction front with
  | nil =>
      cases rows : text.splitOn '\n' with
      | nil => exact absurd rows (List.splitOnP_ne_nil _ _)
      | cons row rows => exact ⟨row, by rw [List.nil_append, rows]; rfl⟩
  | cons c front ih =>
      rcases ih fun later => oneRow (List.mem_cons_of_mem c later) with ⟨rest, first⟩
      have notBreak : (c == '\n') = false := by
        rw [beq_eq_false_iff_ne]
        rintro rfl
        exact oneRow List.mem_cons_self
      refine ⟨rest, ?_⟩
      rw [List.splitOn] at first ⊢
      rw [List.cons_append, List.splitOnP_cons_eq_if_modifyHead, notBreak]
      simp [first]

/-- Reading gives back the keys and values of well-formed lines. -/
theorem read_render {lines : List Line} (wellFormed : ∀ line ∈ lines, line.WellFormed) :
    read (render (lines.map Line.body)) = some (lines.map fun line => (line.key, line.value)) := by
  have whole : ∀ row ∈ lines.map Line.body, ∀ c ∈ row, isBreak c = false := by
    intro row member
    rcases List.mem_map.mp member with ⟨line, given, rfl⟩
    exact (wellFormed line given).isBreak_body
  have entries : (lines.map Line.body).filter (!isRemark ·) = lines.map Line.body := by
    rw [List.filter_eq_self]
    intro row member
    rcases List.mem_map.mp member with ⟨line, given, rfl⟩
    rw [(wellFormed line given).isRemark_body]
    rfl
  rw [read, terminated_render whole, entries]
  clear whole entries
  induction lines with
  | nil => rfl
  | cons line lines ih =>
      have first := wellFormed line List.mem_cons_self
      have later := ih fun other member => wellFormed other (List.mem_cons_of_mem line member)
      rw [List.map_cons, List.mapM_cons, first.readLine_body, first.noKey, later]
      rfl

/-- A file in which a value has a key of its own cannot be read. -/
theorem read_eq_none {rows : List (List Char)} (rowwise : Rowwise rows) {line : Line}
    (proper : line.Proper) (nested : hasKey line.value = true) (member : line.body ∈ rows) :
    read (render rows) = none := by
  have unread : readLine line.body = none := by
    rw [proper.readLine_body, if_pos nested]
  have kept : line.body ∈ rows.filter (!isRemark ·) := by
    rw [List.mem_filter, proper.isRemark_body]
    exact ⟨member, rfl⟩
  rw [read, terminated_render rowwise.isBreak_eq_false]
  cases result : (rows.filter (!isRemark ·)).mapM readLine with
  | none => rfl
  | some pairs =>
      rcases (exists_of_readLines result).1 line.body kept with ⟨pair, found⟩
      rw [unread] at found
      contradiction

/-- The values that are read end with their rows. -/
theorem isBreak_of_read {rows : List (List Char)} (rowwise : Rowwise rows)
    {pairs : List (List Char × List Char)} (taken : read (render rows) = some pairs) :
    ∀ pair ∈ pairs, ∀ c ∈ pair.2, isBreak c = false := by
  rw [read, terminated_render rowwise.isBreak_eq_false] at taken
  intro pair member c inside
  rcases (exists_of_readLines taken).2 pair member with ⟨row, kept, found⟩
  exact rowwise.isBreak_eq_false row (List.mem_of_mem_filter kept) c
    (subset_of_readLine found inside)

end Tailpost.Yaml
