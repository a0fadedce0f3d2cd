import Tailpost.Text.Lines

/-!
# Slash-separated paths

A path is cut at its slashes.  Empty parts and single dots say nothing, and two
dots take back the part before them; what remains are the components of the
path.  An absolute path is determined by its components up to such noise.
-/

namespace Tailpost.Text

/-- The components of a path, as lists of characters. -/
abbrev Components :=
  List (List Char)

/-- Test a path for a leading slash. -/
def isAbs (path : String) : Bool :=
  path.toList.head? == some '/'

/-- Go on from the components so far with the next part of a path. -/
def descend (rooted : Bool) (done : Components) (part : List Char) : Components :=
  if part = [] ∨ part = ['.'] then
    done
  else if part = ['.', '.'] then
    -- an absolute path does not leave the root, a relative one may go up
    match done.getLast? with
    | none => if rooted then [] else [part]
    | some last => if last = ['.', '.'] then done ++ [part] else done.dropLast
  else
    done ++ [part]

/-- The components of a path. -/
def components (path : String) : Components :=
  (path.toList.splitOn '/').foldl (descend (isAbs path)) []

/-- The shortest text of a path, as `filepath.Clean` returns it. -/
def clean (path : String) : String :=
  let text := ['/'].intercalate (components path)
  if isAbs path then
    .ofList ('/' :: text)
  else if text = [] then
    "."
  else
    .ofList text

/-- Paths one below the other, as `filepath.Join` puts them together. -/
def join (paths : List String) : String :=
  match paths.filter (· ≠ "") with
  | [] => ""
  | given => clean (.intercalate "/" given)

/-- The path without its last component, as `filepath.Dir` returns it. -/
def dir (path : String) : String :=
  clean (.ofList (path.toList.reverse.dropWhile (· != '/')).reverse)

example : clean "/var//log/./app/../syslog" = "/var/log/syslog" := by decide

theorem ne_empty_of_isAbs {path : String} (absolute : isAbs path = true) : path ≠ "" := by
  rintro rfl
  contradiction

theorem isAbs_clean {path : String} (absolute : isAbs path = true) :
    isAbs (clean path) = true := by
  rw [clean, if_pos absolute]
  simp [isAbs]

theorem isAbs_append {path : String} (absolute : isAbs path = true) (rest : String) :
    isAbs (path ++ rest) = true := by
  rw [isAbs, beq_iff_eq] at absolute ⊢
  rw [String.toList_append, List.head?_append, absolute]
  rfl

/-- What is joined to an absolute path is absolute. -/
theorem isAbs_join {path : String} (absolute : isAbs path = true) (rest : List String) :
    isAbs (join (path :: rest)) = true := by
  have kept : (path :: rest).filter (· ≠ "") = path :: rest.filter (· ≠ "") := by
    simp [ne_empty_of_isAbs absolute]
  rw [join, kept]
  apply isAbs_clean
  cases rest.filter (· ≠ "") with
  | nil => simpa using absolute
  | cons next others =>
      rw [String.intercalate_cons_cons, String.append_assoc]
      exact isAbs_append absolute _

/-! ## The characters of a path -/

/-- Going on adds no other component than the part. -/
theorem of_mem_descend {rooted : Bool} {done : Components} {part component : List Char}
    (member : component ∈ descend rooted done part) : component ∈ done ∨ component = part := by
  unfold descend at member
  split at member
  · exact .inl member
  · split at member
    · split at member
      · split at member
        · contradiction
        · exact .inr (List.mem_singleton.mp member)
      · split at member
        · exact (List.mem_append.mp member).imp_right List.mem_singleton.mp
        · exact .inl (List.mem_of_mem_dropLast member)
    · exact (List.mem_append.mp member).imp_right List.mem_singleton.mp

theorem of_mem_foldl_descend {rooted : Bool} {parts done : Components} {component : List Char}
    (member : component ∈ parts.foldl (descend rooted) done) :
    component ∈ done ∨ component ∈ parts := by
  induction parts generalizing done with
  | nil => exact .inl member
  | cons part parts ih =>
      rcases ih member with reached | later
      · rcases of_mem_descend reached with kept | rfl
        · exact .inl kept
        · exact .inr List.mem_cons_self
      · exact .inr (List.mem_cons_of_mem part later)

theorem mem_of_mem_components {path : String} {component : List Char} {c : Char}
    (member : component ∈ components path) (inside : c ∈ component) : c ∈ path.toList := by
  rcases of_mem_foldl_descend member with none | part
  · contradiction
  · exact mem_of_mem_splitOnP part inside

theorem of_mem_intercalate {parts : List (List Char)} {c : Char}
    (member : c ∈ ['/'].intercalate parts) : c = '/' ∨ ∃ part ∈ parts, c ∈ part := by
  induction parts with
  | nil => contradiction
  | cons part parts ih =>
      cases parts with
      | nil =>
          rw [List.intercalate_singleton] at member
          exact .inr ⟨part, List.mem_cons_self, member⟩
      | cons next parts =>
          rw [List.intercalate_cons_cons, List.mem_append, List.mem_append,
            List.mem_singleton] at member
          rcases member with (inside | slash) | later
          · exact .inr ⟨part, List.mem_cons_self, inside⟩
          · exact .inl slash
          · rcases ih later with slash | ⟨other, given, inside⟩
            · exact .inl slash
            · exact .inr ⟨other, List.mem_cons_of_mem part given, inside⟩

/-- Cleaning brings in slashes and dots only. -/
theorem of_mem_clean {path : String} {c : Char} (member : c ∈ (clean path).toList) :
    c = '/' ∨ c = '.' ∨ c ∈ path.toList := by
  have inText : c ∈ ['/'].intercalate (components path) → c = '/' ∨ c = '.' ∨ c ∈ path.toList := by
    intro inside
    rcases of_mem_intercalate inside with slash | ⟨component, given, inside⟩
    · exact .inl slash
    · exact .inr (.inr (mem_of_mem_components given inside))
  rw [clean] at member
  split at member
  · rw [String.toList_ofList, List.mem_cons] at member
    exact member.elim .inl inText
  · split at member
    · exact .inr (.inl (List.mem_singleton.mp member))
    · rw [String.toList_ofList] at member
      exact inText member

/-- Joining brings in slashes and dots only. -/
theorem of_mem_join {paths : List String} {c : Char} (member : c ∈ (join paths).toList) :
    c = '/' ∨ c = '.' ∨ ∃ path ∈ paths, c ∈ path.toList := by
  rw [join] at member
  split at member
  · contradiction
  · next given =>
    rcases of_mem_clean member with slash | dot | inside
    · exact .inl slash
    · exact .inr (.inl dot)
    · rw [String.toList_intercalate] at inside
      rcases of_mem_intercalate inside with slash | ⟨part, member, inside⟩
      · exact .inl slash
      · rcases List.mem_map.mp member with ⟨path, kept, rfl⟩
        exact .inr (.inr ⟨path, List.mem_of_mem_filter kept, inside⟩)

end Tailpost.Text
