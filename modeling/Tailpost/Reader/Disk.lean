import Mathlib.Logic.Function.Basic
import Tailpost.Text.Lines

/-!
# Files behind one path

The tailed path names at most one inode.  What an inode holds is a generation:
a byte sequence that is only ever appended to.  Renaming the file away leaves
its inode and generation alone, creating a file at the path takes a fresh inode
with a fresh generation, and truncating the file gives its inode a fresh empty
generation.  The bytes of a generation that was truncated stay recorded, so a
byte that a reader still buffers is identified by its generation and position.
-/

namespace Tailpost.Reader

open Tailpost.Text

/-- Files on disk, as far as one path is concerned.  Inodes below `inodes` and
generations below `generations` are in use. -/
structure Disk where
  /-- Bytes of each generation. -/
  contents : Nat → List UInt8
  /-- The generation an inode holds now. -/
  holds : Nat → Nat
  /-- The inode the path names, if it names one. -/
  path : Option Nat
  inodes : Nat
  generations : Nat
  path_lt : ∀ inode ∈ path, inode < inodes
  holds_lt : ∀ inode < inodes, holds inode < generations
  holds_inj : ∀ first < inodes, ∀ second < inodes, holds first = holds second →
    first = second

/-- What other processes do to the files. -/
inductive DiskEvent
  /-- Append bytes to an inode, through the path or a descriptor held open. -/
  | append (inode : Nat) (bytes : List UInt8)
  /-- Rename the file at the path to another name. -/
  | rename
  /-- Create an empty file at a path that names none. -/
  | create
  /-- Truncate the file at the path to zero bytes. -/
  | truncate
  deriving DecidableEq

/-- The path gets new content: a file is created there, or the one there is cut
to zero bytes. -/
def DiskEvent.Rotates : DiskEvent → Prop
  | .create | .truncate => True
  | _ => False

namespace Disk

/-- A disk whose path names one file with the given bytes. -/
def single (bytes : List UInt8) : Disk where
  contents _ := bytes
  holds _ := 0
  path := some 0
  inodes := 1
  generations := 1
  path_lt := by simp
  holds_lt := by simp
  holds_inj := by
    intro first firstUsed second secondUsed _
    omega

/-- `Stat().Size()` of an open file. -/
def size (disk : Disk) (inode : Nat) : Nat :=
  (disk.contents (disk.holds inode)).length

/-- The bytes of the file at the path. -/
def fileAtPath (disk : Disk) : Option (List UInt8) :=
  disk.path.map fun inode => disk.contents (disk.holds inode)

/-- Append bytes to the generation an inode holds. -/
def append (disk : Disk) (inode : Nat) (bytes : List UInt8) : Disk :=
  { disk with
    contents := Function.update disk.contents (disk.holds inode)
      (disk.contents (disk.holds inode) ++ bytes) }

/-- The path stops naming its file. -/
def rename (disk : Disk) : Disk :=
  { disk with
    path := none
    path_lt := by simp }

/-- A fresh inode with a fresh empty generation appears at the path. -/
def create (disk : Disk) : Disk where
  contents := Function.update disk.contents disk.generations []
  holds := Function.update disk.holds disk.inodes disk.generations
  path := some disk.inodes
  inodes := disk.inodes + 1
  generations := disk.generations + 1
  path_lt := by simp
  holds_lt := by
    intro inode used
    by_cases equal : inode = disk.inodes
    · subst equal
      simp
    · rw [Function.update_of_ne equal]
      have := disk.holds_lt inode (by omega)
      omega
  holds_inj := by
    intro first firstUsed second secondUsed same
    by_cases firstNew : first = disk.inodes <;> by_cases secondNew : second = disk.inodes
    · rw [firstNew, secondNew]
    · have := disk.holds_lt second (by omega)
      rw [firstNew, Function.update_self, Function.update_of_ne secondNew] at same
      omega
    · have := disk.holds_lt first (by omega)
      rw [secondNew, Function.update_self, Function.update_of_ne firstNew] at same
      omega
    · rw [Function.update_of_ne firstNew, Function.update_of_ne secondNew] at same
      exact disk.holds_inj first (by omega) second (by omega) same

/-- An inode gets a fresh empty generation. -/
def truncate (disk : Disk) (inode : Nat) : Disk where
  contents := Function.update disk.contents disk.generations []
  holds := Function.update disk.holds inode disk.generations
  path := disk.path
  inodes := disk.inodes
  generations := disk.generations + 1
  path_lt := disk.path_lt
  holds_lt := by
    intro other used
    by_cases equal : other = inode
    · subst equal
      simp
    · rw [Function.update_of_ne equal]
      have := disk.holds_lt other used
      omega
  holds_inj := by
    intro first firstUsed second secondUsed same
    have firstLt := disk.holds_lt first firstUsed
    have secondLt := disk.holds_lt second secondUsed
    by_cases firstCut : first = inode <;> by_cases secondCut : second = inode
    · rw [firstCut, secondCut]
    · rw [firstCut, Function.update_self, Function.update_of_ne secondCut] at same
      omega
    · rw [secondCut, Function.update_self, Function.update_of_ne firstCut] at same
      omega
    · rw [Function.update_of_ne firstCut, Function.update_of_ne secondCut] at same
      exact disk.holds_inj first firstUsed second secondUsed same

/-- One event of the environment, when it is possible. -/
def apply (disk : Disk) : DiskEvent → Option Disk
  | .append inode bytes =>
      if inode < disk.inodes then some (disk.append inode bytes) else none
  | .rename => if disk.path.isSome then some disk.rename else none
  | .create => if disk.path.isNone then some disk.create else none
  | .truncate => disk.path.map disk.truncate

/-- What an event can do. -/
theorem apply_cases {disk after : Disk} {event : DiskEvent}
    (applied : disk.apply event = some after) :
    (∃ inode bytes, event = .append inode bytes ∧ inode < disk.inodes ∧
        after = disk.append inode bytes) ∨
      (event = .rename ∧ after = disk.rename) ∨
      (event = .create ∧ disk.path = none ∧ after = disk.create) ∨
      (∃ inode, event = .truncate ∧ disk.path = some inode ∧
        after = disk.truncate inode) := by
  cases event with
  | append inode bytes =>
      obtain ⟨used, rfl⟩ : inode < disk.inodes ∧ disk.append inode bytes = after := by
        simpa [apply] using applied
      exact Or.inl ⟨inode, bytes, rfl, used, rfl⟩
  | rename =>
      obtain ⟨_, rfl⟩ : disk.path.isSome ∧ disk.rename = after := by
        simpa [apply] using applied
      exact Or.inr (Or.inl ⟨rfl, rfl⟩)
  | create =>
      obtain ⟨unnamed, rfl⟩ : disk.path = none ∧ disk.create = after := by
        simpa [apply] using applied
      exact Or.inr (Or.inr (Or.inl ⟨rfl, unnamed, rfl⟩))
  | truncate =>
      obtain ⟨inode, named, rfl⟩ := Option.map_eq_some_iff.mp applied
      exact Or.inr (Or.inr (Or.inr ⟨inode, rfl, named, rfl⟩))

/-- An inode keeps its generation unless its file is truncated. -/
theorem holds_apply {disk after : Disk} {event : DiskEvent} {inode : Nat}
    (used : inode < disk.inodes) (kept : event ≠ .truncate)
    (applied : disk.apply event = some after) : after.holds inode = disk.holds inode := by
  rcases apply_cases applied with
    ⟨_, _, rfl, _, rfl⟩ | ⟨rfl, rfl⟩ | ⟨rfl, _, rfl⟩ | ⟨_, rfl, _, rfl⟩
  · rfl
  · rfl
  · exact Function.update_of_ne used.ne _ _
  · contradiction

/-- Inodes and generations are never given out twice. -/
theorem counters_le_apply {disk after : Disk} {event : DiskEvent}
    (applied : disk.apply event = some after) :
    disk.inodes ≤ after.inodes ∧ disk.generations ≤ after.generations := by
  rcases apply_cases applied with
    ⟨_, _, rfl, _, rfl⟩ | ⟨rfl, rfl⟩ | ⟨rfl, _, rfl⟩ | ⟨_, rfl, _, rfl⟩
  · exact ⟨Nat.le_refl _, Nat.le_refl _⟩
  · exact ⟨Nat.le_refl _, Nat.le_refl _⟩
  · exact ⟨Nat.le_succ _, Nat.le_succ _⟩
  · exact ⟨Nat.le_refl _, Nat.le_succ _⟩

/-- Every event extends or keeps the bytes of a generation in use. -/
theorem contents_apply {disk after : Disk} {event : DiskEvent} {generation : Nat}
    (used : generation < disk.generations) (applied : disk.apply event = some after) :
    ∃ more, after.contents generation = disk.contents generation ++ more := by
  rcases apply_cases applied with
    ⟨inode, bytes, rfl, _, rfl⟩ | ⟨rfl, rfl⟩ | ⟨rfl, _, rfl⟩ | ⟨_, rfl, _, rfl⟩
  · by_cases written : generation = disk.holds inode
    · subst written
      exact ⟨bytes, by simp [append]⟩
    · exact ⟨[], by simp [append, Function.update_of_ne written]⟩
  · exact ⟨[], by simp [rename]⟩
  · exact ⟨[], by simp [create, Function.update_of_ne used.ne]⟩
  · exact ⟨[], by simp [truncate, Function.update_of_ne used.ne]⟩

/-- A rotation puts a fresh generation at the path. -/
theorem rotates_apply {disk after : Disk} {event : DiskEvent} (rotates : event.Rotates)
    (applied : disk.apply event = some after) :
    ∃ inode, after.path = some inode ∧ after.holds inode = disk.generations := by
  rcases apply_cases applied with
    ⟨_, _, rfl, _, rfl⟩ | ⟨rfl, rfl⟩ | ⟨rfl, _, rfl⟩ | ⟨inode, rfl, named, rfl⟩
  · contradiction
  · contradiction
  · exact ⟨disk.inodes, rfl, Function.update_self _ _ _⟩
  · exact ⟨inode, named, Function.update_self _ _ _⟩

end Disk

end Tailpost.Reader
