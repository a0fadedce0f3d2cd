import Mathlib.Data.List.Infix

/-!
# Slices of shared arrays

A slice is a view of the front of an array.  Several slices may view the same
array, and writing through one of them shows in the others.  Appending writes in
place while the array has room behind the slice, and moves to a fresh array
otherwise; cutting a slice back keeps its array, so a later append overwrites
what was there.

The lemmas say what each operation does to the contents of its own slice, and
that it leaves slices of other arrays alone.
-/

namespace Tailpost.Memory

universe u v

variable {α : Type u}

/-- Arrays by address. -/
structure Heap (α : Type u) where
  arrays : List (List α)

/-- The first `length` entries of the array at an address. -/
structure Slice where
  address : Nat
  length : Nat
  deriving DecidableEq

namespace Heap

/-- The array at an address. -/
def array (heap : Heap α) (address : Nat) : List α :=
  heap.arrays.getD address []

/-- What a slice shows. -/
def contents (heap : Heap α) (slice : Slice) : List α :=
  (heap.array slice.address).take slice.length

/-- The slice lies within an allocated array. -/
def Valid (heap : Heap α) (slice : Slice) : Prop :=
  slice.address < heap.arrays.length ∧
    slice.length ≤ (heap.array slice.address).length

/-- Put a new array at a fresh address. -/
def allocate (heap : Heap α) (array : List α) : Heap α :=
  ⟨heap.arrays ++ [array]⟩

/-- Replace the array at an address. -/
def write (heap : Heap α) (address : Nat) (array : List α) : Heap α :=
  ⟨heap.arrays.set address array⟩

/-- `make([]T, length, capacity)`. -/
def make [Inhabited α] (heap : Heap α) (length capacity : Nat) : Heap α × Slice :=
  (heap.allocate (List.replicate capacity default), ⟨heap.arrays.length, length⟩)

/-- `append(slice, entry)`. -/
def append (heap : Heap α) (slice : Slice) (entry : α) : Heap α × Slice :=
  if slice.length < (heap.array slice.address).length then
    (heap.write slice.address ((heap.array slice.address).set slice.length entry),
      ⟨slice.address, slice.length + 1⟩)
  else
    (heap.allocate (heap.contents slice ++ [entry]),
      ⟨heap.arrays.length, slice.length + 1⟩)

/-- `copy(target, source)`. -/
def copy (heap : Heap α) (target source : Slice) : Heap α :=
  let entries := (heap.contents source).take target.length
  heap.write target.address
    (entries ++ (heap.array target.address).drop entries.length)

/-! ## Allocation and writing -/

theorem array_allocate_of_lt {heap : Heap α} {address : Nat}
    (allocated : address < heap.arrays.length) (array : List α) :
    (heap.allocate array).array address = heap.array address := by
  simp [Heap.array, allocate, List.getElem?_append_left allocated]

@[simp]
theorem array_allocate_length (heap : Heap α) (array : List α) :
    (heap.allocate array).array heap.arrays.length = array := by
  simp [Heap.array, allocate]

theorem array_write_self {heap : Heap α} {address : Nat}
    (allocated : address < heap.arrays.length) (array : List α) :
    (heap.write address array).array address = array := by
  simp [Heap.array, write, allocated]

theorem array_write_of_ne {heap : Heap α} {address other : Nat} (ne : other ≠ address)
    (array : List α) : (heap.write address array).array other = heap.array other := by
  simp [Heap.array, write, List.getElem?_set_ne ne.symm]

/-- Allocation leaves the slices of existing arrays alone. -/
theorem contents_allocate {heap : Heap α} {slice : Slice} (valid : heap.Valid slice)
    (array : List α) : (heap.allocate array).contents slice = heap.contents slice := by
  rw [contents, contents, array_allocate_of_lt valid.1]

theorem valid_allocate {heap : Heap α} {slice : Slice} (valid : heap.Valid slice)
    (array : List α) : (heap.allocate array).Valid slice := by
  constructor
  · exact valid.1.trans_le (by simp [allocate])
  · rw [array_allocate_of_lt valid.1]
    exact valid.2

theorem contents_write_of_ne {heap : Heap α} {address : Nat} {slice : Slice}
    (ne : slice.address ≠ address) (array : List α) :
    (heap.write address array).contents slice = heap.contents slice := by
  rw [contents, contents, array_write_of_ne ne]

theorem valid_write_of_ne {heap : Heap α} {address : Nat} {slice : Slice}
    (valid : heap.Valid slice) (ne : slice.address ≠ address) (array : List α) :
    (heap.write address array).Valid slice := by
  constructor
  · simpa [write] using valid.1
  · rw [array_write_of_ne ne]
    exact valid.2

/-- Cutting a slice back keeps it valid. -/
theorem Valid.reslice {heap : Heap α} {slice : Slice} (valid : heap.Valid slice)
    {length : Nat} (shorter : length ≤ slice.length) :
    heap.Valid ⟨slice.address, length⟩ :=
  ⟨valid.1, shorter.trans valid.2⟩

theorem length_contents {heap : Heap α} {slice : Slice} (valid : heap.Valid slice) :
    (heap.contents slice).length = slice.length := by
  rw [contents, List.length_take, Nat.min_eq_left valid.2]

/-! ## Appending -/

/-- Appending extends the contents of the slice. -/
theorem contents_append {heap : Heap α} {slice : Slice} (valid : heap.Valid slice)
    (entry : α) :
    (heap.append slice entry).1.contents (heap.append slice entry).2 =
      heap.contents slice ++ [entry] := by
  unfold append
  split
  next room =>
    rw [contents, array_write_self valid.1, contents,
      List.take_add_one, List.take_set_of_le (Nat.le_refl _)]
    simp [room]
  next =>
    have length := length_contents valid
    rw [contents, array_allocate_length, List.take_of_length_le]
    simp [length]

theorem valid_append {heap : Heap α} {slice : Slice} (valid : heap.Valid slice)
    (entry : α) : (heap.append slice entry).1.Valid (heap.append slice entry).2 := by
  unfold append
  split
  next room =>
    constructor
    · simpa [write] using valid.1
    · rw [array_write_self valid.1, List.length_set]
      exact room
  next =>
    constructor
    · simp [allocate]
    · rw [array_allocate_length, List.length_append, length_contents valid]
      exact Nat.le_refl _

/-- Slices of other arrays do not notice that a slice is appended to. -/
theorem append_of_ne {heap : Heap α} {slice other : Slice} (valid : heap.Valid other)
    (ne : other.address ≠ slice.address) (entry : α) :
    (heap.append slice entry).1.Valid other ∧
      (heap.append slice entry).1.contents other = heap.contents other ∧
      other.address ≠ (heap.append slice entry).2.address := by
  unfold append
  split
  next => exact ⟨valid_write_of_ne valid ne _, contents_write_of_ne ne _, ne⟩
  next => exact ⟨valid_allocate valid _, contents_allocate valid _, valid.1.ne⟩

/-! ## Cloning: `make` followed by `copy` -/

section Clone

variable [Inhabited α]

/-- A fresh slice of its own array with the same contents. -/
def clone (heap : Heap α) (source : Slice) : Heap α × Slice :=
  let made := heap.make source.length source.length
  (made.1.copy made.2 source, made.2)

@[simp]
theorem address_clone (heap : Heap α) (source : Slice) :
    (heap.clone source).2.address = heap.arrays.length :=
  rfl

theorem array_clone {heap : Heap α} {source : Slice} (valid : heap.Valid source) :
    (heap.clone source).1.array heap.arrays.length = heap.contents source := by
  have length := length_contents valid
  have allocated : heap.arrays.length <
      (heap.allocate (List.replicate source.length (default : α))).arrays.length := by
    simp [allocate]
  simp only [clone, make, copy]
  rw [array_write_self allocated, contents_allocate valid, array_allocate_length,
    List.take_of_length_le length.le]
  simp [length]

theorem contents_clone {heap : Heap α} {source : Slice} (valid : heap.Valid source) :
    (heap.clone source).1.contents (heap.clone source).2 = heap.contents source := by
  rw [contents, address_clone, array_clone valid]
  exact List.take_of_length_le (length_contents valid).le

theorem valid_clone {heap : Heap α} {source : Slice} (valid : heap.Valid source) :
    (heap.clone source).1.Valid (heap.clone source).2 := by
  constructor
  · simp [clone, make, copy, write, allocate]
  · rw [address_clone, array_clone valid, length_contents valid]
    exact Nat.le_refl _

/-- Existing slices do not notice that a slice is cloned. -/
theorem clone_of_valid {heap : Heap α} {other : Slice} (valid : heap.Valid other)
    (source : Slice) :
    (heap.clone source).1.Valid other ∧
      (heap.clone source).1.contents other = heap.contents other := by
  have ne : other.address ≠ heap.arrays.length := valid.1.ne
  constructor
  · exact valid_write_of_ne (valid_allocate valid _) ne _
  · exact (contents_write_of_ne ne _).trans (contents_allocate valid _)

end Clone

/-! ## Other entries in the same places -/

section Map

variable {β : Type v} {f : α → β}

/-- The same arrays with other entries. -/
def map (f : α → β) (heap : Heap α) : Heap β :=
  ⟨heap.arrays.map (List.map f)⟩

theorem array_map (heap : Heap α) (address : Nat) :
    (heap.map f).array address = (heap.array address).map f := by
  simp only [array, map, List.getD_eq_getElem?_getD, List.getElem?_map]
  cases heap.arrays[address]? <;> rfl

theorem contents_map (heap : Heap α) (slice : Slice) :
    (heap.map f).contents slice = (heap.contents slice).map f := by
  rw [contents, array_map, contents, List.map_take]

theorem valid_map {heap : Heap α} {slice : Slice} :
    (heap.map f).Valid slice ↔ heap.Valid slice := by
  rw [Valid, Valid, array_map, List.length_map, map, List.length_map]

theorem allocate_map (heap : Heap α) (array : List α) :
    (heap.map f).allocate (array.map f) = (heap.allocate array).map f := by
  simp [map, allocate]

theorem write_map (heap : Heap α) (address : Nat) (array : List α) :
    (heap.map f).write address (array.map f) = (heap.write address array).map f := by
  simp [map, write, List.map_set]

/-- Where entries are appended does not depend on them. -/
theorem append_map (heap : Heap α) (slice : Slice) (entry : α) :
    (heap.map f).append slice (f entry) =
      ((heap.append slice entry).1.map f, (heap.append slice entry).2) := by
  simp only [append, array_map, contents_map, List.length_map]
  split
  · rw [← List.map_set, write_map]
  · rw [← List.map_singleton, ← List.map_append, allocate_map]
    simp [map]

variable [Inhabited α] [Inhabited β]

theorem clone_map (blank : f default = default) (heap : Heap α) (source : Slice) :
    (heap.map f).clone source = ((heap.clone source).1.map f, (heap.clone source).2) := by
  have made : (heap.map f).make source.length source.length =
      ((heap.make source.length source.length).1.map f,
        (heap.make source.length source.length).2) := by
    rw [make, make, ← allocate_map, List.map_replicate, blank]
    simp [map]
  simp only [clone, made, copy, array_map, contents_map, ← List.map_take, ← List.map_drop,
    ← List.map_append, write_map, List.length_map]

end Map

end Heap

end Tailpost.Memory
