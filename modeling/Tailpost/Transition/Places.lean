import Mathlib.Logic.Function.Basic

/-!
# Places of processes

The control state of a system with many processes is a function that gives every process
its place.  A step moves one process, so it is an update at one argument.  The file says
when a place, or one of several places, is occupied by some process, when it is occupied
by one at most, and how an update changes this.
-/

namespace Tailpost.Transition

universe u v

variable {ι : Type u} {β : Type v}

/-- Some process is at one of the places. -/
def Occupied (places : β → Bool) (pcs : ι → β) : Prop :=
  ∃ process, places (pcs process) = true

/-- At most one process is at one of the places. -/
def AtMostOne (places : β → Bool) (pcs : ι → β) : Prop :=
  ∀ first second, places (pcs first) = true → places (pcs second) = true → first = second

/-- All processes are outside of the places. -/
theorem not_occupied_const {places : β → Bool} {pc : β} (outside : places pc = false) :
    ¬ Occupied places fun _ : ι => pc := by
  rintro ⟨_, there⟩
  rw [outside] at there
  contradiction

theorem AtMostOne.of_not_occupied {places : β → Bool} {pcs : ι → β}
    (vacant : ¬ Occupied places pcs) : AtMostOne places pcs := by
  intro first _ atFirst
  exact absurd ⟨first, atFirst⟩ vacant

/-- Where the only process is outside some of the places, these are vacant. -/
theorem AtMostOne.not_occupied {places part : β → Bool} {pcs : ι → β} {process : ι}
    (once : AtMostOne places pcs) (within : ∀ pc, part pc = true → places pc = true)
    (there : places (pcs process) = true) (outside : part (pcs process) = false) :
    ¬ Occupied part pcs := by
  rintro ⟨other, inside⟩
  have same := once other process (within _ inside) there
  subst same
  rw [outside] at inside
  contradiction

section Update

variable [DecidableEq ι] {places : β → Bool} {pcs : ι → β} {process : ι} {pc : β}

theorem places_update {start : β} (position : pcs process = start)
    (same : places pc = places start) (other : ι) :
    places (Function.update pcs process pc other) = places (pcs other) := by
  by_cases moved : other = process
  · subst moved
    rw [Function.update_self, position, same]
  · rw [Function.update_of_ne moved]

/-- A process that moves within the places, or outside of them, leaves them as occupied as
they were. -/
theorem occupied_update_iff {start : β} (position : pcs process = start)
    (same : places pc = places start) :
    Occupied places (Function.update pcs process pc) ↔ Occupied places pcs := by
  simp only [Occupied, places_update position same]

theorem AtMostOne.move {start : β} (once : AtMostOne places pcs) (position : pcs process = start)
    (same : places pc = places start) : AtMostOne places (Function.update pcs process pc) := by
  simpa only [AtMostOne, places_update position same] using once

theorem occupied_update (arrived : places pc = true) :
    Occupied places (Function.update pcs process pc) :=
  ⟨process, by rw [Function.update_self, arrived]⟩

theorem occupied_of_update (occupied : Occupied places (Function.update pcs process pc)) :
    places pc = true ∨ Occupied places pcs := by
  obtain ⟨other, there⟩ := occupied
  by_cases moved : other = process
  · subst moved
    rw [Function.update_self] at there
    exact .inl there
  · rw [Function.update_of_ne moved] at there
    exact .inr ⟨other, there⟩

/-- A process that comes from elsewhere leaves no place vacant. -/
theorem Occupied.update (occupied : Occupied places pcs)
    (outside : places (pcs process) = false) :
    Occupied places (Function.update pcs process pc) := by
  obtain ⟨other, there⟩ := occupied
  have different : other ≠ process := by
    rintro rfl
    rw [outside] at there
    contradiction
  exact ⟨other, by rw [Function.update_of_ne different, there]⟩

/-- The first process that arrives is the only one there. -/
theorem AtMostOne.update (vacant : ¬ Occupied places pcs) :
    AtMostOne places (Function.update pcs process pc) := by
  have only (other : ι) (there : places (Function.update pcs process pc other) = true) :
      other = process := by
    by_contra different
    rw [Function.update_of_ne different] at there
    exact vacant ⟨other, there⟩
  intro first second atFirst atSecond
  rw [only first atFirst, only second atSecond]

/-- Where one process is at most after an arrival, one was there at most before. -/
theorem AtMostOne.of_update (once : AtMostOne places (Function.update pcs process pc))
    (arrived : places pc = true) : AtMostOne places pcs := by
  have stays (other : ι) (there : places (pcs other) = true) :
      places (Function.update pcs process pc other) = true := by
    by_cases moved : other = process
    · subst moved
      rw [Function.update_self, arrived]
    · rw [Function.update_of_ne moved, there]
  intro first second atFirst atSecond
  exact once first second (stays first atFirst) (stays second atSecond)

end Update

end Tailpost.Transition
