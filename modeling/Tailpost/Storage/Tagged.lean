import Mathlib.Data.List.Forall2
import Mathlib.Data.List.GetD
import Mathlib.Data.List.Perm.Subperm

/-!
# Tagged entries

Several processes write to one output, and each entry carries the name of its writer.
Apart from the order in which the writers take turns, the output is the concatenation of
what each of them wrote.
-/

namespace Tailpost.Storage

universe u v

variable {κ : Type u} {β : Type v} [DecidableEq κ]

/-- The entries with a tag, in order. -/
def tagged (entries : List (κ × β)) (tag : κ) : List β :=
  (entries.filter (·.1 = tag)).map (·.2)

@[simp]
theorem tagged_nil (tag : κ) : tagged ([] : List (κ × β)) tag = [] :=
  rfl

theorem tagged_append_self (entries : List (κ × β)) (tag : κ) (value : β) :
    tagged (entries ++ [(tag, value)]) tag = tagged entries tag ++ [value] := by
  simp [tagged]

theorem tagged_append_of_ne (entries : List (κ × β)) {tag other : κ} (value : β)
    (different : other ≠ tag) :
    tagged (entries ++ [(tag, value)]) other = tagged entries other := by
  simp [tagged, different.symm]

/-- Removing the entries with one tag leaves those with another. -/
theorem tagged_filter_ne (entries : List (κ × β)) {tag other : κ} (different : other ≠ tag) :
    tagged (entries.filter (·.1 ≠ tag)) other = tagged entries other := by
  rw [tagged, tagged, List.filter_filter]
  congr 1
  apply List.filter_congr
  intro entry _
  by_cases same : entry.1 = other <;> simp [same, different]

/-- The output is a permutation of what its writers wrote, one after the other. -/
theorem perm_flatMap_tagged {tags : List κ} (distinct : tags.Nodup) {entries : List (κ × β)}
    (within : ∀ entry ∈ entries, entry.1 ∈ tags) :
    (entries.map (·.2)).Perm (tags.flatMap (tagged entries)) := by
  induction tags generalizing entries with
  | nil =>
      have nothing : entries = [] :=
        List.eq_nil_iff_forall_not_mem.mpr fun entry member => by simpa using within entry member
      simp [nothing]
  | cons tag tags ih =>
      rcases List.nodup_cons.mp distinct with ⟨fresh, rest⟩
      have others : ∀ entry ∈ entries.filter (·.1 ≠ tag), entry.1 ∈ tags := by
        intro entry member
        rcases List.mem_filter.mp member with ⟨isEntry, different⟩
        exact (List.mem_cons.mp (within entry isEntry)).resolve_left (by simpa using different)
      have unchanged : tags.flatMap (tagged (entries.filter (·.1 ≠ tag))) =
          tags.flatMap (tagged entries) := by
        rw [List.flatMap, List.flatMap]
        congr 1
        apply List.map_congr_left
        intro other member
        exact tagged_filter_ne entries fun same => fresh (same ▸ member)
      have splits := (List.filter_append_perm (fun entry => decide (entry.1 = tag)) entries).map
        (·.2)
      rw [List.map_append] at splits
      refine splits.symm.trans ?_
      rw [List.flatMap_cons, ← unchanged]
      refine List.Perm.append_left (tagged entries tag) ?_
      simpa using ih rest others

theorem sublist_flatten_of_forall₂ {parts wholes : List (List β)}
    (related : List.Forall₂ List.Sublist parts wholes) :
    parts.flatten.Sublist wholes.flatten := by
  induction related with
  | nil => simp
  | cons first _ ih => simpa using first.append ih

section Groups

variable {entries : List (Nat × β)} {groups : List (List β)}

/-- The tags of entries that come from the groups are positions of groups. -/
theorem tag_mem_range (fronts : ∀ index, tagged entries index <+: groups.getD index []) :
    ∀ entry ∈ entries, entry.1 ∈ List.range groups.length := by
  intro entry member
  rw [List.mem_range]
  by_contra outside
  have nothing := fronts entry.1
  rw [List.getD_eq_default _ _ (Nat.not_lt.mp outside), List.prefix_nil] at nothing
  have present : entry.2 ∈ tagged entries entry.1 :=
    List.mem_map_of_mem (List.mem_filter.mpr ⟨member, by simp⟩)
  rw [nothing] at present
  contradiction

/-- When each writer wrote a front part of its group, the output has each member of the
groups at most as often as they have it. -/
theorem subperm_flatten_of_tagged
    (fronts : ∀ index, tagged entries index <+: groups.getD index []) :
    (entries.map (·.2)).Subperm groups.flatten := by
  have grouped := perm_flatMap_tagged List.nodup_range (tag_mem_range fronts)
  have parts : List.Forall₂ List.Sublist ((List.range groups.length).map (tagged entries))
      groups := by
    rw [List.forall₂_iff_get]
    refine ⟨by simp, ?_⟩
    intro index _ inside
    have front := fronts index
    rw [List.getD_eq_getElem _ _ inside] at front
    simpa using front.sublist
  exact grouped.subperm.trans (sublist_flatten_of_forall₂ parts).subperm

/-- When each writer wrote all of its group, nothing is missing. -/
theorem perm_flatten_of_tagged
    (all : ∀ index, tagged entries index = groups.getD index []) :
    (entries.map (·.2)).Perm groups.flatten := by
  have fronts : ∀ index, tagged entries index <+: groups.getD index [] :=
    fun index => all index ▸ List.prefix_rfl
  have grouped := perm_flatMap_tagged List.nodup_range (tag_mem_range fronts)
  have same : (List.range groups.length).map (tagged entries) = groups := by
    apply List.ext_getElem (by simp)
    intro index _ inside
    simp [all, inside]
  rwa [List.flatMap, same] at grouped

end Groups

end Tailpost.Storage
