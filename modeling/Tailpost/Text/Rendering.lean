import Mathlib.Data.List.Perm.Basic

/-!
# Rendering lists

A list is rendered by concatenating what its elements render to.  When the first
symbol of a rendering tells which element it came from, different orders of the
same elements have different renderings.
-/

namespace Tailpost.Text

universe u v

variable {α : Type u} {β : Type v} {render : α → List β}

/-- The rendering of a permutation determines the permutation. -/
theorem eq_of_flatMap_eq {items others : List α} (perm : others.Perm items)
    (nonempty : ∀ item ∈ items, render item ≠ [])
    (separated : ∀ item ∈ items, ∀ other ∈ items,
      (render item).head? = (render other).head? → item = other)
    (same : items.flatMap render = others.flatMap render) : items = others := by
  induction items generalizing others with
  | nil => exact (List.Perm.eq_nil perm).symm
  | cons item items ih =>
      cases others with
      | nil => exact absurd perm.symm.eq_nil (List.cons_ne_nil item items)
      | cons other others =>
          have member : other ∈ item :: items := perm.subset List.mem_cons_self
          have heads : (render item).head? = (render other).head? := by
            have first := congrArg List.head? same
            rw [List.flatMap_cons, List.flatMap_cons,
              List.head?_append_of_ne_nil _ (nonempty item List.mem_cons_self),
              List.head?_append_of_ne_nil _ (nonempty other member)] at first
            exact first
          cases separated item List.mem_cons_self other member heads
          rw [List.flatMap_cons, List.flatMap_cons] at same
          rw [ih perm.cons_inv (fun later inside => nonempty later (List.mem_cons_of_mem _ inside))
            (fun later inside last behind => separated later (List.mem_cons_of_mem _ inside) last
              (List.mem_cons_of_mem _ behind)) (List.append_cancel_left same)]

end Tailpost.Text
