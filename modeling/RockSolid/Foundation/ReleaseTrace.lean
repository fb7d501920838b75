/-
Module: RockSolid.Foundation.ReleaseTrace
Layer: Foundation
Purpose: Traces of what is done to one owned resource.  A trace is sound when
  the resource is released exactly once and nothing is done to it afterwards.
  The two ways to go wrong are a leak and a use after the release.
Trusted boundary: none
Main exports: ReleasedOnce, releasedOnce_concat, not_releasedOnce_of_leak,
  not_releasedOnce_of_reuse
-/
import Mathlib.Data.List.Basic

namespace RockSolid.Foundation

variable {E : Type*} {release : E}

/-- The release happens once, and it is the last thing that happens. -/
def ReleasedOnce (release : E) (trace : List E) : Prop :=
  ∃ uses, release ∉ uses ∧ trace = uses ++ [release]

theorem releasedOnce_concat {uses : List E} (held : release ∉ uses) :
    ReleasedOnce release (uses ++ [release]) :=
  ⟨uses, held, rfl⟩

/-- A resource that is never released is leaked. -/
theorem not_releasedOnce_of_leak {trace : List E} (held : release ∉ trace) :
    ¬ ReleasedOnce release trace := by
  rintro ⟨uses, -, rfl⟩
  exact held (by simp)

/-- Nothing may follow the release, a second release included. -/
theorem not_releasedOnce_of_reuse (before : List E) {next : E}
    {after : List E} :
    ¬ ReleasedOnce release (before ++ release :: next :: after) := by
  rintro ⟨uses, held, same⟩
  have split : before ++ release :: next :: after =
      (before ++ release :: (next :: after).dropLast) ++
        [(next :: after).getLast (List.cons_ne_nil _ _)] := by
    rw [List.append_assoc, List.cons_append,
      List.dropLast_append_getLast (List.cons_ne_nil _ _)]
  rw [split] at same
  rcases List.append_inj' same rfl with ⟨sameUses, -⟩
  exact held (sameUses ▸ by simp)

end RockSolid.Foundation
