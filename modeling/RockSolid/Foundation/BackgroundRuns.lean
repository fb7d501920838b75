/-
Module: RockSolid.Foundation.BackgroundRuns
Layer: Foundation
Purpose: Stores of independent cells with steps of two kinds: writes that were
  asked for, and background steps that the store takes on its own.  A relation
  that a write keeps in two stores and a background step keeps in one of them
  compares a run with the run of its writes alone.
Trusted boundary: none
Main exports: SilentStep, cell_run_related
-/
import RockSolid.Foundation.KeyedStore

namespace RockSolid.Foundation.KeyedStore

variable {D K C W : Type*} [KeyedStore D K C W]

/-- What a step has to keep between the content of a cell in a run and in the run
without background steps: a write is made in both, a background step in the first
only. -/
structure SilentStep (D : Type*) {K C W : Type*} [KeyedStore D K C W]
    (background : W → Bool) (related : C → C → Prop) (k : K) (w : W) : Prop where
  lockstep : background w = false → target D w = k →
    ∀ c d, related c d → related (effect D w c) (effect D w d)
  silent : background w = true → target D w = k →
    ∀ c d, related c d → related (effect D w c) d

variable {background : W → Bool} {related : C → C → Prop} {k : K}

theorem SilentStep.write {w : W} (step : SilentStep D background related k w)
    (asked : background w = false) {d other : D}
    (before : related (cell d k) (cell other k)) :
    related (cell (apply d w) k) (cell (apply other w) k) := by
  by_cases hit : target D w = k
  · have kept := step.lockstep asked hit _ _ before
    subst hit
    rwa [cell_apply_target, cell_apply_target]
  · rwa [cell_apply_of_ne _ _ _ hit, cell_apply_of_ne _ _ _ hit]

theorem SilentStep.unseen {w : W} (step : SilentStep D background related k w)
    (own : background w = true) {d other : D}
    (before : related (cell d k) (cell other k)) :
    related (cell (apply d w) k) (cell other k) := by
  by_cases hit : target D w = k
  · have kept := step.silent own hit _ _ before
    subst hit
    rwa [cell_apply_target]
  · rwa [cell_apply_of_ne _ _ _ hit]

/-- A run leaves each cell related to what the writes of the run alone leave. -/
theorem cell_run_related {run : List W} (d other : D)
    (steps : ∀ w ∈ run, SilentStep D background related k w)
    (before : related (cell d k) (cell other k)) :
    related (cell (applyBatch d run) k)
      (cell (applyBatch other (run.filter fun w => !background w)) k) := by
  induction run generalizing d other with
  | nil => exact before
  | cons w run inductionHypothesis =>
      obtain ⟨first, rest⟩ := List.forall_mem_cons.mp steps
      cases kind : background w with
      | false =>
          rw [List.filter_cons_of_pos (by rw [kind]; rfl)]
          exact inductionHypothesis _ _ rest (first.write kind before)
      | true =>
          rw [List.filter_cons_of_neg (by rw [kind]; nofun)]
          exact inductionHypothesis _ _ rest (first.unseen kind before)

end RockSolid.Foundation.KeyedStore
