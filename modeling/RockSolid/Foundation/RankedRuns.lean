/-
Module: RockSolid.Foundation.RankedRuns
Layer: Foundation
Purpose: What holds of a run together with the steps taken so far, and bounds on
  the length of a run.  When each step that costs something takes at least one off a
  rank that no step raises, a run has at most as many of these steps as its first
  state has ranks.  With several parties, a step need only lower the rank of the
  party that takes it.
Trusted boundary: none
Main exports: history_of_foldlM, cost_le_of_lowers, sum_lowers
-/
import Mathlib.Algebra.BigOperators.Group.Finset.Basic
import Mathlib.Algebra.Order.BigOperators.Group.Finset
import Mathlib.Data.Fintype.BigOperators

namespace RockSolid.Foundation

/-- What holds at the start, before any step, and is kept by each step, holds of
every run and the state it ends in. -/
theorem history_of_foldlM {S A : Type*} {step : S → A → Option S}
    {Holds : List A → S → Prop} {start finish : S} {steps : List A}
    (ran : steps.foldlM step start = some finish) (atStart : Holds [] start)
    (kept : ∀ earlier a s next, Holds earlier s → step s a = some next →
      Holds (earlier ++ [a]) next) : Holds steps finish := by
  induction steps using List.reverseRecOn generalizing finish with
  | nil =>
      cases ran
      exact atStart
  | append_singleton earlier a inductionHypothesis =>
      rw [List.foldlM_append] at ran
      obtain ⟨s, before, last⟩ := Option.bind_eq_some_iff.mp ran
      exact kept earlier a s finish (inductionHypothesis before)
        (by simpa using last)

/-- A run has no more costly steps than ranks were lost.  The steps need to lower
the rank only in the states that the run goes through. -/
theorem cost_le_of_lowers {S A : Type*} {step : S → A → Option S} (rank : S → Nat)
    (costs : A → Bool) {start finish : S} {steps : List A}
    (ran : steps.foldlM step start = some finish)
    (lowers : ∀ earlier later a s next, steps = earlier ++ a :: later →
      earlier.foldlM step start = some s → step s a = some next →
      rank next + (costs a).toNat ≤ rank s) :
    steps.countP costs + rank finish ≤ rank start := by
  induction steps using List.reverseRecOn generalizing finish with
  | nil =>
      cases ran
      simp
  | append_singleton earlier a inductionHypothesis =>
      rw [List.foldlM_append] at ran
      obtain ⟨s, before, last⟩ := Option.bind_eq_some_iff.mp ran
      have taken : step s a = some finish := by simpa using last
      have lower := lowers earlier [] a s finish rfl before taken
      have soFar := inductionHypothesis before fun first later b t next parts =>
        lowers first (later ++ [a]) b t next (by rw [parts, List.append_assoc]; rfl)
      have counted : (earlier ++ [a]).countP costs =
          earlier.countP costs + (costs a).toNat := by
        rw [List.countP_append]
        cases paid : costs a <;> simp [paid]
      omega

/-- A step that lowers the rank of one party and raises none lowers their sum. -/
theorem sum_lowers {P : Type*} [Fintype P] {before after : P → Nat}
    (mover : P) (lowers : after mover + 1 ≤ before mover)
    (raises : ∀ p, p ≠ mover → after p ≤ before p) :
    ∑ p, after p + 1 ≤ ∑ p, before p := by
  have least : ∀ p ∈ Finset.univ, after p ≤ before p := by
    intro p _
    by_cases isMover : p = mover
    · subst isMover
      omega
    · exact raises p isMover
  exact Finset.sum_lt_sum least ⟨mover, Finset.mem_univ mover, lowers⟩

end RockSolid.Foundation
