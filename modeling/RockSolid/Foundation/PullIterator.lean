/-
Module: RockSolid.Foundation.PullIterator
Layer: Foundation
Purpose: Iterators that are pulled one item at a time and carry their own state.
  Draining pulls to the first `none`; collecting pulls to the first error.  An
  iterator is silent when further pulls return nothing and do nothing.
Trusted boundary: none
Main exports: PullIterator, drain, collect, drain_congr, pulled, SilentAfter,
  silentAfter_iff, collect_eq_mapM_drain, collectRest, collectRest_congr,
  collect_eq_collectRest
-/
import Mathlib.Data.List.Basic
import Mathlib.Logic.Function.Iterate

namespace RockSolid.Foundation

/-- An iterator whose every delivered item shrinks what remains. -/
class PullIterator (I : Type*) (A : outParam Type*) where
  next : I → Option A × I
  remaining : I → Nat
  remaining_lt : ∀ {it rest : I} {a : A},
    next it = (some a, rest) → remaining rest < remaining it

namespace PullIterator

variable {I A : Type*} [PullIterator I A]

/-- All items up to the first `none`, and the iterator that is left. -/
def drain (it : I) : List A × I :=
  match _advanced : next it with
  | (none, rest) => ([], rest)
  | (some a, rest) =>
      let later := drain rest
      (a :: later.1, later.2)
termination_by remaining it
decreasing_by exact remaining_lt _advanced

theorem drain_of_none {it rest : I} (finished : next it = (none, rest)) :
    drain it = ([], rest) := by
  rw [drain]
  split <;> simp_all

theorem drain_of_some {it rest : I} {a : A}
    (advanced : next it = (some a, rest)) :
    drain it = (a :: (drain rest).1, (drain rest).2) := by
  rw [drain]
  split <;> simp_all

/-- Only the next step matters to a drain. -/
theorem drain_congr {it other : I} (same : next it = next other) :
    drain it = drain other := by
  rcases step : next other with ⟨_ | a, rest⟩
  · rw [drain_of_none step, drain_of_none (same.trans step)]
  · rw [drain_of_some step, drain_of_some (same.trans step)]

/-- The iterator after a number of pulls, whatever they returned. -/
def pulled (n : Nat) (it : I) : I :=
  (fun it => (next it).2)^[n] it

theorem pulled_succ (n : Nat) (it : I) :
    pulled (n + 1) it = (next (pulled n it)).2 :=
  Function.iterate_succ_apply' _ n it

/-- However often the iterator is pulled, it returns `none` and what is observed
of it stays the same. -/
def SilentAfter {O : Type*} (observe : I → O) (it : I) : Prop :=
  ∀ n, (next (pulled n it)).1 = none ∧
    observe (pulled (n + 1) it) = observe it

/-- An iterator that does nothing once it is exhausted, and shows every pull
before that, is silent exactly when it is exhausted. -/
theorem silentAfter_iff {O : Type*} {observe : I → O} {exhausted : I → Prop}
    (idle : ∀ it, exhausted it → next it = (none, it))
    (shows : ∀ it, ¬ exhausted it → observe (next it).2 ≠ observe it)
    (it : I) : SilentAfter observe it ↔ exhausted it := by
  constructor
  · intro silent
    by_contra busy
    exact shows it busy (silent 0).2
  · intro finished n
    have same (m : Nat) : pulled m it = it := by
      induction m with
      | zero => rfl
      | succ m inductionHypothesis =>
          rw [pulled_succ, inductionHypothesis, idle it finished]
    rw [same n, same (n + 1), idle it finished]
    exact ⟨rfl, rfl⟩

end PullIterator

open PullIterator

variable {I A ε : Type*} [PullIterator I (Except ε A)]

/-- All items, or the first error met while pulling. -/
def collect (it : I) : Except ε (List A) :=
  match _advanced : next it with
  | (none, _) => .ok []
  | (some (.error e), _) => .error e
  | (some (.ok a), rest) => (collect rest).map (a :: ·)
termination_by remaining it
decreasing_by exact remaining_lt _advanced

/-- Collecting is draining and then stopping at the first error. -/
theorem collect_eq_mapM_drain (it : I) :
    collect it = (drain it).1.mapM id := by
  induction bound : remaining it using Nat.strongRecOn generalizing it with
  | ind n inductionHypothesis =>
      rw [collect]
      split
      · next advanced => rw [drain_of_none advanced]; rfl
      · next advanced => rw [drain_of_some advanced]; rfl
      · next a rest advanced =>
          have later := inductionHypothesis (remaining rest)
            (bound ▸ remaining_lt advanced) rest rfl
          rw [drain_of_some advanced, List.mapM_cons, later]
          cases (drain rest).1.mapM id <;> rfl

/-- Collecting, with what the iterator has become when the collection ends. -/
def collectRest (it : I) : Except ε (List A) × I :=
  match _advanced : next it with
  | (none, rest) => (.ok [], rest)
  | (some (.error e), rest) => (.error e, rest)
  | (some (.ok a), rest) =>
      let (items, last) := collectRest rest
      (items.map (a :: ·), last)
termination_by remaining it
decreasing_by exact remaining_lt _advanced

theorem collectRest_of_none {it rest : I} (advanced : next it = (none, rest)) :
    collectRest it = (.ok [], rest) := by
  rw [collectRest]
  split <;> simp_all

theorem collectRest_of_error {it rest : I} {e : ε}
    (advanced : next it = (some (.error e), rest)) :
    collectRest it = (.error e, rest) := by
  rw [collectRest]
  split <;> simp_all

theorem collectRest_of_ok {it rest : I} {a : A}
    (advanced : next it = (some (.ok a), rest)) :
    collectRest it =
      ((collectRest rest).1.map (a :: ·), (collectRest rest).2) := by
  rw [collectRest]
  split <;> simp_all

/-- Only the next step matters to a collection. -/
theorem collectRest_congr {it other : I} (same : next it = next other) :
    collectRest it = collectRest other := by
  rcases step : next other with ⟨_ | e | a, rest⟩
  · rw [collectRest_of_none step, collectRest_of_none (same.trans step)]
  · rw [collectRest_of_error step, collectRest_of_error (same.trans step)]
  · rw [collectRest_of_ok step, collectRest_of_ok (same.trans step)]

/-- What is collected does not depend on keeping the iterator. -/
theorem collect_eq_collectRest (it : I) : collect it = (collectRest it).1 := by
  induction bound : remaining it using Nat.strongRecOn generalizing it with
  | ind n inductionHypothesis =>
      rw [collect]
      split
      · next advanced => rw [collectRest_of_none advanced]
      · next advanced => rw [collectRest_of_error advanced]
      · next a rest advanced =>
          have later := inductionHypothesis (remaining rest)
            (bound ▸ remaining_lt advanced) rest rfl
          rw [collectRest_of_ok advanced, later]

end RockSolid.Foundation
