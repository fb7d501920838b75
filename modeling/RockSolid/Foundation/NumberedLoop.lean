/-
Module: RockSolid.Foundation.NumberedLoop
Layer: Foundation
Purpose: Unbounded loops with a counter (`for i in 0..`).  A round either answers,
  which ends the loop, or hands a state to the next round; it leaves a record in
  both cases.  The loop is run for a number of rounds, and `Rounds` describes its
  runs; a bound on the rounds that go on makes it end.
Trusted boundary: none
Main exports: Body, runFrom, Rounds, runFrom_rounds, runFrom_more,
  runFrom_ends, Rounds.first, Rounds.split,
  Rounds.exists_last
-/
import Mathlib.Data.List.Basic

namespace RockSolid.Foundation

/-- A round: its number and the state it starts in; an answer or the next state,
and the record of the round. -/
abbrev Body (σ α ρ : Type) := Nat → σ → (α ⊕ σ) × ρ

variable {σ α ρ : Type} (body : Body σ α ρ)

/-- At most `fuel` rounds from round `i` on: the answer, if one was given, and the
records. -/
def runFrom : (fuel i : Nat) → σ → Option α × List ρ
  | 0, _, _ => (none, [])
  | fuel + 1, i, s =>
      match body i s with
      | (.inl answer, record) => (some answer, [record])
      | (.inr next, record) =>
          let (answer, records) := runFrom fuel (i + 1) next
          (answer, record :: records)

/-- The runs of the loop, complete or not. -/
inductive Rounds : Nat → σ → Option α → List ρ → Prop where
  | unfinished {i : Nat} {s : σ} : Rounds i s none []
  | answered {i : Nat} {s : σ} {answer : α} {record : ρ}
      (ends : body i s = (.inl answer, record)) :
      Rounds i s (some answer) [record]
  | again {i : Nat} {s next : σ} {answer : Option α} {record : ρ}
      {records : List ρ} (goesOn : body i s = (.inr next, record))
      (later : Rounds (i + 1) next answer records) :
      Rounds i s answer (record :: records)

variable {body}

section Step

variable {fuel i : Nat} {s next : σ} {answer : α} {record : ρ}

theorem runFrom_of_answer (ends : body i s = (.inl answer, record)) :
    runFrom body (fuel + 1) i s = (some answer, [record]) := by
  rw [runFrom, ends]

theorem runFrom_of_next (goesOn : body i s = (.inr next, record)) :
    runFrom body (fuel + 1) i s =
      ((runFrom body fuel (i + 1) next).1,
        record :: (runFrom body fuel (i + 1) next).2) := by
  rw [runFrom, goesOn]

end Step

theorem runFrom_rounds (fuel i : Nat) (s : σ) :
    Rounds body i s (runFrom body fuel i s).1 (runFrom body fuel i s).2 := by
  induction fuel generalizing i s with
  | zero => exact .unfinished
  | succ fuel inductionHypothesis =>
      rcases step : body i s with ⟨answer | next, record⟩
      · rw [runFrom_of_answer step]
        exact .answered step
      · rw [runFrom_of_next step]
        exact .again step (inductionHypothesis (i + 1) next)

/-- A loop that has answered does not need more rounds. -/
theorem runFrom_more {fuel more i : Nat} {s : σ}
    (finished : (runFrom body fuel i s).1 ≠ none) (enough : fuel ≤ more) :
    runFrom body more i s = runFrom body fuel i s := by
  induction fuel generalizing i s more with
  | zero => exact absurd rfl finished
  | succ fuel inductionHypothesis =>
      cases more with
      | zero => exact absurd enough (Nat.not_succ_le_zero fuel)
      | succ more =>
          rcases step : body i s with ⟨answer | next, record⟩
          · rw [runFrom_of_answer step, runFrom_of_answer step]
          · rw [runFrom_of_next step] at finished ⊢
            rw [runFrom_of_next step,
              inductionHypothesis finished (Nat.le_of_succ_le_succ enough)]

/-- A loop whose rounds go on only below a bound answers within it. -/
theorem runFrom_ends {Inv : σ → Prop} {bound : Nat}
    (bounded : ∀ {i s next record}, Inv s → body i s = (.inr next, record) →
      Inv next ∧ i + 1 < bound)
    {fuel i : Nat} {s : σ} (holds : Inv s) (below : i < bound)
    (enough : bound ≤ i + fuel) : (runFrom body fuel i s).1 ≠ none := by
  induction fuel generalizing i s with
  | zero => omega
  | succ fuel inductionHypothesis =>
      rcases step : body i s with ⟨answer | next, record⟩
      · rw [runFrom_of_answer step]
        exact Option.some_ne_none answer
      · rw [runFrom_of_next step]
        obtain ⟨kept, stillBelow⟩ := bounded holds step
        exact inductionHypothesis kept stillBelow (by omega)

/-- The first record is that of the first round. -/
theorem Rounds.first {i : Nat} {s : σ} {answer : Option α} {record : ρ}
    {records : List ρ} (run : Rounds body i s answer (record :: records)) :
    ∃ turn, body i s = (turn, record) := by
  cases run with
  | answered ends => exact ⟨_, ends⟩
  | again goesOn later => exact ⟨_, goesOn⟩

/-- What is known of each round: it started in a state with the invariant, and
either it was the last one or the loop went on after it. -/
theorem Rounds.split (Inv : σ → Prop)
    (preserved : ∀ {i s next record}, Inv s →
      body i s = (.inr next, record) → Inv next)
    {i : Nat} {s : σ} {answer : Option α} {before after : List ρ} {record : ρ}
    (run : Rounds body i s answer (before ++ record :: after)) (holds : Inv s) :
    ∃ s', Inv s' ∧
      ((∃ a, body (i + before.length) s' = (.inl a, record) ∧
          answer = some a ∧ after = []) ∨
        ∃ next, body (i + before.length) s' = (.inr next, record) ∧
          Rounds body (i + before.length + 1) next answer after) := by
  induction before generalizing i s with
  | nil =>
      cases run with
      | answered ends => exact ⟨s, holds, .inl ⟨_, ends, rfl, rfl⟩⟩
      | again goesOn later => exact ⟨s, holds, .inr ⟨_, goesOn, later⟩⟩
  | cons first before inductionHypothesis =>
      have shifted : i + 1 + before.length =
          i + (first :: before).length := by
        rw [List.length_cons]
        omega
      generalize whole : first :: before ++ record :: after = records at run
      cases run with
      | unfinished => cases whole
      | answered ends =>
          rw [List.cons_append, List.cons.injEq] at whole
          cases List.append_ne_nil_of_right_ne_nil before
            (List.cons_ne_nil record after) whole.2
      | again goesOn later =>
          cases whole
          rw [← shifted]
          exact inductionHypothesis later (preserved holds goesOn)

/-- A loop that has answered has a last round. -/
theorem Rounds.exists_last {i : Nat} {s : σ} {a : α} {records : List ρ}
    (run : Rounds body i s (some a) records) :
    ∃ before record, records = before ++ [record] := by
  have nonempty : records ≠ [] := by
    intro empty
    subst empty
    cases run
  exact ⟨_, _, (List.dropLast_append_getLast nonempty).symm⟩

end RockSolid.Foundation
