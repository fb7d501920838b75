/-
Module: RockSolid.Foundation.KeyedStore
Layer: Foundation
Purpose: Stores made of independent cells, batches of single-cell writes, and
  commit logs.  A batch that does not touch a cell leaves it alone, and what a
  batch does to a cell depends on that cell only.  From these two facts a log
  can be read backwards: a cell untouched since an earlier point of the log
  still holds what it held there.
Trusted boundary: none
Main exports: KeyedStore, applyBatch, cellAfter, replay, stateAt, Touches,
  cell_applyBatch, cell_replay_of_untouched, cell_stateAt_eq_of_untouched
-/
import Mathlib.Data.List.Basic

namespace RockSolid.Foundation

/-- A store whose cells are indexed by keys and changed by writes that touch
one cell each. -/
class KeyedStore (D : Type*) (K C W : outParam Type*) where
  /-- Content of one cell. -/
  cell : D → K → C
  /-- The only cell a write touches. -/
  target : W → K
  /-- What a write makes of the content of its cell. -/
  effect : W → C → C
  /-- The store after one write. -/
  apply : D → W → D
  cell_apply_target : ∀ (d : D) (w : W),
    cell (apply d w) (target w) = effect w (cell d (target w))
  cell_apply_of_ne : ∀ (d : D) (w : W) (k : K),
    target w ≠ k → cell (apply d w) k = cell d k

namespace KeyedStore

variable {D K C W : Type*} [KeyedStore D K C W]

/-- The store after a batch, applied in order. -/
def applyBatch (d : D) (batch : List W) : D :=
  batch.foldl apply d

/-- A batch touches a key when one of its writes has the key as its target. -/
def Touches (D : Type*) {K C W : Type*} [KeyedStore D K C W]
    (batch : List W) (k : K) : Prop :=
  ∃ w ∈ batch, target D w = k

/-- What a batch makes of one cell, computed from the content of that cell
alone. -/
def cellAfter (D : Type*) {K C W : Type*} [KeyedStore D K C W]
    [DecidableEq K] (k : K) (batch : List W) (content : C) : C :=
  batch.foldl
    (fun current w => if target D w = k then effect D w current else current)
    content

/-- The store after every batch of a log, oldest first. -/
def replay (d : D) (log : List (List W)) : D :=
  log.foldl applyBatch d

/-- The store after the first `n` batches of a log. -/
def stateAt (d : D) (log : List (List W)) (n : Nat) : D :=
  replay d (log.take n)

@[simp] theorem applyBatch_nil (d : D) : applyBatch d ([] : List W) = d := rfl

@[simp] theorem applyBatch_cons (d : D) (w : W) (batch : List W) :
    applyBatch d (w :: batch) = applyBatch (apply d w) batch := rfl

@[simp] theorem replay_nil (d : D) : replay d ([] : List (List W)) = d := rfl

theorem replay_append (d : D) (first second : List (List W)) :
    replay d (first ++ second) = replay (replay d first) second :=
  List.foldl_append

@[simp] theorem replay_concat (d : D) (log : List (List W)) (batch : List W) :
    replay d (log ++ [batch]) = applyBatch (replay d log) batch := by
  rw [replay_append]
  rfl

@[simp] theorem touches_nil (k : K) : ¬ Touches D ([] : List W) k := by
  rintro ⟨w, member, -⟩
  cases member

theorem touches_cons {w : W} {batch : List W} {k : K} :
    Touches D (w :: batch) k ↔ target D w = k ∨ Touches D batch k := by
  simp [Touches]

/-- The content of a cell after a batch is a function of the content of that
cell before it. -/
theorem cell_applyBatch [DecidableEq K] (d : D) (batch : List W) (k : K) :
    cell (applyBatch d batch) k = cellAfter D k batch (cell d k) := by
  induction batch generalizing d with
  | nil => rfl
  | cons w batch inductionHypothesis =>
      rw [applyBatch_cons, inductionHypothesis]
      by_cases hit : target D w = k
      · subst hit
        simp [cellAfter, cell_apply_target]
      · simp [cellAfter, hit, cell_apply_of_ne d w k hit]

/-- Writes that do not touch a cell can be left out. -/
theorem cell_applyBatch_filter {p : W → Bool} {k : K}
    (keeps : ∀ w, target D w = k → p w = true) (d : D) (batch : List W) :
    cell (applyBatch d (batch.filter p)) k = cell (applyBatch d batch) k := by
  classical
  rw [cell_applyBatch, cell_applyBatch, cellAfter, cellAfter, List.foldl_filter]
  congr 1
  funext current w
  by_cases hit : target D w = k
  · rw [if_pos (keeps w hit)]
  · rw [if_neg hit, ite_self]

theorem cellAfter_of_untouched [DecidableEq K] {batch : List W} {k : K}
    (untouched : ¬ Touches D batch k) (content : C) :
    cellAfter D k batch content = content := by
  induction batch generalizing content with
  | nil => rfl
  | cons w batch inductionHypothesis =>
      rw [touches_cons, not_or] at untouched
      have skip : cellAfter D k (w :: batch) content =
          cellAfter D k batch content := by
        simp [cellAfter, untouched.1]
      rw [skip, inductionHypothesis untouched.2]

/-- A batch leaves every cell it does not touch as it was. -/
theorem cell_applyBatch_of_untouched (d : D) {batch : List W} {k : K}
    (untouched : ¬ Touches D batch k) :
    cell (applyBatch d batch) k = cell d k := by
  classical
  rw [cell_applyBatch, cellAfter_of_untouched untouched]

/-- A log none of whose batches touches a cell leaves it as it was. -/
theorem cell_replay_of_untouched (d : D) {log : List (List W)} {k : K}
    (untouched : ∀ batch ∈ log, ¬ Touches D batch k) :
    cell (replay d log) k = cell d k := by
  induction log generalizing d with
  | nil => rfl
  | cons batch log inductionHypothesis =>
      have tail := inductionHypothesis (applyBatch d batch)
        (fun other member => untouched other (List.mem_cons_of_mem _ member))
      calc cell (replay d (batch :: log)) k
          = cell (applyBatch d batch) k := tail
        _ = cell d k :=
            cell_applyBatch_of_untouched d (untouched batch List.mem_cons_self)

/-- Appending a batch does not change any state the log already passed. -/
theorem stateAt_concat (d : D) (log : List (List W)) (batch : List W) {n : Nat}
    (bound : n ≤ log.length) :
    stateAt d (log ++ [batch]) n = stateAt d log n := by
  rw [stateAt, stateAt, List.take_append_of_le_length bound]

@[simp] theorem stateAt_length (d : D) (log : List (List W)) :
    stateAt d log log.length = replay d log := by
  rw [stateAt, List.take_length]

/-- The state between two points of a log differs only in the cells touched
between them. -/
theorem cell_stateAt_eq_of_untouched (d : D) {log : List (List W)}
    {first last : Nat} {k : K} (ordered : first ≤ last)
    (untouched : ∀ batch ∈ log.drop first, ¬ Touches D batch k) :
    cell (stateAt d log last) k = cell (stateAt d log first) k := by
  have split : log.take last =
      log.take first ++ (log.drop first).take (last - first) := by
    rw [← List.take_add, Nat.add_sub_cancel' ordered]
  rw [stateAt, stateAt, split, replay_append]
  exact cell_replay_of_untouched _
    (fun batch member => untouched batch (List.mem_of_mem_take member))

end KeyedStore

end RockSolid.Foundation
