/-
Module: RockSolid.Proofs.DefaultMerge
Layer: Proofs
Purpose: The default full merge concatenates, so it does not matter how the
  operands are cut into batches.
Trusted boundary: none
Main exports: defaultFullMerge_eq, defaultFullMergeLoop_eq,
  defaultFullMerge_foldl, defaultFullMerge_batches
-/
import RockSolid.Core.Merge

namespace RockSolid

theorem foldl_append (operands : List Bytes) (existing : Bytes) :
    operands.foldl (· ++ ·) existing = existing ++ operands.flatten := by
  induction operands generalizing existing with
  | nil => simp
  | cons operand operands inductionHypothesis =>
      rw [List.foldl_cons, inductionHypothesis, List.flatten_cons,
        List.append_assoc]

/-- The default full merge concatenates what there is. -/
theorem defaultFullMerge_eq (key : Bytes) (existingVal : Option Bytes)
    (operands : List Bytes) :
    defaultFullMerge key existingVal operands =
      if existingVal = none ∧ operands = [] then none
      else some (existingVal.getD [] ++ operands.flatten) := by
  cases existingVal with
  | some existing => simp [defaultFullMerge, foldl_append]
  | none => cases operands <;> simp [defaultFullMerge, foldl_append]

/-- A loop over indices in range appends the operands it meets. -/
theorem foldlM_getElem (operands : List Bytes) (start count : Nat)
    (inRange : start + count ≤ operands.length) (resultVal : Bytes) :
    (List.range' start count).foldlM
      (fun resultVal opIdx => do
        let op ← operands[opIdx]?
        return resultVal ++ op) resultVal =
      some (resultVal ++ ((operands.drop start).take count).flatten) := by
  induction count generalizing start resultVal with
  | zero => simp
  | succ count inductionHypothesis =>
      have present : start < operands.length := by omega
      have later := inductionHypothesis (start + 1) (by omega)
        (resultVal ++ operands[start])
      rw [List.range'_succ, List.foldlM_cons, List.getElem?_eq_getElem present,
        List.drop_eq_getElem_cons present, List.take_succ_cons,
        List.flatten_cons, ← List.append_assoc]
      exact later

/-- The loops of the source meet every operand once and do not panic. -/
theorem defaultFullMergeLoop_eq (key : Bytes) (existingVal : Option Bytes)
    (operands : List Bytes) :
    defaultFullMergeLoop existingVal operands =
      some (defaultFullMerge key existingVal operands) := by
  cases existingVal with
  | some existing => rfl
  | none =>
      cases operands with
      | nil => rfl
      | cons first others =>
          have looped := foldlM_getElem (first :: others) 1 others.length
            (by simp [Nat.add_comm]) first
          have entered : defaultFullMergeLoop none (first :: others) =
              ((List.range' 1 others.length).foldlM
                (fun resultVal opIdx => do
                  let op ← (first :: others)[opIdx]?
                  return resultVal ++ op) first).bind
                    fun resultVal => some (some resultVal) := rfl
          rw [entered, looped, defaultFullMerge_eq]
          simp

/-- Merging batch after batch merges everything. -/
theorem defaultFullMerge_foldl (key : Bytes) (existingVal : Option Bytes)
    (batches : List (List Bytes)) :
    batches.foldl (defaultFullMerge key) existingVal =
      defaultFullMerge key existingVal batches.flatten := by
  induction batches generalizing existingVal with
  | nil => cases existingVal <;> simp [defaultFullMerge_eq]
  | cons batch batches inductionHypothesis =>
      rw [List.foldl_cons, inductionHypothesis, List.flatten_cons]
      simp only [defaultFullMerge_eq]
      cases existingVal <;> cases batch <;> simp

/-- The default full merge, whose loops never panic: nothing from nothing, and
otherwise the concatenation of the existing value and the operands.  So the value
is the same for every way of cutting the operands into batches, and the first
operand may stand for a missing value. -/
theorem defaultFullMerge_batches (key : Bytes) :
    (∀ existingVal operands, defaultFullMergeLoop existingVal operands =
      some (defaultFullMerge key existingVal operands)) ∧
    (∀ existingVal operands, defaultFullMerge key existingVal operands =
      if existingVal = none ∧ operands = [] then none
      else some (existingVal.getD [] ++ operands.flatten)) ∧
    (∀ existingVal (batches : List (List Bytes)),
      batches.foldl (defaultFullMerge key) existingVal =
        defaultFullMerge key existingVal batches.flatten) ∧
    ∀ first others, defaultFullMerge key none (first :: others) =
      defaultFullMerge key (some first) others := by
  refine ⟨defaultFullMergeLoop_eq key, defaultFullMerge_eq key,
    defaultFullMerge_foldl key, ?_⟩
  intro first others
  simp [defaultFullMerge_eq]

end RockSolid
