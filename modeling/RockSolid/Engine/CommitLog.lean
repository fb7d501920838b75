/-
Module: RockSolid.Engine.CommitLog
Layer: Engine
Purpose: The history of a database as the batches committed to it, and the
  validation of an optimistic commit against it: the keys a transaction staged
  writes for must not have been committed since its snapshot.
Trusted boundary: documented behaviour of RocksDB, which is not part of the
  repository
Main exports: CommitLog, Overwritten, NativeTxn.Conflicts
-/
import RockSolid.Engine.NativeTxn

namespace RockSolid

open Foundation KeyedStore

/-- The committed batches, oldest first. -/
abbrev CommitLog := List (List WriteOp)

/-- One of the batches writes a key that one of the staged writes is for. -/
def Overwritten (staged : List WriteOp) (batches : CommitLog) : Prop :=
  ∃ op ∈ staged, ∃ batch ∈ batches, Touches ByteDb batch op.target

instance (staged : List WriteOp) (batches : CommitLog) :
    Decidable (Overwritten staged batches) :=
  inferInstanceAs (Decidable (∃ _ ∈ staged, ∃ _ ∈ batches, ∃ _ ∈ _, _ = _))

/-- A transaction with a snapshot that may not commit: a key it staged a write
for was committed since the snapshot was taken. -/
def NativeTxn.Conflicts (txn : NativeTxn) (log : CommitLog) : Prop :=
  ∃ position ∈ txn.snapshot, Overwritten txn.staged (log.drop position)

instance (txn : NativeTxn) (log : CommitLog) : Decidable (txn.Conflicts log) :=
  match found : txn.snapshot with
  | none => isFalse (by simp [NativeTxn.Conflicts, found])
  | some position =>
      decidable_of_iff (Overwritten txn.staged (log.drop position))
        (by simp [NativeTxn.Conflicts, found])

/-- Batches that are not overwritten leave the staged keys as they were. -/
theorem cell_eq_of_not_overwritten (base : ByteDb) {log : CommitLog}
    {staged : List WriteOp} {first last : Nat} {k : CfKey}
    (ordered : first ≤ last)
    (accepted : ¬ Overwritten staged (log.drop first))
    (covered : Touches ByteDb staged k) :
    (stateAt base log last).record k = (stateAt base log first).record k := by
  apply cell_stateAt_eq_of_untouched base ordered
  intro batch member touched
  obtain ⟨op, isStaged, sameKey⟩ := covered
  subst sameKey
  exact accepted ⟨op, isStaged, batch, member, touched⟩

end RockSolid
