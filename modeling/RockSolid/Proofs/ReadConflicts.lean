/-
Module: RockSolid.Proofs.ReadConflicts
Layer: Proofs
Purpose: When the commit of a `transaction_context()` refuses a stale read.  The
  engine validates the keys the transaction staged writes for, so a key that was
  only read does not count.
Trusted boundary: none
Main exports: staleRead_refused_iff_overwritten, readOnly_key_not_validated
-/
import RockSolid.Proofs.PointInTime

namespace RockSolid

open Foundation KeyedStore

/-- A transaction created by `transaction_context()` conflicts when a key it staged
a write for was committed since its creation. -/
theorem ContextSession.conflicts_iff_overwritten
    (store : RocksDbCFOptimisticTxnStore) (base : ByteDb) (log : CommitLog)
    (steps : List ContextSessionStep) :
    let ended := (create store log).run base steps
    ended.ctx.txn.Conflicts ended.log ↔
      Overwritten ended.ctx.txn.staged (ended.log.drop log.length) := by
  intro ended
  have snapshot : ended.ctx.txn.snapshot = some log.length :=
    snapshot_run (running_create log) steps
  constructor
  · rintro ⟨position, taken, overwritten⟩
    have same : position = log.length := by
      rw [snapshot] at taken
      exact (Option.mem_some.mp taken).symm
    exact same ▸ overwritten
  · intro overwritten
    exact ⟨log.length, by rw [snapshot]; rfl, overwritten⟩

/-- In every run, over every reading method: a stale read makes every commit fail
without effect exactly when a stale read comes with a staged key that others have
committed since the creation. -/
theorem staleRead_refused_iff_overwritten (store : RocksDbCFOptimisticTxnStore)
    (base : ByteDb) (log : CommitLog) (steps : List ContextSessionStep) :
    let start := ContextSession.create store log
    let ended := start.run base steps
    ((∃ k, start.StaleRead base steps k) → ended.Refused base) ↔
      ((∃ k, start.StaleRead base steps k) →
        Overwritten ended.ctx.txn.staged (ended.log.drop log.length)) := by
  intro start ended
  have running : ContextSession.Running store ended :=
    ContextSession.running_run (ContextSession.running_create log) steps
  have validated : ended.Refused base ↔
      Overwritten ended.ctx.txn.staged (ended.log.drop log.length) :=
    (ContextSession.refused_iff_conflicts running).trans
      (ContextSession.conflicts_iff_overwritten store base log steps)
  constructor
  · intro refused stale
    exact validated.mp (refused stale)
  · intro overwritten stale
    exact validated.mpr (overwritten stale)

/-- The transaction reads `a`, another client changes `a`, the transaction stages
a write of `b` from what it read: the engine accepts the commit. -/
theorem readOnly_key_not_validated :
    let start := ContextSession.create accountsStore []
    let steps : List ContextSessionStep :=
      [.call none (.reading (.getRaw (K := Bytes) ⟨id⟩ [97])),
        .foreign [.put accountA [50]],
        .call none (.staging (.setRaw (K := Bytes) ⟨id⟩ [98] [49]))]
    let ended := start.run accountsData steps
    start.StaleRead accountsData steps accountA ∧ ended.Allows none ∧
      (ended.ctx.commit (ended.data accountsData) none).1 = .ok () ∧
      ¬ ended.Refused accountsData := by
  intro start steps ended
  have stale : start.StaleRead accountsData steps accountA :=
    ⟨[], none, .reading (.getRaw (K := Bytes) ⟨id⟩ [97]), [],
      [.put accountA [50]],
      [.call none (.staging (.setRaw (K := Bytes) ⟨id⟩ [98] [49]))], rfl,
      ⟨{ event := .get accountA (.ok (some [49])), staged := [], log := [] },
        by decide, some [49], .get accountA (some [49])⟩, by decide⟩
  have accepted : ¬ ended.ctx.txn.Conflicts ended.log := by decide
  have allowed : ended.Allows none := fun conflicts => absurd conflicts accepted
  refine ⟨stale, allowed, rfl, ?_⟩
  intro refused
  obtain ⟨⟨e, failed⟩, -⟩ := refused none allowed
  have returned : (ended.ctx.commit (ended.data accountsData) none).1 =
      .ok () := rfl
  rw [returned] at failed
  cases failed

end RockSolid
