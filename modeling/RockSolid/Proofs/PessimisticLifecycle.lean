/-
Module: RockSolid.Proofs.PessimisticLifecycle
Layer: Proofs
Purpose: The lifecycle of the native transaction of a pessimistic context.  Until
  the ending the transaction is live; which endings release it exactly once, with
  the `Drop` that follows, is stated for every run.
Trusted boundary: none
Main exports: TransactionContext.Live, Live.run,
  TransactionContext.releasedOnce_iff
-/
import RockSolid.Proofs.PessimisticCalls

namespace RockSolid

open Foundation

namespace TransactionContext

variable {cmps : String → Comparator}

/-- The flag is unset and the native transaction was not released. -/
structure Live (ctx : TransactionContext) : Prop where
  running : ctx.completed = false
  held : .free ∉ ctx.txn.events

theorem Live.new (store : RocksDbCFTxnStore) : Live (new store) where
  running := rfl
  held := List.not_mem_nil

theorem Live.stagingCall {self : TransactionContext} (live : Live self)
    (fault : Option Fault) (call : StagingCall) :
    Live (stagingCall fault call self).2 := by
  rcases staging_writes call fault self with ⟨e, failed⟩ | ⟨op, -, same⟩
  · rw [failed]
    exact live
  · rw [same]
    constructor
    · exact live.running
    · have kept := live.held
      simp [stage, onTxn, Method.zoom, kept]

theorem Live.readingCall {self : TransactionContext} (live : Live self)
    {A : Type} (data : Db cmps) (fault : Option Fault) (call : ReadingCall A) :
    Live (readingCall data fault call self).2 := by
  have reads := reading_onlyReads data call fault self
  exact ⟨reads.completed.trans live.running, reads.txn.held live.held⟩

theorem Live.after {self : TransactionContext} (live : Live self)
    (step : ContextStep cmps) : Live (self.after step) := by
  rcases step with ⟨data, fault, call⟩
  cases call with
  | staging call => exact live.stagingCall fault call
  | reading call => exact live.readingCall data fault call

/-- No sequence of calls ends the life of the transaction. -/
theorem Live.run {self : TransactionContext} (live : Live self)
    (steps : List (ContextStep cmps)) : Live (self.run steps) := by
  induction steps generalizing self with
  | nil => exact live
  | cons step steps inductionHypothesis =>
      exact inductionHypothesis (live.after step)

section Endings

variable {self : TransactionContext} (live : Live self) (data : Db cmps)
  (dropFault : Option Fault)

include live

theorem Live.drop_releases :
    ReleasedOnce .free (self.drop dropFault).txn.events := by
  have dropped : (self.drop dropFault).txn.events =
      (self.txn.events ++ [.rollback]) ++ [.free] := by
    simp [drop, live.running]
  rw [dropped]
  exact releasedOnce_concat (by simp [live.held])

theorem Live.finish_commit (fault : Option Fault) :
    (self.finish data (.commit fault) dropFault).1.txn.events =
      self.txn.events ++ .commit :: .free ::
        (if fault.isSome then [.rollback, .free] else []) := by
  have checked := checkCompleted_of_running live.running
  cases fault <;>
    simp [finish, commit, checked, NativeTxn.commit, drop, live.running]

/-- A commit releases the transaction in the native call; only a commit that
succeeds tells `Drop` about it. -/
theorem Live.commit_releases_iff (fault : Option Fault) :
    ReleasedOnce .free
        (self.finish data (.commit fault) dropFault).1.txn.events ↔
      fault = none := by
  rw [live.finish_commit]
  cases fault with
  | none =>
      have released : self.txn.events ++ [.commit, .free] =
          (self.txn.events ++ [.commit]) ++ [NativeEvent.free] := by simp
      refine iff_of_true ?_ rfl
      rw [if_neg (by simp), released]
      exact releasedOnce_concat (by simp [live.held])
  | some fault =>
      have reused : self.txn.events ++ .commit :: .free :: [.rollback, .free] =
          (self.txn.events ++ [.commit]) ++
            .free :: NativeEvent.rollback :: [.free] := by simp
      refine iff_of_false ?_ (by simp)
      rw [if_pos (by simp), reused]
      exact not_releasedOnce_of_reuse _

/-- A rollback only borrows the transaction; the flag it sets when it succeeds
keeps `Drop` from releasing it. -/
theorem Live.rollback_releases_iff (fault : Option Fault) :
    ReleasedOnce .free
        (self.finish data (.rollback fault) dropFault).1.txn.events ↔
      fault ≠ none := by
  have checked := checkCompleted_of_running live.running
  cases fault with
  | none =>
      refine iff_of_false (not_releasedOnce_of_leak ?_) (by simp)
      simp [finish, rollback, checked, NativeTxn.rollback, drop, live.held]
  | some fault =>
      have stillLive : Live (rollback (some fault) self).2 := by
        constructor
        · simp [rollback, checked, NativeTxn.rollback, live.running]
        · simp [rollback, checked, NativeTxn.rollback, live.held]
      exact iff_of_true (stillLive.drop_releases dropFault) (by simp)

end Endings

/-- Over a whole run the native transaction is released exactly once, and left
alone afterwards, exactly when the run ends in a plain drop, in a commit that the
engine accepts, or in a rollback that the engine refuses. -/
theorem releasedOnce_iff (store : RocksDbCFTxnStore)
    (steps : List (ContextStep cmps)) (data : Db cmps) (ending : Ending)
    (dropFault : Option Fault) :
    ReleasedOnce .free
        (((new store).run steps).finish data ending dropFault).1.txn.events ↔
      ending = .drop ∨ ending = .commit none ∨
        ∃ fault, ending = .rollback (some fault) := by
  have live : Live ((new store).run steps) := (Live.new store).run steps
  cases ending with
  | drop => exact iff_of_true (live.drop_releases dropFault) (.inl rfl)
  | commit fault =>
      rw [live.commit_releases_iff]
      simp
  | rollback fault =>
      rw [live.rollback_releases_iff]
      cases fault <;> simp

/-- One write is staged and the engine refuses the commit: the transaction is
rolled back and freed after the commit has freed it.  With a rollback that
succeeds it is never freed. -/
theorem refused_commit_releases_twice :
    let store : RocksDbCFTxnStore :=
      { db := { columnFamilies := ["default"], fullMerge := fun _ _ _ _ => none }
        cfNames := ["default"] }
    let step : ContextStep (fun _ => compare) :=
      { data := Db.empty, fault := none
        call := .staging (.setRaw (K := Bytes) ⟨id⟩ [97] [49]) }
    let self := (new store).run [step]
    let refused := self.finish step.data (.commit (some ⟨⟨"IO error"⟩, 0⟩)) none
    let rolledBack := self.finish step.data (.rollback none) none
    refused.1.txn.events =
        [.stage (.put ⟨"default", [97]⟩ [49]), .commit, .free, .rollback, .free] ∧
      ¬ ReleasedOnce .free refused.1.txn.events ∧
      rolledBack.1.txn.events =
        [.stage (.put ⟨"default", [97]⟩ [49]), .rollback] ∧
      ¬ ReleasedOnce .free rolledBack.1.txn.events :=
  ⟨rfl, not_releasedOnce_of_reuse [_, _], rfl,
    not_releasedOnce_of_leak (by decide)⟩

end TransactionContext

end RockSolid
