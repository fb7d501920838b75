/-
Module: RockSolid.Proofs.OptimisticLifecycle
Layer: Proofs
Purpose: The lifecycle and the atomicity of an optimistic context.  A run keeps
  the transaction live and stages exactly what the accepted calls asked for;
  every ending releases the transaction once, and only a commit that the engine
  accepts changes the committed contents.
Trusted boundary: none
Main exports: OptimisticTransactionContext.Holds, Holds.after_run,
  Holds.after_ending,
  OptimisticTransactionContext.run_atomic
-/
import RockSolid.Proofs.OptimisticCalls

namespace RockSolid

open Foundation

namespace OptimisticTransactionContext

variable {cmps : String → Comparator}

/-- The context is running over its store with a live native transaction that
has staged the given writes. -/
structure Holds (store : RocksDbCFOptimisticTxnStore) (ops : List WriteOp)
    (ctx : OptimisticTransactionContext) : Prop where
  store : ctx.store = store
  running : ctx.completed = false
  staged : ctx.txn.staged = ops
  live : .free ∉ ctx.txn.events

variable {store : RocksDbCFOptimisticTxnStore} {ops : List WriteOp}
  {ctx : OptimisticTransactionContext}

theorem Holds.fresh (store : RocksDbCFOptimisticTxnStore) (withSnapshot : Bool)
    (position : Nat) : Holds store [] (new store withSnapshot position) where
  store := rfl
  running := rfl
  staged := rfl
  live := List.not_mem_nil

/-- A write the engine accepts is appended to the staged ones. -/
theorem Holds.stage_ok (holds : Holds store ops ctx) (op : WriteOp) :
    (stage op none ctx).1 = .ok () ∧
      Holds store (ops ++ [op]) (stage op none ctx).2 := by
  refine ⟨rfl, holds.store, holds.running, ?_, ?_⟩
  · simp [stage, onTxn, Method.zoom, NativeTxn.stage, holds.staged]
  · simp [stage, onTxn, Method.zoom, NativeTxn.stage, holds.live]

/-- A write the engine refuses changes nothing that is staged. -/
theorem Holds.stage_error (holds : Holds store ops ctx) (op : WriteOp)
    (fault : Fault) :
    (stage op (some fault) ctx).1 = .error (.rocksDb fault.error) ∧
      Holds store ops (stage op (some fault) ctx).2 := by
  refine ⟨rfl, holds.store, holds.running, holds.staged, ?_⟩
  simp [stage, onTxn, Method.zoom, NativeTxn.stage, holds.live]

/-- A staging call stages the write it names when it returns `Ok`, and nothing
when it returns an error. -/
theorem Holds.staging (holds : Holds store ops ctx) (fault : Option Fault)
    (call : StagingCall) :
    (∃ op, call.operation = some op ∧ (stagingCall fault call ctx).1 = .ok () ∧
        Holds store (ops ++ [op]) (stagingCall fault call ctx).2) ∨
      ∃ e, (stagingCall fault call ctx).1 = .error e ∧
        Holds store ops (stagingCall fault call ctx).2 := by
  rcases staging_writes call fault ctx with ⟨e, failed⟩ | ⟨op, named, same⟩
  · rw [failed]
    exact .inr ⟨e, rfl, holds⟩
  · rw [same]
    cases fault with
    | none => exact .inl ⟨op, named, holds.stage_ok op⟩
    | some fault => exact .inr ⟨_, holds.stage_error op fault⟩

theorem Holds.reading (holds : Holds store ops ctx) {A : Type}
    (data : Db cmps) (fault : Option Fault) (call : ReadingCall A) :
    Holds store ops (readingCall data fault call ctx).2 := by
  have reads := reading_onlyReads data call fault ctx
  exact ⟨reads.store.trans holds.store, reads.completed.trans holds.running,
    reads.txn.staged.trans holds.staged, reads.txn.held holds.live⟩

theorem Holds.after_step (holds : Holds store ops ctx) (step : ContextStep cmps) :
    Holds store (ops ++ ctx.acceptedOp step) (ctx.after step) := by
  rcases step with ⟨data, fault, call⟩
  cases call with
  | staging call =>
      rcases holds.staging fault call with
        ⟨op, named, accepted, next⟩ | ⟨e, refused, next⟩
      · have one : ctx.acceptedOp ⟨data, fault, .staging call⟩ = [op] := by
          simp [acceptedOp, accepted, named]
        rw [one]
        exact next
      · have none : ctx.acceptedOp ⟨data, fault, .staging call⟩ = [] := by
          simp [acceptedOp, refused]
        rw [none, List.append_nil]
        exact next
  | reading call =>
      have none : ctx.acceptedOp ⟨data, fault, .reading call⟩ = [] := rfl
      rw [none, List.append_nil]
      exact holds.reading data fault call

/-- After a run exactly the accepted writes are staged, in call order. -/
theorem Holds.after_run (holds : Holds store ops ctx)
    (steps : List (ContextStep cmps)) :
    Holds store (ops ++ acceptedOps ctx steps) (ctx.run steps) := by
  induction steps generalizing ops ctx with
  | nil => simpa [acceptedOps, run] using holds
  | cons step steps inductionHypothesis =>
      have next := inductionHypothesis (holds.after_step step)
      rwa [List.append_assoc] at next

/-- A read sees the committed contents with the staged writes applied, as a
fresh context would see them had they been committed. -/
theorem Holds.reading_eq (holds : Holds store ops ctx) {A : Type}
    (data : Db cmps) (fault : Option Fault) (call : ReadingCall A)
    (withSnapshot : Bool) (position : Nat) :
    (readingCall data fault call ctx).1 =
      (readingCall (data.applyAll ops) fault call
        (new store withSnapshot position)).1 := by
  have sees : SeesSame data (data.applyAll ops) ctx
      (new store withSnapshot position) := by
    refine ⟨holds.store, holds.running, ?_⟩
    rw [NativeTxn.view, holds.staged]
    rfl
  exact (reading_agree call fault sees).1

/-- What the three endings do to the transaction and to the contents. -/
theorem Holds.after_ending (holds : Holds store ops ctx) (data : Db cmps)
    (ending : Ending) (dropFault : Option Fault) :
    let finished := ctx.finish data ending dropFault
    ReleasedOnce .free finished.2.1.txn.events ∧
      (CommitOk ending finished.1 ↔ ending = .commit none) ∧
      (CommitOk ending finished.1 → finished.2.2 = data.applyAll ops) ∧
      (¬ CommitOk ending finished.1 → finished.2.2 = data) := by
  have checked := checkCompleted_of_running holds.running
  cases ending with
  | commit fault =>
      have events : (ctx.finish data (.commit fault) dropFault).2.1.txn.events =
          (ctx.txn.events ++ [.commit]) ++ [.free] := by
        cases fault <;>
          simp [finish, commit, checked, NativeTxn.commit, drop]
      refine ⟨?_, ?_, ?_, ?_⟩
      · rw [events]
        exact releasedOnce_concat (by simp [holds.live])
      · cases fault <;> simp [finish, commit, checked, NativeTxn.commit,
          CommitOk, Except.mapError]
      · cases fault <;> simp [finish, commit, checked, NativeTxn.commit,
          CommitOk, holds.staged, Except.mapError]
      · cases fault <;> simp [finish, commit, checked, NativeTxn.commit,
          CommitOk, Except.mapError]
  | rollback fault =>
      have events :
          (ctx.finish data (.rollback fault) dropFault).2.1.txn.events =
            (ctx.txn.events ++ [.rollback]) ++ [.free] := by
        cases fault <;> simp [finish, rollback, checked, NativeTxn.rollback,
          NativeTxn.free, drop]
      refine ⟨?_, by simp [CommitOk], by simp [CommitOk], fun _ => rfl⟩
      rw [events]
      exact releasedOnce_concat (by simp [holds.live])
  | drop =>
      have events : (ctx.finish data .drop dropFault).2.1.txn.events =
          (ctx.txn.events ++ [.rollback]) ++ [.free] := by
        cases dropFault <;> simp [finish, drop, holds.running,
          NativeTxn.rollback, NativeTxn.free]
      refine ⟨?_, by simp [CommitOk], by simp [CommitOk], fun _ => rfl⟩
      rw [events]
      exact releasedOnce_concat (by simp [holds.live])

/-- Any run, any ending: the native transaction is released once and then left
alone; the committed contents change only by a commit that returns `Ok`, which it
does exactly when the engine accepts it, and then
by the writes of the accepted staging calls in call order; a staging call that
fails leaves the staged writes as they were; and a read answers as a fresh
context does over the contents with exactly the writes accepted so far. -/
theorem run_atomic (store : RocksDbCFOptimisticTxnStore) (withSnapshot : Bool)
    (position : Nat) (steps : List (ContextStep cmps)) (data : Db cmps)
    (ending : Ending) (dropFault : Option Fault) :
    let fresh := new store withSnapshot position
    let ctx := fresh.run steps
    let accepted := acceptedOps fresh steps
    let finished := ctx.finish data ending dropFault
    ReleasedOnce .free finished.2.1.txn.events ∧
      (CommitOk ending finished.1 ↔ ending = .commit none) ∧
      (CommitOk ending finished.1 → finished.2.2 = data.applyAll accepted) ∧
      (¬ CommitOk ending finished.1 → finished.2.2 = data) ∧
      (∀ fault call e, (stagingCall fault call ctx).1 = .error e →
        (stagingCall fault call ctx).2.txn.staged = ctx.txn.staged) ∧
      ∀ (now : Db cmps) (fault : Option Fault) (A : Type) (call : ReadingCall A),
        (readingCall now fault call ctx).1 =
          (readingCall (now.applyAll accepted) fault call fresh).1 := by
  intro fresh ctx accepted finished
  have holds : Holds store accepted ctx := by
    simpa using (Holds.fresh store withSnapshot position).after_run steps
  obtain ⟨released, accepts, applied, unchanged⟩ := holds.after_ending data ending dropFault
  refine ⟨released, accepts, applied, unchanged, ?_, ?_⟩
  · intro fault call e refused
    rcases holds.staging fault call with ⟨op, -, ok, -⟩ | ⟨e', -, next⟩
    · rw [ok] at refused
      cases refused
    · exact next.staged.trans holds.staged.symm
  · intro now fault A call
    exact holds.reading_eq now fault call withSnapshot position

end OptimisticTransactionContext

end RockSolid
