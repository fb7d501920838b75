/-
Module: RockSolid.Proofs.ProgramAgreement
Layer: Proofs
Purpose: Whole client programs.  All stores over one open database agree on what a
  program returns and leaves; inside a transaction it returns the same, and a
  commit leaves the same, whatever the engine refuses on the way.
Trusted boundary: none
Main exports: stores_agree, contexts_refine_store, executeTransaction_refines_store
-/
import RockSolid.Core.Merge
import RockSolid.Proofs.ClientPrograms

namespace RockSolid

open Foundation

variable {cmps : String → Comparator} {R : Type}

/-- On any two stores over the same open database that serve the families of a
program, the program returns the same and leaves the same contents, whatever the
engine refuses on the way. -/
theorem stores_agree (store other : Store)
    (sameDb : other.access.db = store.access.db)
    (program : Program FamilyCall R) (served : program.Only store.Serves)
    (servedToo : program.Only other.Serves) (faults : Stream' (Option Fault))
    (data : Db cmps) :
    program.run other.receiver faults data =
      program.run store.receiver faults data := by
  obtain ⟨result, contents⟩ := store.simulates.run served faults (Eq.refl data)
  obtain ⟨otherResult, otherContents⟩ :=
    other.simulates.run servedToo faults (Eq.refl data)
  rw [sameDb] at otherResult otherContents
  exact Prod.ext (otherResult.trans result.symm)
    (otherContents.trans contents.symm)

/-- Writes a key of the default family, reads it, and copies what it finds to
another key. -/
def copyKey {C : Type → Type 1} (stands : (A : Type) → KeyCall A → C A) :
    Program C (StoreResult (Option Bytes)) :=
  .call (stands _ (.write "default" (.putRaw inferInstance "a" [1]))) fun _ =>
    .call (stands _ (.read "default" (.getRaw inferInstance "a"))) fun found =>
      match found with
      | .ok (some bytes) =>
          .call (stands _ (.write "default" (.putRaw inferInstance "b" bytes)))
            fun _ => .done found
      | _ => .done found

theorem copyKey_only {C : Type → Type 1}
    {stands : (A : Type) → KeyCall A → C A}
    {allowed : (A : Type) → C A → Prop}
    (default : ∀ A (call : KeyCall A), call.onFamily.cfName = "default" →
      allowed A (stands A call)) : (copyKey stands).Only allowed := by
  refine ⟨default _ _ rfl, fun _ => ⟨default _ _ rfl, fun found => ?_⟩⟩
  rcases found with e | (_ | bytes)
  · trivial
  · trivial
  · exact ⟨default _ _ rfl, fun _ => trivial⟩

/-- `copyKey` on a column-family store and on a default-family transactional one,
the engine refusing the second write. -/
theorem stores_agree_refused :
    let db : DbHandle := ⟨["default"], fun _ => defaultFullMerge⟩
    let store : Store := .cfStore ⟨db⟩
    let other : Store := .defaultTxnStore ⟨⟨db, ["default"]⟩⟩
    let copy := copyKey fun _ => KeyCall.onFamily
    let faults : Stream' (Option Fault) := fun n =>
      if n = 2 then some ⟨⟨"disk"⟩, 0⟩ else none
    copy.run other.receiver faults (Db.empty : ByteDb) =
      copy.run store.receiver faults Db.empty := by
  intro db store other copy faults
  apply stores_agree store other rfl copy
  · apply copyKey_only
    intro A call named
    exact ⟨rfl, by rw [FamilyCall.Served, named]; rfl⟩
  · apply copyKey_only
    intro A call named
    exact ⟨by rw [named]; rfl, by rw [FamilyCall.Served, named]; rfl⟩

section Contexts

/-- What each ending of a previewing pessimistic context leaves committed. -/
theorem TransactionContext.Previews.finish {owner : RocksDbCFTxnStore}
    {data seen : Db cmps} {ctx : TransactionContext}
    (previews : Previews owner data seen ctx) (ending : Ending)
    (dropFault : Option Fault) :
    (ctx.finish data ending dropFault).2 =
      if ending = .commit none then seen else data := by
  cases ending with
  | commit fault =>
      have checked := checkCompleted_of_running previews.running
      cases fault with
      | none =>
          simp only [TransactionContext.finish, commit, checked, if_true]
          exact previews.txn.view
      | some fault => simp [TransactionContext.finish, commit, checked,
          NativeTxn.commit]
  | rollback fault => rfl
  | drop => rfl

/-- What each ending of a previewing optimistic context leaves committed. -/
theorem OptimisticTransactionContext.Previews.finish
    {owner : RocksDbCFOptimisticTxnStore} {data seen : Db cmps}
    {ctx : OptimisticTransactionContext}
    (previews : Previews owner data seen ctx) (ending : Ending)
    (dropFault : Option Fault) :
    (ctx.finish data ending dropFault).2.2 =
      if ending = .commit none then seen else data := by
  cases ending with
  | commit fault =>
      have checked := checkCompleted_of_running previews.running
      cases fault with
      | none =>
          simp only [OptimisticTransactionContext.finish, commit, checked,
            if_true]
          exact previews.txn.view
      | some fault => simp [OptimisticTransactionContext.finish, commit, checked,
          NativeTxn.commit]
  | rollback fault => rfl
  | drop => rfl

/-- Run inside a context of either kind, a program returns what it returns on a
store, its own writes seen as if they had been committed; then a commit that the
engine accepts leaves what the store is left with, and every other ending leaves
the contents as they were. -/
theorem contexts_refine_store (store : Store) (owner : RocksDbCFTxnStore)
    (optimisticOwner : RocksDbCFOptimisticTxnStore)
    (sameDb : owner.db = store.access.db)
    (sameOptimisticDb : optimisticOwner.db = store.access.db)
    (program : Program FamilyCall R) (served : program.Only store.Serves)
    (servedInContext : program.Only (FamilyCall.Served owner.access))
    (servedInOptimistic : program.Only
      (FamilyCall.Served optimisticOwner.access))
    (withSnapshot : Bool) (position : Nat) (faults : Stream' (Option Fault))
    (data : Db cmps) :
    let direct := program.run store.receiver faults data
    let inContext := program.run (TransactionContext.receiver data) faults
      (.new owner)
    let inOptimistic := program.run (OptimisticTransactionContext.receiver data)
      faults (.new optimisticOwner withSnapshot position)
    inContext.1 = direct.1 ∧ inOptimistic.1 = direct.1 ∧
      ∀ ending dropFault,
        let left := if ending = .commit none then direct.2 else data
        (inContext.2.finish data ending dropFault).2 = left ∧
          (inOptimistic.2.finish data ending dropFault).2.2 = left := by
  intro direct inContext inOptimistic
  obtain ⟨result, contents⟩ := store.simulates.run served faults (Eq.refl data)
  obtain ⟨sameResult, previews⟩ :=
    (TransactionContext.simulates owner data).run servedInContext faults
      (.begun owner data)
  obtain ⟨sameOptimisticResult, optimisticPreviews⟩ :=
    (OptimisticTransactionContext.simulates optimisticOwner data).run
      servedInOptimistic faults
      (.begun optimisticOwner withSnapshot position data)
  rw [sameDb] at sameResult previews
  rw [sameOptimisticDb] at sameOptimisticResult optimisticPreviews
  refine ⟨sameResult.trans result.symm, sameOptimisticResult.trans result.symm,
    ?_⟩
  intro ending dropFault left
  have direct_left : left = if ending = .commit none then
      (program.run store.access.db.receiver faults data).2 else data := by
    rw [← contents]
  exact ⟨(previews.finish ending dropFault).trans direct_left.symm,
    (optimisticPreviews.finish ending dropFault).trans direct_left.symm⟩

/-- `copyKey` on a store and in both contexts. -/
theorem contexts_refine_store_copied :
    let db : DbHandle := ⟨["default"], fun _ => defaultFullMerge⟩
    let store : Store := .cfStore ⟨db⟩
    let copy := copyKey fun _ => KeyCall.onFamily
    let met : Stream' (Option Fault) := Stream'.const none
    let direct := copy.run store.receiver met (Db.empty : ByteDb)
    let inContext := copy.run (TransactionContext.receiver (Db.empty : ByteDb))
      met (.new ⟨db, ["default"]⟩)
    let inOptimistic := copy.run
      (OptimisticTransactionContext.receiver (Db.empty : ByteDb)) met
      (.new ⟨db, ["default"]⟩ true 0)
    inContext.1 = direct.1 ∧ inOptimistic.1 = direct.1 ∧
      ∀ ending dropFault,
        let left := if ending = .commit none then direct.2 else Db.empty
        (inContext.2.finish Db.empty ending dropFault).2 = left ∧
          (inOptimistic.2.finish Db.empty ending dropFault).2.2 = left := by
  intro db store copy met
  apply contexts_refine_store store ⟨db, ["default"]⟩ ⟨db, ["default"]⟩ rfl rfl
    copy
  · apply copyKey_only
    intro A call named
    exact ⟨rfl, by rw [FamilyCall.Served, named]; rfl⟩
  · apply copyKey_only
    intro A call named
    rw [FamilyCall.Served, named]
    rfl
  · apply copyKey_only
    intro A call named
    rw [FamilyCall.Served, named]
    rfl

end Contexts

section Closures

variable {Q : Type}

/-- What the end of `execute_transaction` makes of a previewing transaction. -/
theorem NativeTxn.Previews.finishTransaction {data seen : Db cmps}
    {txn : NativeTxn} (previews : txn.Previews data seen) (fault : Option Fault)
    (result : StoreResult Q) :
    let finished := RocksDbCFTxnStore.finishTransaction data fault result txn
    (finished.1, finished.2.2) = atomically data seen result fault ∧
      ReleasedOnce .free finished.2.1.events := by
  intro finished
  have live := previews.live
  cases result with
  | ok value =>
      have events : finished.2.1.events =
          (txn.events ++ [.commit]) ++ [.free] := by
        cases fault <;> rfl
      refine ⟨?_, events ▸ releasedOnce_concat (by simp [live])⟩
      cases fault with
      | none => exact congrArg (Prod.mk _) previews.view
      | some refusal => rfl
  | error e =>
      have events : finished.2.1.events =
          (txn.events ++ [.rollback]) ++ [.free] := by
        cases fault <;> rfl
      exact ⟨rfl, events ▸ releasedOnce_concat (by simp [live])⟩

/-- `execute_transaction` is a program on a store made atomic: it returns what the
program returns there and leaves what it leaves there, or an error and the contents
as they were; the error is the program's own, or that of the refused commit.  The
native transaction is released once on every way out. -/
theorem executeTransaction_refines_store (store : Store)
    (owner : RocksDbCFTxnStore) (sameDb : owner.db = store.access.db)
    (program : Program KeyCall (StoreResult Q))
    (served : program.Only fun _ call => store.Serves _ call.onFamily)
    (servedInTxn : program.Only fun _ call =>
      FamilyCall.Served owner.access _ call.onFamily)
    (faults : Stream' (Option Fault)) (fault : Option Fault) (data : Db cmps) :
    let direct := program.run
      (store.receiver.along fun _ => KeyCall.onFamily) faults data
    let executed := RocksDbCFTxnStore.executeTransaction data
      (program.run (owner.inTxnReceiver data) faults) fault
    (executed.1, executed.2.2) = atomically data direct.2 direct.1 fault ∧
      ReleasedOnce .free executed.2.1.events := by
  intro direct executed
  have onStore : (store.receiver.along fun _ => KeyCall.onFamily).Simulates
      (store.access.db.receiver.along fun _ => KeyCall.onFamily)
      (fun _ call => store.Serves _ call.onFamily) (Eq (α := Db cmps)) :=
    store.simulates.along _
  obtain ⟨result, contents⟩ := onStore.run served faults (Eq.refl data)
  have begun : RocksDbCFTxnStore.beginTransaction.Previews data data :=
    .begun false 0
  obtain ⟨sameResult, previews⟩ :=
    (owner.inTxn_simulates data).run servedInTxn faults begun
  rw [sameDb, ← result] at sameResult
  rw [sameDb, ← contents] at previews
  have finished := previews.finishTransaction fault
    (program.run (owner.inTxnReceiver data) faults
      RocksDbCFTxnStore.beginTransaction).1
  refine ⟨finished.1.trans ?_, finished.2⟩
  exact congrArg (atomically data direct.2 · fault) sameResult

/-- `copyKey` on a store and in a transaction whose commit the engine refuses. -/
theorem executeTransaction_refines_store_refused :
    let db : DbHandle := ⟨["default"], fun _ => defaultFullMerge⟩
    let store : Store := .cfStore ⟨db⟩
    let owner : RocksDbCFTxnStore := ⟨db, ["default"]⟩
    let copy := copyKey fun _ call => call
    let refusal : Option Fault := some ⟨⟨"Busy"⟩, 0⟩
    let direct := copy.run (store.receiver.along fun _ => KeyCall.onFamily)
      (Stream'.const none) (Db.empty : ByteDb)
    let executed := RocksDbCFTxnStore.executeTransaction (Db.empty : ByteDb)
      (copy.run (owner.inTxnReceiver (Db.empty : ByteDb)) (Stream'.const none))
      refusal
    (executed.1, executed.2.2) =
        atomically Db.empty direct.2 direct.1 refusal ∧
      ReleasedOnce .free executed.2.1.events := by
  intro db store owner copy refusal
  apply executeTransaction_refines_store store owner rfl copy
  · apply copyKey_only
    intro A call named
    exact ⟨rfl, by rw [FamilyCall.Served, named]; rfl⟩
  · apply copyKey_only
    intro A call named
    rw [FamilyCall.Served, named]
    rfl

end Closures

end RockSolid
