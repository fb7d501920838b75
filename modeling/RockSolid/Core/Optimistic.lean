/-
Module: RockSolid.Core.Optimistic
Layer: Core
Purpose: The retrying builder of optimistic transactions (src/tx/optimistic.rs).
  A call runs its closure on a new transaction for every attempt; the closure
  is a program whose calls on the transaction are its steps, and what it has
  captured survives from one attempt to the next.  For the loop as a whole, the
  closure is one function.
Trusted boundary: human-reviewed model of the source
Main exports: OptimisticTransactionBuilder, ClosureAction, Closure, Attempt,
  Attempt.advance, Turn, endAttempt, Operation, AttemptEnv, Round, attemptRound,
  OptimisticTransactionBuilder.executeWithSnapshot,
  OptimisticTransactionBuilder.executeUnisolated
-/
import RockSolid.Core.OptimisticContext
import RockSolid.Core.Policies
import RockSolid.Foundation.NumberedLoop

namespace RockSolid

open Foundation

/-- `OptimisticTransactionBuilder`. -/
structure OptimisticTransactionBuilder (RTP : Type) where
  store : RocksDbCFOptimisticTxnStore
  retryPolicy : RTP

namespace OptimisticTransactionBuilder

/-- `OptimisticTransactionBuilder::new`. -/
def new (store : RocksDbCFOptimisticTxnStore) :
    OptimisticTransactionBuilder FixedRetry :=
  { store, retryPolicy := {} }

/-- `with_retry_policy`. -/
def withRetryPolicy {RTP NRTP : Type}
    (builder : OptimisticTransactionBuilder RTP) (policy : NRTP) :
    OptimisticTransactionBuilder NRTP :=
  { store := builder.store, retryPolicy := policy }

end OptimisticTransactionBuilder

/-- What a closure does next: a call on the borrowed transaction, or its return
together with the state in which a further attempt would find it. -/
inductive ClosureAction (Q R : Type) where
  | get (at_ : CfKey) (resume : Except RocksError (Option Bytes) → Q)
  | stage (op : WriteOp) (resume : Except RocksError Unit → Q)
  | finish (result : StoreResult R) (again : Q)

/-- An `FnMut(&Transaction) -> StoreResult<R>`. -/
abbrev Closure (Q R : Type) := Q → ClosureAction Q R

/-- One attempt: where the closure stands and its transaction. -/
structure Attempt (Q : Type) where
  program : Q
  txn : NativeTxn

variable {cmps : String → Comparator} {Q R RTP : Type}

/-- `db.transaction_opt` at the start of an attempt; `execute_with_snapshot`
asks for a snapshot and `execute_unisolated` does not. -/
def Attempt.begin (snapshot : Bool) (position : Nat) (program : Q) : Attempt Q :=
  { program, txn := NativeTxn.create snapshot position }

/-- One call of the closure on its transaction. -/
def Attempt.advance (closure : Closure Q R) (db : DbHandle) (data : Db cmps)
    (fault : Option Fault) (attempt : Attempt Q) : Option (Attempt Q) :=
  match closure attempt.program with
  | .get at_ resume =>
      let (answer, txn) := attempt.txn.get db data at_ fault
      some { program := resume answer, txn }
  | .stage op resume =>
      let (answer, txn) := attempt.txn.stage op fault
      some { program := resume answer, txn }
  | .finish _ _ => none

/-- What the loop does after an attempt. -/
inductive Turn (R : Type) where
  | again
  | done (result : StoreResult R)

/-- The body of the loop once the operation has returned, in round `i`: what the
loop does next, the policy, the transaction and the committed contents. -/
def endAttempt [RetryPolicy RTP] (data : Db cmps) (fault : Option Fault)
    (i : Nat) (operation : StoreResult R) (retryPolicy : RTP)
    (txn : NativeTxn) : Turn R × RTP × NativeTxn × Db cmps :=
  match operation with
  | .ok result =>
      match txn.commit data fault with
      | (.ok (), txn, data) => (.done (.ok result), retryPolicy, txn, data)
      | (.error e, txn, data) =>
          match RetryPolicy.shouldRetry (.rocksDb e) (i + 1) retryPolicy with
          | (.error e, retryPolicy) => (.done (.error e), retryPolicy, txn, data)
          | (.ok (), retryPolicy) => (.again, retryPolicy, txn, data)
  | .error e => (.done (.error e), retryPolicy, txn.free, data)

/-- An `FnMut(&Transaction) -> StoreResult<R>` as a function of all it can see:
what it has captured and everything else outside of the transaction. -/
abbrev Operation (W R : Type) :=
  W → NativeTxn → StoreResult R × W × NativeTxn

/-- What an attempt meets: where its transaction is created, what others have
done before the closure runs, and the contents and the answer its commit finds. -/
structure AttemptEnv (cmps : String → Comparator) (W : Type) where
  position : Nat
  meanwhile : W → W
  data : Db cmps
  fault : Option Fault

/-- What a round leaves behind: the policy as it found it, what the closure
returned, the transaction as the closure left it, and the transaction and the
contents at its end. -/
structure Round (cmps : String → Comparator) (R RTP : Type) where
  retryPolicy : RTP
  operation : StoreResult R
  left : NativeTxn
  txn : NativeTxn
  data : Db cmps

/-- The body of the loop in round `i`. -/
def attemptRound {W : Type} [RetryPolicy RTP] (snapshot : Bool)
    (operation : Operation W R) (env : Nat → AttemptEnv cmps W) :
    Body (W × RTP) (StoreResult R) (Round cmps R RTP) := fun i s =>
  let (world, retryPolicy) := s
  let txn := NativeTxn.create snapshot (env i).position
  let (result, world, left) := operation ((env i).meanwhile world) txn
  match endAttempt (env i).data (env i).fault i result retryPolicy left with
  | (.done returned, _, txn, data) =>
      (.inl returned, { retryPolicy, operation := result, left, txn, data })
  | (.again, next, txn, data) =>
      (.inr (world, next), { retryPolicy, operation := result, left, txn, data })

namespace OptimisticTransactionBuilder

variable {W : Type} [RetryPolicy RTP]
  (builder : OptimisticTransactionBuilder RTP) (operation : Operation W R)
  (env : Nat → AttemptEnv cmps W) (world : W) (fuel : Nat)

/-- `execute_with_snapshot`, for at most `fuel` rounds. -/
def executeWithSnapshot : Option (StoreResult R) × List (Round cmps R RTP) :=
  runFrom (attemptRound true operation env) fuel 0 (world, builder.retryPolicy)

/-- `execute_unisolated`, for at most `fuel` rounds. -/
def executeUnisolated : Option (StoreResult R) × List (Round cmps R RTP) :=
  runFrom (attemptRound false operation env) fuel 0 (world, builder.retryPolicy)

end OptimisticTransactionBuilder

end RockSolid
