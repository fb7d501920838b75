/-
Module: RockSolid.Semantics.RetryLoop
Layer: Semantics
Purpose: What is meant by the retrying calls of the optimistic builder stopping
  for the right reason: when a round goes on, how the last round ends the call,
  and what a bounded policy makes of it.
Trusted boundary: a statement of intent
Main exports: ExecuteMethod, OptimisticTransactionBuilder.execute, GoesOn, Ends,
  Round.Closes, RunsClosure, AsksInTurn, Outcome, FixedRetry.gaveUp
-/
import RockSolid.Core.Optimistic

namespace RockSolid

open Foundation

/-- `execute_with_snapshot` or `execute_unisolated`. -/
inductive ExecuteMethod where
  | withSnapshot
  | unisolated
deriving DecidableEq, Repr

variable {cmps : String → Comparator} {W R RTP : Type}

/-- The call, for at most `fuel` rounds. -/
def OptimisticTransactionBuilder.execute [RetryPolicy RTP]
    (method : ExecuteMethod) (builder : OptimisticTransactionBuilder RTP)
    (operation : Operation W R) (env : Nat → AttemptEnv cmps W) (world : W)
    (fuel : Nat) : Option (StoreResult R) × List (Round cmps R RTP) :=
  match method with
  | .withSnapshot => builder.executeWithSnapshot operation env world fuel
  | .unisolated => builder.executeUnisolated operation env world fuel

/-- A round with number `i` that is followed by another one: its closure returned
`Ok`, its commit failed and left the contents alone, and the policy, asked with
this failure and the number of the attempt, answered `Ok`. -/
def GoesOn [RetryPolicy RTP] (env : Nat → AttemptEnv cmps W) (i : Nat)
    (round : Round cmps R RTP) (next : RTP) : Prop :=
  (∃ result, round.operation = .ok result) ∧
    round.data = (env i).data ∧
    ∃ fault, (env i).fault = some fault ∧
      RetryPolicy.shouldRetry (.rocksDb fault.error) (i + 1) round.retryPolicy =
        (.ok (), next)

/-- How the last round, with number `i`, ends the call. -/
inductive Ends [RetryPolicy RTP] (env : Nat → AttemptEnv cmps W) (i : Nat)
    (round : Round cmps R RTP) : StoreResult R → Prop where
  /-- The commit succeeded. -/
  | committed {result : R} (succeeded : round.operation = .ok result)
      (accepted : (env i).fault = none)
      (applied : round.data = (env i).data.applyAll round.left.staged) :
      Ends env i round (.ok result)
  /-- The closure failed; the transaction was freed and not committed. -/
  | failed {e : StoreError} (returned : round.operation = .error e)
      (freed : round.txn = round.left.free)
      (untouched : round.data = (env i).data) : Ends env i round (.error e)
  /-- The commit failed, and the policy stopped the call. -/
  | stopped {result : R} {fault : Fault} {e : StoreError}
      (succeeded : round.operation = .ok result)
      (refused : (env i).fault = some fault)
      (untouched : round.data = (env i).data)
      (answered : (RetryPolicy.shouldRetry (.rocksDb fault.error) (i + 1)
        round.retryPolicy).1 = .error e) : Ends env i round (.error e)

/-- The transaction of a round with number `i` ends as the closure left it: it is
committed when the closure returned `Ok`, and freed otherwise. -/
def Round.Closes (env : Nat → AttemptEnv cmps W) (i : Nat)
    (round : Round cmps R RTP) : Prop :=
  (round.txn, round.data) =
    match round.operation with
    | .ok _ => (round.left.commit (env i).data (env i).fault).2
    | .error _ => (round.left.free, (env i).data)

/-- Each round, the first having number `i`, runs the closure once on a transaction
created for it, in the world that the round before left and others have changed
since; and it ends this transaction. -/
inductive RunsClosure (snapshot : Bool) (operation : Operation W R)
    (env : Nat → AttemptEnv cmps W) : Nat → W → List (Round cmps R RTP) → Prop where
  | done {i : Nat} {world : W} : RunsClosure snapshot operation env i world []
  | round {i : Nat} {world after : W} {round : Round cmps R RTP}
      {rounds : List (Round cmps R RTP)}
      (ran : operation ((env i).meanwhile world)
        (NativeTxn.create snapshot (env i).position) =
          (round.operation, after, round.left))
      (closes : round.Closes env i)
      (later : RunsClosure snapshot operation env (i + 1) after rounds) :
      RunsClosure snapshot operation env i world (round :: rounds)

/-- Every round but the last one goes on, with the policy the next round finds. -/
def AsksInTurn [RetryPolicy RTP] (env : Nat → AttemptEnv cmps W)
    (rounds : List (Round cmps R RTP)) : Prop :=
  ∀ before round next after, rounds = before ++ round :: next :: after →
    GoesOn env before.length round next.retryPolicy

/-- What a call returns that stops after `bound` failed commits: the result of
the last closure when its commit succeeded, the error of the last closure, and
otherwise the error of the policy, after exactly as many attempts. -/
structure Outcome (env : Nat → AttemptEnv cmps W) (bound : Nat)
    (gaveUp : Fault → StoreError) (returned : StoreResult R)
    (before : List (Round cmps R RTP)) (last : Round cmps R RTP) : Prop where
  bounded : before.length + 1 ≤ bound
  ok_iff : ∀ result, returned = .ok result ↔
    last.operation = .ok result ∧ (env before.length).fault = none
  committed : (∃ result, returned = .ok result) →
    last.data = (env before.length).data.applyAll last.left.staged
  failed : ∀ e, last.operation = .error e → returned = .error e ∧
    last.txn = last.left.free ∧ last.data = (env before.length).data
  exhausted : ∀ result fault, last.operation = .ok result →
    (env before.length).fault = some fault →
      returned = .error (gaveUp fault) ∧ before.length + 1 = bound
  earlier : ∀ index round, before[index]? = some round →
    (∃ result, round.operation = .ok result) ∧
      ∃ fault, (env index).fault = some fault

/-- The error of `FixedRetry` when it gives up. -/
def FixedRetry.gaveUp (policy : FixedRetry) (fault : Fault) : StoreError :=
  .other s!"Optimistic transaction failed after {policy.maxAttempts} attempts. Last error: {(StoreError.rocksDb fault.error).display}"

end RockSolid
