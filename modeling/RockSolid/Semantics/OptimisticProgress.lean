/-
Module: RockSolid.Semantics.OptimisticProgress
Layer: Semantics
Purpose: What lets calls of `execute_with_snapshot` come to an end (src/tx/optimistic.rs,
  src/tx/policies.rs): an engine whose validation alone decides about a commit,
  and closures that make a bounded number of calls.
Trusted boundary: human-reviewed model of the concurrent use; that a commit without
  conflict is accepted is an assumption about the engine
Main exports: BoundedCalls, FailedItself, OptimisticSystem.validatingStep?,
  OptimisticSystem.validatingRun?
-/
import RockSolid.Semantics.OptimisticSystem

namespace RockSolid

/-- The closure, wherever it stands, makes no more calls than `calls` says before
it returns, and starts again within `most`. -/
structure BoundedCalls {Q R : Type} (closure : Closure Q R) (calls : Q → Nat)
    (most : Nat) : Prop where
  get : ∀ q at_ resume, closure q = .get at_ resume →
    ∀ answer, calls (resume answer) < calls q
  stage : ∀ q op resume, closure q = .stage op resume →
    ∀ answer, calls (resume answer) < calls q
  finish : ∀ q result again, closure q = .finish result again →
    calls again ≤ most

/-- The error was returned by the closure of the client, in an attempt made over
committed states. -/
def FailedItself (db : DbHandle) (base : ByteDb) (closure : Closure Q R)
    (log : CommitLog) (e : StoreError) : Prop :=
  ∃ start attempt again, Follows db base closure log start attempt ∧
    closure attempt.program = .finish (.error e) again

/-- Others commit a batch. -/
def SystemStep.isPlain {Client : Type} : SystemStep Client → Bool
  | .plain _ => true
  | _ => false

def LogEntry.isPlain {Client Q R : Type} : LogEntry Client Q R → Bool
  | .plain _ => true
  | _ => false

namespace OptimisticSystem

variable {Client Q R RTP : Type}

/-- The step refuses the commit of a transaction that does not conflict. -/
def refusesNeedlessly (closure : Client → Closure Q R)
    (s : OptimisticSystem Client Q R RTP) : SystemStep Client → Bool
  | .act client (some _) =>
      match (s.callers client).phase with
      | .running _ attempt =>
          match closure client attempt.program with
          | .finish operation _ =>
              operation.isOk && !decide (attempt.txn.Conflicts s.commitLog)
          | _ => false
      | _ => false
  | _ => false

variable [DecidableEq Client] [RetryPolicy RTP]

/-- A step with an engine that accepts every commit that does not conflict. -/
def validatingStep? (db : DbHandle) (base : ByteDb)
    (closure : Client → Closure Q R) (s : OptimisticSystem Client Q R RTP)
    (step : SystemStep Client) : Option (OptimisticSystem Client Q R RTP) :=
  if s.refusesNeedlessly closure step then none
  else step? db base closure s step

/-- Several of them, when they are possible. -/
def validatingRun? (db : DbHandle) (base : ByteDb)
    (closure : Client → Closure Q R) (s : OptimisticSystem Client Q R RTP)
    (steps : List (SystemStep Client)) :
    Option (OptimisticSystem Client Q R RTP) :=
  steps.foldlM (validatingStep? db base closure) s

end OptimisticSystem

end RockSolid
