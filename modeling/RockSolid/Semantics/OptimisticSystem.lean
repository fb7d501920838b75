/-
Module: RockSolid.Semantics.OptimisticSystem
Layer: Semantics
Purpose: Any number of callers of `execute_with_snapshot` on one database, mixed
  with plain committed batches.  A step of the system is one plain batch, the
  begin of an attempt, one call of a closure, or the end of an attempt with
  what the loop makes of it.
Trusted boundary: human-reviewed model of the concurrent use; commit validation
  is documented behaviour of RocksDB
Main exports: LogEntry, Phase, Caller, OptimisticSystem, OptimisticSystem.step?,
  Reachable, Follows, RanAlone, LogEntry.Justified, LogEntry.StagesItsReads, ShowsUnstaged
-/
import RockSolid.Core.Optimistic
import RockSolid.Engine.CommitLog
import RockSolid.Foundation.SerialHistory

namespace RockSolid

open Foundation KeyedStore

section Attempts

variable {Q R : Type} (db : DbHandle) (closure : Closure Q R)

/-- One call of the closure over the given committed contents. -/
def Advances (data : ByteDb) (attempt next : Attempt Q) : Prop :=
  ∃ fault, attempt.advance closure db data fault = some next

/-- The key the next call of the closure reads. -/
def Attempt.readsKey (attempt : Attempt Q) : Option CfKey :=
  match closure attempt.program with
  | .get at_ _ => some at_
  | _ => none

/-- The attempt was begun at a position of the log, and each of its calls was made
over a state committed since. -/
def Follows (db : DbHandle) (base : ByteDb) (closure : Closure Q R)
    (log : CommitLog) (start : Q) (attempt : Attempt Q) : Prop :=
  ∃ position trace, position ≤ log.length ∧
    TracedRun (Advances db closure) (Attempt.readsKey closure)
      (Attempt.begin true position start) trace attempt ∧
    ∀ entry ∈ trace, ∃ n, position ≤ n ∧ n ≤ log.length ∧
      entry.1 = stateAt base log n

/-- The closure, run alone over unchanging contents, makes the calls recorded in
the transaction and returns the result. -/
def RanAlone (data : ByteDb) (start : Q) (txn : NativeTxn) (result : R) : Prop :=
  ∃ position finished again,
    Relation.ReflTransGen (Advances db closure data)
      (Attempt.begin true position start) finished ∧
    finished.txn = txn ∧ closure finished.program = .finish (.ok result) again

end Attempts

/-- Every value the engine returned for a key that was not staged before is the
value of the key in the given contents. -/
def ShowsUnstaged (db : DbHandle) (data : ByteDb) (events : List NativeEvent) :
    Prop :=
  ∀ (n : Nat) (at_ : CfKey) (value : Option Bytes),
    events[n]? = some (.get at_ (.ok value)) →
    (∀ m < n, ∀ op, events[m]? = some (.stage op) → op.target ≠ at_) →
    db.read data at_ = .ok value

/-- One committed batch: a plain one, or an attempt with the state its closure
started in, its transaction and its result. -/
inductive LogEntry (Client Q R : Type) where
  | plain (batch : List WriteOp)
  | attempt (client : Client) (start : Q) (txn : NativeTxn) (result : R)

namespace LogEntry

variable {Client Q R : Type}

def batch : LogEntry Client Q R → List WriteOp
  | .plain batch => batch
  | .attempt _ _ txn _ => txn.staged

/-- The result of a committed attempt of the client. -/
def resultFor [DecidableEq Client] (client : Client) :
    LogEntry Client Q R → Option R
  | .plain _ => none
  | .attempt other _ _ result => if other = client then some result else none

/-- The attempt stages a write for each key it reads. -/
def StagesItsReads : LogEntry Client Q R → Prop
  | .plain _ => True
  | .attempt _ _ txn _ =>
      ∀ at_ answer, .get at_ answer ∈ txn.events →
        Touches ByteDb txn.staged at_

/-- Run alone over the given contents, the attempt does what it did. -/
def Justified (db : DbHandle) (closure : Client → Closure Q R) (data : ByteDb) :
    LogEntry Client Q R → Prop
  | .plain _ => True
  | .attempt client start txn result =>
      RanAlone db (closure client) data start txn result

end LogEntry

/-- Where a call of `execute_with_snapshot` stands. -/
inductive Phase (Q R : Type) where
  | between (program : Q)
  | running (start : Q) (attempt : Attempt Q)
  | returned (result : StoreResult R)

/-- The value an `Ok` return carries. -/
def Phase.okResult {Q R : Type} : Phase Q R → Option R
  | .returned (.ok result) => some result
  | _ => none

/-- A call of `execute_with_snapshot` in round `round` of its loop. -/
structure Caller (Q R RTP : Type) where
  retryPolicy : RTP
  round : Nat
  phase : Phase Q R

/-- The committed batches since the start, and all callers. -/
structure OptimisticSystem (Client Q R RTP : Type) where
  log : List (LogEntry Client Q R)
  callers : Client → Caller Q R RTP

/-- One step: others commit a plain batch, a caller begins an attempt, or a
running attempt makes its next move, which the engine may fail. -/
inductive SystemStep (Client : Type) where
  | plain (batch : List WriteOp)
  | begin (client : Client)
  | act (client : Client) (fault : Option Fault)

namespace OptimisticSystem

variable {Client Q R RTP : Type} [DecidableEq Client] [RetryPolicy RTP]

/-- No call has begun its first attempt. -/
def initial (program : Client → Q) (policy : Client → RTP) :
    OptimisticSystem Client Q R RTP :=
  { log := []
    callers := fun client =>
      { retryPolicy := policy client, round := 0
        phase := .between (program client) } }

def commitLog (s : OptimisticSystem Client Q R RTP) : CommitLog :=
  s.log.map LogEntry.batch

/-- The committed contents. -/
def data (base : ByteDb) (s : OptimisticSystem Client Q R RTP) : ByteDb :=
  replay base s.commitLog

/-- The call moves to another phase. -/
def enter (s : OptimisticSystem Client Q R RTP) (client : Client)
    (phase : Phase Q R) : OptimisticSystem Client Q R RTP :=
  { s with
    callers := Function.update s.callers client
      { s.callers client with phase } }

/-- The attempt ends: an accepted commit appends its batch to the log, and the
loop goes on or returns. -/
def endAttempt (base : ByteDb) (s : OptimisticSystem Client Q R RTP)
    (client : Client) (start : Q) (attempt : Attempt Q) (fault : Option Fault)
    (operation : StoreResult R) (again : Q) : OptimisticSystem Client Q R RTP :=
  let caller := s.callers client
  let (turn, retryPolicy, _, _) :=
    RockSolid.endAttempt (s.data base) fault caller.round operation
      caller.retryPolicy attempt.txn
  let phase : Phase Q R :=
    match turn with
    | .again => .between again
    | .done result => .returned result
  { log :=
      match operation, fault with
      | .ok result, none => s.log ++ [.attempt client start attempt.txn result]
      | _, _ => s.log
    callers := Function.update s.callers client
      { retryPolicy, round := caller.round + 1, phase } }

/-- The state after a step, when the step is possible: the engine accepts no
commit of a transaction that conflicts. -/
def step? (db : DbHandle) (base : ByteDb) (closure : Client → Closure Q R)
    (s : OptimisticSystem Client Q R RTP) :
    SystemStep Client → Option (OptimisticSystem Client Q R RTP)
  | .plain batch => some { s with log := s.log ++ [.plain batch] }
  | .begin client =>
      match (s.callers client).phase with
      | .between program =>
          some (s.enter client
            (.running program (Attempt.begin true s.log.length program)))
      | _ => none
  | .act client fault =>
      match (s.callers client).phase with
      | .running start attempt =>
          match closure client attempt.program with
          | .finish operation again =>
              if operation.isOk ∧ fault = none ∧
                  attempt.txn.Conflicts s.commitLog then none
              else
                some (s.endAttempt base client start attempt fault operation
                  again)
          | _ =>
              (attempt.advance (closure client) db (s.data base) fault).map
                fun next => s.enter client (.running start next)
      | _ => none

/-- The states that some interleaving of steps reaches. -/
def Reachable (db : DbHandle) (base : ByteDb) (closure : Client → Closure Q R) :
    OptimisticSystem Client Q R RTP → OptimisticSystem Client Q R RTP → Prop :=
  Relation.ReflTransGen fun s next => ∃ step, step? db base closure s step = some next

/-- Takes several steps, when they are possible. -/
def run? (db : DbHandle) (base : ByteDb) (closure : Client → Closure Q R)
    (s : OptimisticSystem Client Q R RTP) (steps : List (SystemStep Client)) :
    Option (OptimisticSystem Client Q R RTP) :=
  steps.foldlM (step? db base closure) s

end OptimisticSystem

end RockSolid
