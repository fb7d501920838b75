/-
Module: RockSolid.Semantics.Isolation
Layer: Semantics
Purpose: What pessimistic transactions may rely on while others run, whatever
  their programs do: the statement of their isolation.
Trusted boundary: human-reviewed statement
Main exports: NativeTxn.ReadsCommitted, PessimisticSystem.ReadsCommitted,
  PessimisticSystem.Isolated
-/
import RockSolid.Foundation.PrefixReads
import RockSolid.Semantics.PessimisticSystem

namespace RockSolid

open Foundation

/-- Up to the given commit, every read of the transaction was answered over what
the commits before it had left, whole commits only, under the writes the
transaction had staged by then; and no read went back before an earlier one. -/
def NativeTxn.ReadsCommitted (txn : NativeTxn) (db : DbHandle) (base : ByteDb)
    (commits : List (List WriteOp)) (position : Nat) : Prop :=
  PrefixReads (NativeTxn.Answered db) NativeEvent.stage base commits txn.events
    txn.staged position

namespace PessimisticSystem

variable {Client Q R : Type}

/-- What the transactions have read. -/
structure ReadsCommitted (store : RocksDbCFTxnStore) (base : ByteDb)
    (s : PessimisticSystem Client Q R) : Prop where
  /-- Running transactions read what is committed and what they wrote. -/
  running : ∀ client t, s.clients client = .running t →
    t.state.handle.txn.ReadsCommitted store.db base
      (s.log.map CommittedTxn.batch) (s.log.map CommittedTxn.batch).length
  /-- So did the committed ones, up to their own commit. -/
  committed : ∀ position (entry : CommittedTxn Client Q R),
    s.log[position]? = some entry →
      entry.txn.ReadsCommitted store.db base (s.log.map CommittedTxn.batch)
        position

/-- The isolation of the clients' transactions from one another. -/
structure Isolated [DecidableEq Client] (store : RocksDbCFTxnStore)
    (base : ByteDb) (program : Client → Q → TxnAction Q R)
    (s : PessimisticSystem Client Q R) : Prop where
  reads : s.ReadsCommitted store base
  /-- A transaction holds the locks of the keys it has staged writes for. -/
  locked : ∀ client t, s.clients client = .running t →
    ∀ op ∈ t.state.handle.txn.staged, s.locks op.target = some client
  /-- Until the transaction that locked it ends, a key keeps its lock and its
  record. -/
  stable : ∀ k client, s.locks k = some client →
    ∀ later, Reachable store base program s later →
      (∃ result, later.clients client = .ended result) ∨
        later.locks k = some client ∧
          (later.data base).record k = (s.data base).record k

end PessimisticSystem

end RockSolid
