/-
Module: RockSolid.Semantics.WritePaths
Layer: Semantics
Purpose: The paths through which a record can be written: the stores, the batch
  writer, the methods on a borrowed transaction, the free functions on one, and
  the default-family and `_cf` methods of both contexts.  For each path: what its
  calls change, which families it accepts, and how it hands a record to the
  engine.
Trusted boundary: a statement of intent
Main exports: WritePath, WritePath.Receiver, WritePath.request, WritePath.hand,
  WritePath.Accepts
-/
import RockSolid.Semantics.BatchRuns
import RockSolid.Semantics.ContextRuns
import RockSolid.Semantics.StoreKinds

namespace RockSolid

open Foundation

variable {cmps : String → Comparator}

/-- A write operation on a store. -/
def Store.writeCall (store : Store) (cfName : String) (fault : Option Fault) :
    WriteCall → Method StoreError (Db cmps) Unit
  | .put _ _ key val => store.put cfName key fault val
  | .putRaw _ key rawVal => store.putRaw cfName key fault rawVal
  | .putWithExpiry _ _ key val expireTime =>
      store.putWithExpiry cfName key fault val expireTime
  | .merge _ _ key mergeValue => store.merge cfName key fault mergeValue
  | .mergeRaw _ key rawMergeOp => store.mergeRaw cfName key fault rawMergeOp
  | .delete _ key => store.delete cfName key fault

/-- A write operation through the `_in_txn` methods of the pessimistic store. -/
def RocksDbCFTxnStore.writeInTxn (store : RocksDbCFTxnStore) (cfName : String)
    (fault : Option Fault) : WriteCall → TxnMethod Unit
  | .put _ _ key val => store.putInTxnCf cfName key val fault
  | .putRaw _ key rawVal => store.putRawInTxn cfName key rawVal fault
  | .putWithExpiry _ _ key val expireTime =>
      store.putWithExpiryInTxn cfName key val expireTime fault
  | .merge _ _ key mergeValue => store.mergeInTxn cfName key mergeValue fault
  | .mergeRaw _ key rawMergeOp => store.mergeRawInTxn cfName key rawMergeOp fault
  | .delete _ key => store.deleteInTxn cfName key fault

/-- A write operation through the free functions on a transaction, which offer
two of them. -/
def Tx.writeInTxn (fault : Option Fault) : WriteCall → Option (TxnMethod Unit)
  | .merge _ _ key mergeValue => some (Tx.mergeInTxn key fault mergeValue)
  | .delete _ key => some (Tx.removeInTxn key fault)
  | _ => none

/-- The default-family method of a context for a write operation. -/
def WriteCall.onDefault : WriteCall → StagingCall
  | .put keys codec key val => .set keys codec key val
  | .putRaw keys key rawVal => .setRaw keys key rawVal
  | .putWithExpiry keys codec key val expireTime =>
      .setWithExpiry keys codec key val expireTime
  | .merge keys codec key mergeValue => .merge keys codec key mergeValue
  | .mergeRaw keys key rawMergeOp => .mergeRaw keys key rawMergeOp
  | .delete keys key => .delete keys key

/-- The `_cf` method of a context for a write operation. -/
def WriteCall.onCf (cfName : String) : WriteCall → StagingCall
  | .put keys codec key val => .putCf keys codec cfName key val
  | .putRaw keys key rawVal => .putCfRaw keys cfName key rawVal
  | .putWithExpiry keys codec key val expireTime =>
      .putCfWithExpiry keys codec cfName key val expireTime
  | .merge keys codec key mergeValue => .mergeCf keys codec cfName key mergeValue
  | .mergeRaw keys key rawMergeOp => .mergeCfRaw keys cfName key rawMergeOp
  | .delete keys key => .deleteCf keys cfName key

/-- A path of the crate to the engine's write calls. -/
inductive WritePath where
  | store (kind : Store)
  | batchWriter
  | inTxn (owner : RocksDbCFTxnStore)
  | txModule
  | context
  | contextCf
  | optimisticContext
  | optimisticContextCf

namespace WritePath

/-- What the calls of a path change. -/
def Receiver (cmps : String → Comparator) : WritePath → Type
  | .store _ => Db cmps
  | .batchWriter => BatchWriter
  | .inTxn _ | .txModule => NativeTxn
  | .context | .contextCf => TransactionContext
  | .optimisticContext | .optimisticContextCf => OptimisticTransactionContext

/-- The call of a path for a write operation on a family, when the path offers
it. -/
def request (cfName : String) (fault : Option Fault) (call : WriteCall) :
    (path : WritePath) → Option (Method StoreError (path.Receiver cmps) Unit)
  | .store kind => some (kind.writeCall cfName fault call)
  | .batchWriter => some (BatchWriter.writeCall call)
  | .inTxn owner => some (owner.writeInTxn cfName fault call)
  | .txModule => Tx.writeInTxn fault call
  | .context => some (TransactionContext.stagingCall fault call.onDefault)
  | .contextCf => some (TransactionContext.stagingCall fault (call.onCf cfName))
  | .optimisticContext =>
      some (OptimisticTransactionContext.stagingCall fault call.onDefault)
  | .optimisticContextCf =>
      some (OptimisticTransactionContext.stagingCall fault (call.onCf cfName))

/-- How a path hands a record to the engine. -/
def hand (fault : Option Fault) (op : WriteOp) :
    (path : WritePath) → Method StoreError (path.Receiver cmps) Unit
  | .store _ => CFOperations.write op fault
  | .batchWriter => BatchWriter.add (.write op)
  | .inTxn _ | .txModule => native (NativeTxn.stage op fault)
  | .context | .contextCf =>
      TransactionContext.onTxn fun _ => native (NativeTxn.stage op fault)
  | .optimisticContext | .optimisticContextCf =>
      OptimisticTransactionContext.stage op fault

/-- A path accepts a family: it is open, or the default one where the path is
about no other, and what the path changes has not ended. -/
def Accepts (cf : String) :
    (path : WritePath) → path.Receiver cmps → Prop
  | .store kind, _ => kind.asked cf = cf ∧ kind.Opens cf
  | .batchWriter, writer =>
      writer.cfName = cf ∧ writer.store.access.family cf = .ok cf ∧
        writer.committedOrDiscarded = false
  | .inTxn owner, _ => owner.access.family cf = .ok cf
  | .txModule, _ => cf = defaultColumnFamilyName
  | .context, receiver =>
      cf = defaultColumnFamilyName ∧ receiver.completed = false
  | .contextCf, receiver =>
      receiver.store.access.family cf = .ok cf ∧ receiver.completed = false
  | .optimisticContext, receiver =>
      cf = defaultColumnFamilyName ∧ receiver.completed = false
  | .optimisticContextCf, receiver =>
      receiver.store.getCfHandle cf = .ok cf ∧ receiver.completed = false

end WritePath

end RockSolid
