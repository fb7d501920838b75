/-
Module: RockSolid.Core.DeleteRange
Layer: Core
Purpose: `delete_range` of the stores: a batch of one operation (src/cf_store.rs),
  or an error on a transactional store (src/tx/macros.rs); the default-family
  wrappers pass it on (src/store.rs, src/tx/tx_store.rs,
  src/tx/optimistic_tx_store.rs).
Trusted boundary: human-reviewed model of the source
Main exports: RocksDbCFStore.deleteRange, TransactionalStore.deleteRange,
  RocksDbStore.deleteRange, RocksDbTxnStore.deleteRange,
  RocksDbOptimisticTxnStore.deleteRange
-/
import RockSolid.Core.BatchWriter

namespace RockSolid

open Foundation

variable {cmps : String → Comparator} {K : Type} [AsBytes K]

/-- `self.db.write(batch).map_err(StoreError::RocksDb)`. -/
def writeBatch (batch : WriteBatch) (fault : Option Fault) :
    Method StoreError (Db cmps) Unit := fun data =>
  let (result, data) := data.write batch fault
  (result.mapError .rocksDb, data)

/-- `RocksDbCFStore::delete_range`. -/
def RocksDbCFStore.deleteRange (store : RocksDbCFStore) (cfName : String)
    (startKey endKey : K) (fault : Option Fault) :
    Method StoreError (Db cmps) Unit := do
  let skStart ← serializeKey startKey
  let skEnd ← serializeKey endKey
  let cf ← store.access.family cfName
  writeBatch [.deleteRange cf skStart skEnd] fault

/-- `delete_range` of both transactional stores, which looks at nothing. -/
def TransactionalStore.deleteRange (_cfName : String) (_startKey _endKey : K) :
    Method StoreError (Db cmps) Unit :=
  Method.lift (.error (.other
    "delete_range is not supported on a transactional store"))

/-- `RocksDbStore::delete_range`. -/
def RocksDbStore.deleteRange (store : RocksDbStore) (startKey endKey : K)
    (fault : Option Fault) : Method StoreError (Db cmps) Unit :=
  store.cfStore.deleteRange defaultColumnFamilyName startKey endKey fault

/-- `RocksDbTxnStore::delete_range`. -/
def RocksDbTxnStore.deleteRange (_store : RocksDbTxnStore)
    (startKey endKey : K) : Method StoreError (Db cmps) Unit :=
  TransactionalStore.deleteRange defaultColumnFamilyName startKey endKey

/-- `RocksDbOptimisticTxnStore::delete_range`. -/
def RocksDbOptimisticTxnStore.deleteRange (_store : RocksDbOptimisticTxnStore)
    (startKey endKey : K) : Method StoreError (Db cmps) Unit :=
  TransactionalStore.deleteRange defaultColumnFamilyName startKey endKey

end RockSolid
