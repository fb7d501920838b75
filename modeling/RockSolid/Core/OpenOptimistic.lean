/-
Module: RockSolid.Core.OpenOptimistic
Layer: Core
Purpose: Opening an optimistic transactional store
  (src/tx/cf_optimistic_tx_store.rs).  Its `cf_names` are the names in the
  configuration, while the engine opens the default family in any case.
Trusted boundary: human-reviewed model of the source
Main exports: RocksDbCFOptimisticTxnStoreConfig,
  RocksDbCFOptimisticTxnStore.open
-/
import RockSolid.Core.Stores
import RockSolid.Engine.OnDisk

namespace RockSolid

open Foundation

/-- What opening uses of `RocksDbCFOptimisticTxnStoreConfig`.  The options a
family is opened with count by their full merge function. -/
structure RocksDbCFOptimisticTxnStoreConfig where
  createIfMissing : Bool
  columnFamiliesToOpen : List String
  fullMerge : String → MergeFn

/-- `RocksDbCFOptimisticTxnStore::open`, on the directory at the configured
path. -/
def RocksDbCFOptimisticTxnStore.open (cfg : RocksDbCFOptimisticTxnStoreConfig)
    (fault : Option Fault) :
    Method StoreError OnDisk RocksDbCFOptimisticTxnStore := fun disk =>
  match disk.openCfDescriptors cfg.createIfMissing cfg.columnFamiliesToOpen
    fault with
  | .ok disk =>
      (.ok { db := ⟨disk.columnFamilies, cfg.fullMerge⟩
             cfNames := cfg.columnFamiliesToOpen }, disk)
  | .error e => (.error (.rocksDb e), disk)

end RockSolid
