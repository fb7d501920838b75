/-
Module: RockSolid.Core.StoreWrites
Layer: Core
Purpose: The writes and the search from a key of the default-family stores: two
  of them delegate (src/store.rs, src/tx/optimistic_tx_store.rs), the pessimistic
  one writes through bodies of its own (src/tx/tx_store.rs).
Trusted boundary: human-reviewed model of the source
Main exports: DefaultCFOperations.put, DefaultCFOperations.findFrom,
  RocksDbTxnStore.put, RocksDbTxnStore.putRaw, RocksDbTxnStore.merge,
  RocksDbTxnStore.delete
-/
import RockSolid.Core.StoreReads

namespace RockSolid

open Foundation

variable {cmps : String → Comparator} {K V PatchVal S : Type} [AsBytes K]

-- `RocksDbStore` and `RocksDbOptimisticTxnStore` pass every call on with the
-- name of the default family.
namespace DefaultCFOperations

variable (access : CfAccess) (key : K) (fault : Option Fault)

/-- `put`. -/
def put [Serialize V] (value : V) : Method StoreError (Db cmps) Unit :=
  CFOperations.put access defaultColumnFamilyName key value fault

/-- `put_raw`. -/
def putRaw (rawValue : Bytes) : Method StoreError (Db cmps) Unit :=
  CFOperations.putRaw access defaultColumnFamilyName key rawValue fault

/-- `put_with_expiry`. -/
def putWithExpiry [Serialize V] (value : V) (expireTime : UInt64) :
    Method StoreError (Db cmps) Unit :=
  CFOperations.putWithExpiry access defaultColumnFamilyName key value expireTime
    fault

/-- `merge`. -/
def merge [Serialize (MergeValue PatchVal)] (mergeValue : MergeValue PatchVal) :
    Method StoreError (Db cmps) Unit :=
  CFOperations.merge access defaultColumnFamilyName key mergeValue fault

/-- `merge_raw`. -/
def mergeRaw (rawMergeOp : Bytes) : Method StoreError (Db cmps) Unit :=
  CFOperations.mergeRaw access defaultColumnFamilyName key rawMergeOp fault

/-- `delete`. -/
def delete : Method StoreError (Db cmps) Unit :=
  CFOperations.delete access defaultColumnFamilyName key fault

/-- `find_from`, which `RocksDbTxnStore` passes on as well. -/
def findFrom [ByteDecodable K] [DeserializeOwned V] (data : Db cmps)
    (startKey : K) (direction : Direction) (controlFn : ControlFn S)
    (captured : S) : StoreResult (List (K × V)) :=
  CFOperations.findFrom access data fault defaultColumnFamilyName startKey
    direction controlFn captured

end DefaultCFOperations

namespace RocksDbTxnStore

/-- `db_txn_raw().put`, `merge` and `delete`: writes without a family handle. -/
def write (_store : RocksDbTxnStore) (op : WriteOp) (fault : Option Fault) :
    Method StoreError (Db cmps) Unit :=
  CFOperations.write op fault

variable (store : RocksDbTxnStore) (key : K) (fault : Option Fault)

/-- `RocksDbTxnStore::put`. -/
def put [Serialize V] (value : V) : Method StoreError (Db cmps) Unit := do
  let serKey ← serializeKey key
  let serVal ← serializeValue value
  store.write (.put ⟨defaultColumnFamilyName, serKey⟩ serVal) fault

/-- `RocksDbTxnStore::put_raw`. -/
def putRaw (rawVal : Bytes) : Method StoreError (Db cmps) Unit := do
  let serKey ← serializeKey key
  store.write (.put ⟨defaultColumnFamilyName, serKey⟩ rawVal) fault

/-- `RocksDbTxnStore::put_with_expiry`. -/
def putWithExpiry [Serialize V] (val : V) (expireTime : UInt64) :
    Method StoreError (Db cmps) Unit := do
  let vwe ← ValueWithExpiry.fromValue expireTime val
  store.putRaw key fault vwe.serializeForStorage

/-- `RocksDbTxnStore::merge`. -/
def merge [Serialize (MergeValue PatchVal)] (mergeValue : MergeValue PatchVal) :
    Method StoreError (Db cmps) Unit := do
  let serKey ← serializeKey key
  let serMergeOp ← serializeValue mergeValue
  store.write (.merge ⟨defaultColumnFamilyName, serKey⟩ serMergeOp) fault

/-- `RocksDbTxnStore::merge_raw`. -/
def mergeRaw (rawMergeOp : Bytes) : Method StoreError (Db cmps) Unit := do
  let serKey ← serializeKey key
  store.write (.merge ⟨defaultColumnFamilyName, serKey⟩ rawMergeOp) fault

/-- `RocksDbTxnStore::delete`. -/
def delete : Method StoreError (Db cmps) Unit := do
  let serKey ← serializeKey key
  store.write (.delete ⟨defaultColumnFamilyName, serKey⟩) fault

end RocksDbTxnStore

end RockSolid
