/-
Module: RockSolid.Core.ExpirySearch
Layer: Core
Purpose: `find_by_prefix_with_expire_val` and `find_from_with_expire_val` of the
  stores (src/cf_store.rs, src/tx/macros.rs) and of their default-family wrappers
  (src/store.rs, src/tx/tx_store.rs, src/tx/optimistic_tx_store.rs).  Beside the
  result of the first stands the captured state of the control function when the
  call returns.
Trusted boundary: human-reviewed model of the source
Main exports: findByPrefixWithExpireValConfig, collectItemsTextRest,
  CFOperations.findByPrefixWithExpireVal,
  RocksDbCFStore.findByPrefixWithExpireVal,
  CFOperations.findFromWithExpireVal, RocksDbCFStore.findFromWithExpireVal
-/
import RockSolid.Core.Stores

namespace RockSolid

open Foundation

variable {cmps : String → Comparator} {K V S : Type}

/-- The configuration `find_by_prefix_with_expire_val` builds. -/
def findByPrefixWithExpireValConfig [ByteDecodable K] (cfName : String)
    (prefixKey : K) (reverse : Bool) (controlFn : ControlFn S) (captured : S) :
    IterConfig K S Unit K (ValueWithExpiry V) :=
  .newDeserializing cfName (some prefixKey) none reverse (some controlFn)
    captured
    (fun _ keyBytes valBytes => (deserializeKvExpiry keyBytes valBytes, ())) ()

/-- The tail of the search, with the captured state of the control function. -/
def collectItemsTextRest (unexpected : String)
    (result : StoreResult (IterationResult S Unit K V) × S) :
    Except String (List (K × V)) × S :=
  match result with
  | (.ok (.deserializedItems iter), _) =>
      let (items, rest) := collectRest iter
      (items.mapError StoreError.display, rest.captured)
  | (.ok _, captured) => (.error unexpected, captured)
  | (.error e, captured) => (.error e.display, captured)

variable [AsBytes K] [ByteDecodable K] (data : Db cmps) (fault : Option Fault)

/-- `find_by_prefix_with_expire_val` of the stores. -/
def CFOperations.findByPrefixWithExpireVal (access : CfAccess)
    (unexpected : String) (cfName : String) (prefixKey : K) (reverse : Bool)
    (controlFn : ControlFn S) (captured : S) :
    Except String (List (K × ValueWithExpiry V)) × S :=
  collectItemsTextRest unexpected
    (iterate access data fault
      (findByPrefixWithExpireValConfig cfName prefixKey reverse controlFn
        captured))

section ColumnFamilies

variable (cfName : String) (prefixKey : K) (reverse : Bool)
  (controlFn : ControlFn S) (captured : S)

/-- `RocksDbCFStore::find_by_prefix_with_expire_val`. -/
def RocksDbCFStore.findByPrefixWithExpireVal (store : RocksDbCFStore) :
    Except String (List (K × ValueWithExpiry V)) × S :=
  CFOperations.findByPrefixWithExpireVal data fault store.access
    "find_by_prefix_with_expire_val: Expected DeserializedItems from iteration"
    cfName prefixKey reverse controlFn captured

/-- `RocksDbCFTxnStore::find_by_prefix_with_expire_val`. -/
def RocksDbCFTxnStore.findByPrefixWithExpireVal (store : RocksDbCFTxnStore) :
    Except String (List (K × ValueWithExpiry V)) × S :=
  CFOperations.findByPrefixWithExpireVal data fault store.access
    "find_by_prefix_with_expire_val: Expected DeserializedItems"
    cfName prefixKey reverse controlFn captured

/-- `RocksDbCFOptimisticTxnStore::find_by_prefix_with_expire_val`. -/
def RocksDbCFOptimisticTxnStore.findByPrefixWithExpireVal
    (store : RocksDbCFOptimisticTxnStore) :
    Except String (List (K × ValueWithExpiry V)) × S :=
  CFOperations.findByPrefixWithExpireVal data fault store.access
    "find_by_prefix_with_expire_val: Expected DeserializedItems"
    cfName prefixKey reverse controlFn captured

end ColumnFamilies

section DefaultFamily

variable (start : K) (reverse : Bool) (controlFn : ControlFn S) (captured : S)

/-- `RocksDbStore::find_by_prefix_with_expire_val`. -/
def RocksDbStore.findByPrefixWithExpireVal (store : RocksDbStore) :
    Except String (List (K × ValueWithExpiry V)) × S :=
  store.cfStore.findByPrefixWithExpireVal data fault defaultColumnFamilyName
    start reverse controlFn captured

/-- `RocksDbTxnStore::find_by_prefix_with_expire_val`. -/
def RocksDbTxnStore.findByPrefixWithExpireVal (store : RocksDbTxnStore) :
    Except String (List (K × ValueWithExpiry V)) × S :=
  store.cfStore.findByPrefixWithExpireVal data fault defaultColumnFamilyName
    start reverse controlFn captured

/-- `RocksDbOptimisticTxnStore::find_by_prefix_with_expire_val`. -/
def RocksDbOptimisticTxnStore.findByPrefixWithExpireVal
    (store : RocksDbOptimisticTxnStore) :
    Except String (List (K × ValueWithExpiry V)) × S :=
  store.cfStore.findByPrefixWithExpireVal data fault defaultColumnFamilyName
    start reverse controlFn captured

end DefaultFamily

/-- `find_from_with_expire_val` of the stores. -/
def CFOperations.findFromWithExpireVal (access : CfAccess)
    (unexpected : String) (cfName : String) (start : K) (reverse : Bool)
    (controlFn : ControlFn S) (captured : S) :
    Except String (List (K × ValueWithExpiry V)) :=
  collectItemsText unexpected
    (iterate access data fault
      (findFromWithExpireValConfig cfName start reverse controlFn captured)).1

section FromKey

variable (start : K) (reverse : Bool) (controlFn : ControlFn S) (captured : S)

/-- `RocksDbCFStore::find_from_with_expire_val`. -/
def RocksDbCFStore.findFromWithExpireVal (store : RocksDbCFStore)
    (cfName : String) : Except String (List (K × ValueWithExpiry V)) :=
  CFOperations.findFromWithExpireVal data fault store.access
    "find_from_with_expire_val: Expected DeserializedItems from iteration"
    cfName start reverse controlFn captured

/-- `RocksDbCFTxnStore::find_from_with_expire_val`. -/
def RocksDbCFTxnStore.findFromWithExpireVal (store : RocksDbCFTxnStore)
    (cfName : String) : Except String (List (K × ValueWithExpiry V)) :=
  CFOperations.findFromWithExpireVal data fault store.access
    "find_from_with_expire_val: Expected DeserializedItems"
    cfName start reverse controlFn captured

/-- `RocksDbCFOptimisticTxnStore::find_from_with_expire_val`. -/
def RocksDbCFOptimisticTxnStore.findFromWithExpireVal
    (store : RocksDbCFOptimisticTxnStore) (cfName : String) :
    Except String (List (K × ValueWithExpiry V)) :=
  CFOperations.findFromWithExpireVal data fault store.access
    "find_from_with_expire_val: Expected DeserializedItems"
    cfName start reverse controlFn captured

/-- `RocksDbStore::find_from_with_expire_val`. -/
def RocksDbStore.findFromWithExpireVal (store : RocksDbStore) :
    Except String (List (K × ValueWithExpiry V)) :=
  store.cfStore.findFromWithExpireVal data fault start reverse controlFn
    captured defaultColumnFamilyName

/-- `RocksDbTxnStore::find_from_with_expire_val`. -/
def RocksDbTxnStore.findFromWithExpireVal (store : RocksDbTxnStore) :
    Except String (List (K × ValueWithExpiry V)) :=
  store.cfStore.findFromWithExpireVal data fault start reverse controlFn
    captured defaultColumnFamilyName

/-- `RocksDbOptimisticTxnStore::find_from_with_expire_val`. -/
def RocksDbOptimisticTxnStore.findFromWithExpireVal
    (store : RocksDbOptimisticTxnStore) :
    Except String (List (K × ValueWithExpiry V)) :=
  store.cfStore.findFromWithExpireVal data fault start reverse controlFn
    captured defaultColumnFamilyName

end FromKey

end RockSolid
