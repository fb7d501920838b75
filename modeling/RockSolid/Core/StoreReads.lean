/-
Module: RockSolid.Core.StoreReads
Layer: Core
Purpose: The reads of many keys (src/cf_store.rs, src/tx/macros.rs) and the
  reads of the default-family stores: two of them delegate (src/store.rs,
  src/tx/optimistic_tx_store.rs), the pessimistic one has bodies of its own
  (src/tx/tx_store.rs).
Trusted boundary: human-reviewed model of the source
Main exports: DbHandle.multiGet, CFOperations.multiget,
  CFOperations.multigetRaw, CFOperations.multigetWithExpiry,
  DefaultCFOperations.get, RocksDbTxnStore.get, RocksDbTxnStore.multiget
-/
import RockSolid.Core.Stores

namespace RockSolid

variable {cmps : String → Comparator} {K V : Type}

/-- `multi_get`, `multi_get_cf` and `multi_get_cf_opt`: the engine answers each
key by itself.  A key may meet a failure of its own. -/
def DbHandle.multiGet (db : DbHandle) (data : Db cmps)
    (faults : Bytes → Option Fault) (cf : String) (keys : List Bytes) :
    List (Except RocksError (Option Bytes)) :=
  keys.map fun key => orFault (faults key) (db.read data ⟨cf, key⟩)

/-- The two nested `map_or(Ok(None), …)` of the typed reads of many keys. -/
def decodeMultiGetResult [DeserializeOwned V]
    (result : Except RocksError (Option Bytes)) : StoreResult (Option V) :=
  match result with
  | .error _ => .ok none
  | .ok none => .ok none
  | .ok (some valBytes) => some <$> deserializeValue valBytes

/-- `collect::<Result<Vec<_>, _>>().map_err(StoreError::RocksDb)`. -/
def collectRawResults (results : List (Except RocksError (Option Bytes))) :
    StoreResult (List (Option Bytes)) :=
  (results.mapM id).mapError .rocksDb

/-- The conversion at the end of the reads of many values with expiry. -/
def decodeExpiryResult (optBytes : Option Bytes) :
    StoreResult (Option (ValueWithExpiry V)) :=
  match optBytes with
  | none => .ok none
  | some bytes => some <$> ValueWithExpiry.fromSlice bytes

namespace CFOperations

variable [AsBytes K] (access : CfAccess) (cfName : String) (keys : List K)
  (data : Db cmps) (faults : Bytes → Option Fault)

/-- `multiget`. -/
def multiget [DeserializeOwned V] : StoreResult (List (Option V)) :=
  if keys.isEmpty then .ok []
  else do
    let serKeys ← keys.mapM serializeKey
    let cf ← access.family cfName
    (access.db.multiGet data faults cf serKeys).mapM decodeMultiGetResult

/-- `multiget_raw`. -/
def multigetRaw : StoreResult (List (Option Bytes)) :=
  if keys.isEmpty then .ok []
  else do
    let serKeys ← keys.mapM serializeKey
    let cf ← access.family cfName
    collectRawResults (access.db.multiGet data faults cf serKeys)

/-- `multiget_with_expiry`. -/
def multigetWithExpiry : StoreResult (List (Option (ValueWithExpiry V))) := do
  let rawResults ← multigetRaw access cfName keys data faults
  rawResults.mapM decodeExpiryResult

end CFOperations

-- `RocksDbStore` and `RocksDbOptimisticTxnStore` pass every read on with the
-- name of the default family.
namespace DefaultCFOperations

variable [AsBytes K] (access : CfAccess)

section OneKey

variable (key : K) (data : Db cmps) (fault : Option Fault)

/-- `get`. -/
def get [DeserializeOwned V] : StoreResult (Option V) :=
  CFOperations.get access defaultColumnFamilyName key data fault

/-- `get_raw`. -/
def getRaw : StoreResult (Option Bytes) :=
  CFOperations.getRaw access defaultColumnFamilyName key data fault

/-- `get_with_expiry`. -/
def getWithExpiry : StoreResult (Option (ValueWithExpiry V)) :=
  CFOperations.getWithExpiry access defaultColumnFamilyName key data fault

/-- `exists`. -/
def «exists» : StoreResult Bool :=
  CFOperations.exists access defaultColumnFamilyName key data fault

end OneKey

section ManyKeys

variable (keys : List K) (data : Db cmps) (faults : Bytes → Option Fault)

/-- `multiget`. -/
def multiget [DeserializeOwned V] : StoreResult (List (Option V)) :=
  CFOperations.multiget access defaultColumnFamilyName keys data faults

/-- `multiget_raw`. -/
def multigetRaw : StoreResult (List (Option Bytes)) :=
  CFOperations.multigetRaw access defaultColumnFamilyName keys data faults

/-- `multiget_with_expiry`. -/
def multigetWithExpiry : StoreResult (List (Option (ValueWithExpiry V))) :=
  CFOperations.multigetWithExpiry access defaultColumnFamilyName keys data
    faults

end ManyKeys

end DefaultCFOperations

namespace RocksDbTxnStore

variable [AsBytes K] (store : RocksDbTxnStore)

/-- `cf_store.db_txn_raw()`. -/
def dbTxnRaw : DbHandle :=
  store.cfStore.db

section OneKey

variable (key : K) (data : Db cmps) (fault : Option Fault)

/-- `db_txn_raw().get_pinned(ser_key)`: the default family, without a handle. -/
def getPinned (serKey : Bytes) : Except RocksError (Option Bytes) :=
  orFault fault (store.dbTxnRaw.read data ⟨defaultColumnFamilyName, serKey⟩)

/-- `RocksDbTxnStore::get`. -/
def get [DeserializeOwned V] : StoreResult (Option V) := do
  let serKey ← serializeKey key
  match ← (store.getPinned data fault serKey).mapError StoreError.rocksDb with
  | some v => some <$> deserializeValue v
  | none => .ok none

/-- `RocksDbTxnStore::get_raw`. -/
def getRaw : StoreResult (Option Bytes) := do
  let serKey ← serializeKey key
  (store.getPinned data fault serKey).mapError .rocksDb

/-- `RocksDbTxnStore::get_with_expiry`. -/
def getWithExpiry : StoreResult (Option (ValueWithExpiry V)) := do
  match ← store.getRaw key data fault with
  | none => .ok none
  | some bytes => some <$> ValueWithExpiry.fromSlice bytes

/-- `RocksDbTxnStore::exists`. -/
def «exists» : StoreResult Bool := do
  let serKey ← serializeKey key
  ((store.getPinned data fault serKey).map (·.isSome)).mapError .rocksDb

end OneKey

section ManyKeys

variable (keys : List K) (data : Db cmps) (faults : Bytes → Option Fault)

/-- `RocksDbTxnStore::multiget`. -/
def multiget [DeserializeOwned V] : StoreResult (List (Option V)) :=
  if keys.isEmpty then .ok []
  else do
    let serKeys ← keys.mapM serializeKey
    (store.dbTxnRaw.multiGet data faults defaultColumnFamilyName serKeys).mapM
      decodeMultiGetResult

/-- `RocksDbTxnStore::multiget_raw`. -/
def multigetRaw : StoreResult (List (Option Bytes)) :=
  if keys.isEmpty then .ok []
  else do
    let serKeys ← keys.mapM serializeKey
    collectRawResults
      (store.dbTxnRaw.multiGet data faults defaultColumnFamilyName serKeys)

/-- `RocksDbTxnStore::multiget_with_expiry`. -/
def multigetWithExpiry : StoreResult (List (Option (ValueWithExpiry V))) := do
  let rawResults ← store.multigetRaw keys data faults
  rawResults.mapM decodeExpiryResult

end ManyKeys

end RocksDbTxnStore

end RockSolid
