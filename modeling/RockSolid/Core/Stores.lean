/-
Module: RockSolid.Core.Stores
Layer: Core
Purpose: The three column-family stores, their single-key operations and their
  searches (src/cf_store.rs, src/tx/macros.rs), and the default-family wrappers
  (src/store.rs, src/tx/tx_store.rs, src/tx/optimistic_tx_store.rs).  The stores
  share their method bodies and differ in how they look a family up.
Trusted boundary: human-reviewed model of the source
Main exports: CfAccess, CFOperations.findByPrefix, CFOperations.findFrom,
  RocksDbCFStore, RocksDbCFTxnStore, RocksDbCFOptimisticTxnStore, RocksDbStore,
  RocksDbTxnStore, RocksDbOptimisticTxnStore
-/
import RockSolid.Core.Iteration
import RockSolid.Engine.NativeTxn

namespace RockSolid

open Foundation

/-- What the shared method bodies use of a store. -/
structure CfAccess where
  db : DbHandle
  getCfHandle : String → StoreResult String

/-- The family an operation works on: the default one needs no handle. -/
def CfAccess.family (access : CfAccess) (cfName : String) : StoreResult String :=
  if cfName = defaultColumnFamilyName then .ok defaultColumnFamilyName
  else access.getCfHandle cfName

/-- The default family needs no handle. -/
theorem CfAccess.family_default (access : CfAccess) :
    access.family defaultColumnFamilyName = .ok defaultColumnFamilyName :=
  if_pos rfl

/-- `cf_name == DEFAULT` or `get_cf_handle(cf_name)?`, then the iterator. -/
def iterateWith {SerKey S T OutK OutV : Type} [AsBytes SerKey]
    (access : CfAccess) (source : String → IteratorMode → RawStream)
    (config : IterConfig SerKey S T OutK OutV) :
    StoreResult (IterationResult S T OutK OutV) × S :=
  execute config
    (fun mode => do
      let cf ← access.family config.cfName
      return source cf mode)
    (fun prefixBytes => do
      let cf ← access.family config.cfName
      return source cf (prefixIteratorMode prefixBytes))

/-- The mode of the raw iterator that `IterationHelper::execute` asks for. -/
def IterConfig.rawMode {SerKey S T OutK OutV : Type} [AsBytes SerKey]
    (config : IterConfig SerKey S T OutK OutV) : IteratorMode :=
  match config.prefixKey, config.start with
  | some prefixKey, none => prefixIteratorMode (AsBytes.asBytes prefixKey)
  | _, _ =>
      rocksdbIteratorMode (config.start.map AsBytes.asBytes)
        (config.prefixKey.map AsBytes.asBytes) config.reverse

/-- An iteration asks its source for one iterator, once the family is known. -/
theorem iterateWith_eq {SerKey S T OutK OutV : Type} [AsBytes SerKey]
    (access : CfAccess) (source : String → IteratorMode → RawStream)
    (config : IterConfig SerKey S T OutK OutV) :
    iterateWith access source config =
      match access.family config.cfName with
      | .ok cf =>
          processResult config.mode (source cf config.rawMode)
            (effectiveControl (config.prefixKey.map AsBytes.asBytes)
              config.control) config.captured
      | .error e => (.error e, config.captured) := by
  cases found : access.family config.cfName <;>
    cases prefixKey : config.prefixKey <;> cases start : config.start <;>
    simp [iterateWith, execute, found, prefixKey, start, serializeOptionalKey,
      serializeKey, baseIterator, IterConfig.rawMode, Except.map, bind,
      Except.bind, pure, Except.pure]

/-- The iterator an iteration asks the engine for, with what it shows. -/
def iteratorsOf {SerKey S T OutK OutV : Type} [AsBytes SerKey]
    (access : CfAccess) (source : String → IteratorMode → RawStream)
    (config : IterConfig SerKey S T OutK OutV) : List NativeEvent :=
  match access.family config.cfName with
  | .ok cf => [.iterator cf config.rawMode (source cf config.rawMode)]
  | .error _ => []

section Searches

variable {K V S : Type} [AsBytes K] [ByteDecodable K]

/-- The configuration `find_by_prefix` builds. -/
def findByPrefixConfig [DeserializeOwned V] (cfName : String)
    (prefixKey : K) (direction : Direction) :
    IterConfig K Unit Unit K V :=
  .newDeserializing cfName (some prefixKey) none (direction == .reverse) none ()
    (fun _ keyBytes valBytes => (deserializeKv keyBytes valBytes, ())) ()

/-- The configuration `find_from` builds. -/
def findFromConfig [DeserializeOwned V] (cfName : String) (startKey : K)
    (direction : Direction) (controlFn : ControlFn S) (captured : S) :
    IterConfig K S Unit K V :=
  .newDeserializing cfName none (some startKey) (direction == .reverse)
    (some controlFn) captured
    (fun _ keyBytes valBytes => (deserializeKv keyBytes valBytes, ())) ()

/-- The configuration `find_from_with_expire_val` builds. -/
def findFromWithExpireValConfig (cfName : String) (start : K)
    (reverse : Bool) (controlFn : ControlFn S) (captured : S) :
    IterConfig K S Unit K (ValueWithExpiry V) :=
  .newDeserializing cfName none (some start) reverse (some controlFn) captured
    (fun _ keyBytes valBytes => (deserializeKvExpiry keyBytes valBytes, ())) ()

omit [AsBytes K] [ByteDecodable K] in
/-- The tail of every search: collect the deserialized items. -/
def collectItems (unexpected : StoreError)
    (result : StoreResult (IterationResult S Unit K V)) :
    StoreResult (List (K × V)) :=
  match result with
  | .ok (.deserializedItems iter) => collect iter
  | .ok _ => .error unexpected
  | .error e => .error e

omit [AsBytes K] [ByteDecodable K] in
/-- The tail of a search that reports its errors as text. -/
def collectItemsText (unexpected : String)
    (result : StoreResult (IterationResult S Unit K V)) :
    Except String (List (K × V)) :=
  match result with
  | .ok (.deserializedItems iter) => (collect iter).mapError StoreError.display
  | .ok _ => .error unexpected
  | .error e => .error e.display

end Searches

namespace CFOperations

variable {cmps : String → Comparator}

section Keys

variable {K V PatchVal : Type} [AsBytes K] (access : CfAccess)
  (cfName : String) (key : K)

/-- `get_raw`. -/
def getRaw (data : Db cmps) (fault : Option Fault) :
    StoreResult (Option Bytes) := do
  let serKey ← serializeKey key
  let cf ← access.family cfName
  (orFault fault (access.db.read data ⟨cf, serKey⟩)).mapError .rocksDb

/-- `get`. -/
def get [DeserializeOwned V] (data : Db cmps) (fault : Option Fault) :
    StoreResult (Option V) := do
  let serKey ← serializeKey key
  let cf ← access.family cfName
  let optBytes ←
    (orFault fault (access.db.read data ⟨cf, serKey⟩)).mapError .rocksDb
  match optBytes with
  | none => return none
  | some valBytes => some <$> deserializeValue valBytes

/-- `get_with_expiry`. -/
def getWithExpiry (data : Db cmps) (fault : Option Fault) :
    StoreResult (Option (ValueWithExpiry V)) := do
  match ← getRaw access cfName key data fault with
  | none => return none
  | some bytes => some <$> ValueWithExpiry.fromSlice bytes

/-- `exists`. -/
def «exists» (data : Db cmps) (fault : Option Fault) : StoreResult Bool := do
  let serKey ← serializeKey key
  let cf ← access.family cfName
  let optBytes ←
    (orFault fault (access.db.read data ⟨cf, serKey⟩)).mapError .rocksDb
  return optBytes.isSome

/-- The engine write at the end of a write method. -/
def write (op : WriteOp) (fault : Option Fault) :
    Method StoreError (Db cmps) Unit := fun data =>
  match fault with
  | none => (.ok (), data.apply op)
  | some fault => (.error (.rocksDb fault.error), data)

/-- `put_raw`. -/
def putRaw (rawValue : Bytes) (fault : Option Fault) :
    Method StoreError (Db cmps) Unit := do
  let serKey ← serializeKey key
  let cf ← access.family cfName
  write (.put ⟨cf, serKey⟩ rawValue) fault

/-- `put`. -/
def put [Serialize V] (value : V) (fault : Option Fault) :
    Method StoreError (Db cmps) Unit := do
  let serKey ← serializeKey key
  let serVal ← serializeValue value
  let cf ← access.family cfName
  write (.put ⟨cf, serKey⟩ serVal) fault

/-- `put_with_expiry`. -/
def putWithExpiry [Serialize V] (value : V) (expireTime : UInt64)
    (fault : Option Fault) : Method StoreError (Db cmps) Unit := do
  let vwe ← ValueWithExpiry.fromValue expireTime value
  putRaw access cfName key vwe.serializeForStorage fault

/-- `delete`. -/
def delete (fault : Option Fault) : Method StoreError (Db cmps) Unit := do
  let serKey ← serializeKey key
  let cf ← access.family cfName
  write (.delete ⟨cf, serKey⟩) fault

/-- `merge_raw`. -/
def mergeRaw (rawMergeOperand : Bytes) (fault : Option Fault) :
    Method StoreError (Db cmps) Unit := do
  let serKey ← serializeKey key
  let cf ← access.family cfName
  write (.merge ⟨cf, serKey⟩ rawMergeOperand) fault

/-- `merge`. -/
def merge [Serialize (MergeValue PatchVal)] (mergeValue : MergeValue PatchVal)
    (fault : Option Fault) : Method StoreError (Db cmps) Unit := do
  let serKey ← serializeKey key
  let serMergeOp ← serializeValue mergeValue
  let cf ← access.family cfName
  write (.merge ⟨cf, serKey⟩ serMergeOp) fault

end Keys

variable {SerKey K V S T OutK OutV : Type}

/-- `iterate` of the stores. -/
def iterate [AsBytes SerKey] (access : CfAccess) (data : Db cmps)
    (fault : Option Fault) (config : IterConfig SerKey S T OutK OutV) :
    StoreResult (IterationResult S T OutK OutV) × S :=
  iterateWith access
    (fun cf mode => cutBy fault (access.db.iterator data cf mode)) config

/-- `find_by_prefix` of the stores. -/
def findByPrefix [AsBytes K] [ByteDecodable K] [DeserializeOwned V]
    (access : CfAccess) (data : Db cmps) (fault : Option Fault)
    (cfName : String) (prefixKey : K) (direction : Direction) :
    StoreResult (List (K × V)) :=
  collectItems (.other "find_by_prefix: Expected DeserializedItems")
    (iterate access data fault
      (findByPrefixConfig cfName prefixKey direction)).1

/-- `find_from` of the stores. -/
def findFrom [AsBytes K] [ByteDecodable K] [DeserializeOwned V]
    (access : CfAccess) (data : Db cmps) (fault : Option Fault)
    (cfName : String) (startKey : K) (direction : Direction)
    (controlFn : ControlFn S) (captured : S) :
    StoreResult (List (K × V)) :=
  collectItems (.other "find_from: Expected DeserializedItems")
    (iterate access data fault
      (findFromConfig cfName startKey direction controlFn captured)).1

end CFOperations

/-- `RocksDbCFStore` of src/cf_store.rs. -/
structure RocksDbCFStore where
  db : DbHandle

namespace RocksDbCFStore

/-- `RocksDbCFStore::get_cf_handle`. -/
def getCfHandle (store : RocksDbCFStore) (cfName : String) :
    StoreResult String :=
  match store.db.cfHandle cfName with
  | some handle => .ok handle
  | none => .error (.unknownCf cfName)

def access (store : RocksDbCFStore) : CfAccess :=
  { db := store.db, getCfHandle := store.getCfHandle }

end RocksDbCFStore

/-- The lookup of both transactional stores: `cf_names` first, then the
handle. -/
def getConfiguredCfHandle (db : DbHandle) (cfNames : List String)
    (cfName : String) : StoreResult String :=
  if cfName ∉ cfNames then .error (.unknownCf cfName)
  else
    match db.cfHandle cfName with
    | some handle => .ok handle
    | none => .error (.unknownCf s!"CF '{cfName}' configured but handle not found.")

/-- `RocksDbCFTxnStore` of src/tx/cf_tx_store.rs; `cfNames` holds the keys of
its map `cf_names`. -/
structure RocksDbCFTxnStore where
  db : DbHandle
  cfNames : List String

namespace RocksDbCFTxnStore

/-- `RocksDbCFTxnStore::get_cf_handle`. -/
def getCfHandle (store : RocksDbCFTxnStore) (cfName : String) :
    StoreResult String :=
  getConfiguredCfHandle store.db store.cfNames cfName

def access (store : RocksDbCFTxnStore) : CfAccess :=
  { db := store.db, getCfHandle := store.getCfHandle }

end RocksDbCFTxnStore

/-- `RocksDbCFOptimisticTxnStore` of src/tx/cf_optimistic_tx_store.rs. -/
structure RocksDbCFOptimisticTxnStore where
  db : DbHandle
  cfNames : List String

namespace RocksDbCFOptimisticTxnStore

/-- `RocksDbCFOptimisticTxnStore::get_cf_handle`. -/
def getCfHandle (store : RocksDbCFOptimisticTxnStore) (cfName : String) :
    StoreResult String :=
  getConfiguredCfHandle store.db store.cfNames cfName

def access (store : RocksDbCFOptimisticTxnStore) : CfAccess :=
  { db := store.db, getCfHandle := store.getCfHandle }

end RocksDbCFOptimisticTxnStore

/-- `RocksDbStore` of src/store.rs. -/
structure RocksDbStore where
  cfStore : RocksDbCFStore

/-- `RocksDbTxnStore` of src/tx/tx_store.rs. -/
structure RocksDbTxnStore where
  cfStore : RocksDbCFTxnStore

/-- `RocksDbOptimisticTxnStore` of src/tx/optimistic_tx_store.rs. -/
structure RocksDbOptimisticTxnStore where
  cfStore : RocksDbCFOptimisticTxnStore

section FindByPrefix

variable {cmps : String → Comparator} {K V : Type} [AsBytes K]
  [ByteDecodable K] [DeserializeOwned V]

/-- `RocksDbCFStore::find_by_prefix`. -/
def RocksDbCFStore.findByPrefix (store : RocksDbCFStore) (data : Db cmps)
    (fault : Option Fault) (cfName : String) (prefixKey : K)
    (direction : Direction) : StoreResult (List (K × V)) :=
  CFOperations.findByPrefix store.access data fault cfName prefixKey direction

/-- `RocksDbCFTxnStore::find_by_prefix`. -/
def RocksDbCFTxnStore.findByPrefix (store : RocksDbCFTxnStore) (data : Db cmps)
    (fault : Option Fault) (cfName : String) (prefixKey : K)
    (direction : Direction) : StoreResult (List (K × V)) :=
  CFOperations.findByPrefix store.access data fault cfName prefixKey direction

/-- `RocksDbCFOptimisticTxnStore::find_by_prefix`. -/
def RocksDbCFOptimisticTxnStore.findByPrefix
    (store : RocksDbCFOptimisticTxnStore) (data : Db cmps)
    (fault : Option Fault) (cfName : String) (prefixKey : K)
    (direction : Direction) : StoreResult (List (K × V)) :=
  CFOperations.findByPrefix store.access data fault cfName prefixKey direction

/-- `RocksDbStore::find_by_prefix`. -/
def RocksDbStore.findByPrefix (store : RocksDbStore) (data : Db cmps)
    (fault : Option Fault) (prefixKey : K) (direction : Direction) :
    StoreResult (List (K × V)) :=
  store.cfStore.findByPrefix data fault defaultColumnFamilyName prefixKey
    direction

/-- `RocksDbTxnStore::find_by_prefix`. -/
def RocksDbTxnStore.findByPrefix (store : RocksDbTxnStore) (data : Db cmps)
    (fault : Option Fault) (prefixKey : K) (direction : Direction) :
    StoreResult (List (K × V)) :=
  store.cfStore.findByPrefix data fault defaultColumnFamilyName prefixKey
    direction

/-- `RocksDbOptimisticTxnStore::find_by_prefix`. -/
def RocksDbOptimisticTxnStore.findByPrefix (store : RocksDbOptimisticTxnStore)
    (data : Db cmps) (fault : Option Fault) (prefixKey : K)
    (direction : Direction) : StoreResult (List (K × V)) :=
  store.cfStore.findByPrefix data fault defaultColumnFamilyName prefixKey
    direction

end FindByPrefix

end RockSolid
