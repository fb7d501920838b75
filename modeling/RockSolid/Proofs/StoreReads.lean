/-
Module: RockSolid.Proofs.StoreReads
Layer: Proofs
Purpose: Every read of every store is one engine read followed by the decoding
  of what was found, whether the store shares the method bodies, delegates to
  them or has bodies of its own.
Trusted boundary: none
Main exports: getConfiguredCfHandle_ok, Store.family_ok, CfAccess.read,
  Store.getRaw_eq_read, Store.get_eq_read,
  Store.getWithExpiry_eq_read, Store.exists_eq_read
-/
import RockSolid.Semantics.StoreKinds

namespace RockSolid

variable {cmps : String → Comparator} {K V : Type}

section Families

theorem DbHandle.cfHandle_eq_some {db : DbHandle} {cfName handle : String}
    (known : db.cfHandle cfName = some handle) : handle = cfName := by
  rw [DbHandle.cfHandle] at known
  split at known
  · cases known
    rfl
  · cases known

/-- The handle a configured family resolves to is the family itself. -/
theorem getConfiguredCfHandle_ok {db : DbHandle} {cfNames : List String}
    {cfName handle : String}
    (found : getConfiguredCfHandle db cfNames cfName = .ok handle) :
    handle = cfName := by
  rw [getConfiguredCfHandle] at found
  split at found
  · cases found
  · split at found
    · next known =>
        cases found
        exact DbHandle.cfHandle_eq_some known
    · cases found

theorem RocksDbCFStore.getCfHandle_ok {store : RocksDbCFStore}
    {cfName handle : String}
    (found : store.getCfHandle cfName = .ok handle) : handle = cfName := by
  rw [RocksDbCFStore.getCfHandle] at found
  split at found
  · next known =>
      cases found
      exact DbHandle.cfHandle_eq_some known
  · cases found

theorem CfAccess.family_ok {access : CfAccess} {cfName cf : String}
    (handleIsName : ∀ handle, access.getCfHandle cfName = .ok handle →
      handle = cfName)
    (found : access.family cfName = .ok cf) : cf = cfName := by
  rw [CfAccess.family] at found
  split at found
  · next isDefault =>
      cases found
      exact isDefault.symm
  · exact handleIsName cf found

/-- A look-up that succeeds finds the family of that name. -/
theorem Store.family_ok {store : Store} {cfName cf : String}
    (found : store.access.family cfName = .ok cf) : cf = cfName := by
  apply CfAccess.family_ok _ found
  cases store with
  | cfStore store => exact fun _ => RocksDbCFStore.getCfHandle_ok
  | defaultStore store => exact fun _ => RocksDbCFStore.getCfHandle_ok
  | cfTxnStore store => exact fun _ => getConfiguredCfHandle_ok
  | cfOptimisticTxnStore store => exact fun _ => getConfiguredCfHandle_ok
  | defaultTxnStore store => exact fun _ => getConfiguredCfHandle_ok
  | defaultOptimisticTxnStore store => exact fun _ => getConfiguredCfHandle_ok

end Families

/-- One engine read in the family a name stands for. -/
def CfAccess.read (access : CfAccess) (cfName : String) (data : Db cmps)
    (fault : Option Fault) (keyBytes : Bytes) : StoreResult (Option Bytes) := do
  let cf ← access.family cfName
  (orFault fault (access.db.read data ⟨cf, keyBytes⟩)).mapError .rocksDb

variable [AsBytes K]

namespace CFOperations

variable (access : CfAccess) (cfName : String) (key : K) (data : Db cmps)
  (fault : Option Fault)

theorem getRaw_eq_read :
    getRaw access cfName key data fault =
      access.read cfName data fault (AsBytes.asBytes key) := rfl

theorem getWithExpiry_eq_read :
    getWithExpiry (V := V) access cfName key data fault =
      access.read cfName data fault (AsBytes.asBytes key) >>=
        decodeOptional ValueWithExpiry.fromSlice := by
  rw [getWithExpiry, getRaw_eq_read]
  rcases access.read cfName data fault (AsBytes.asBytes key) with
    e | (_ | bytes) <;> rfl

/-- `get` and `exists` repeat the body of `get_raw`. -/
theorem getRaw_bind {α : Type} (next : Option Bytes → StoreResult α) :
    (do
      let serKey ← serializeKey key
      let cf ← access.family cfName
      let optBytes ←
        (orFault fault (access.db.read data ⟨cf, serKey⟩)).mapError .rocksDb
      next optBytes) =
      access.read cfName data fault (AsBytes.asBytes key) >>= next := by
  rw [CfAccess.read]
  simp only [serializeKey, bind, Except.bind]
  cases access.family cfName <;> rfl

theorem get_eq_read [DeserializeOwned V] :
    get access cfName key data fault =
      access.read cfName data fault (AsBytes.asBytes key) >>=
        decodeOptional (deserializeValue (V := V)) := by
  rw [← getRaw_bind, get]
  rfl

theorem exists_eq_read :
    CFOperations.exists access cfName key data fault =
      access.read cfName data fault (AsBytes.asBytes key) >>=
        fun optBytes => .ok optBytes.isSome := by
  rw [← getRaw_bind, CFOperations.exists]
  rfl

end CFOperations

namespace RocksDbTxnStore

variable (store : RocksDbTxnStore) (key : K) (data : Db cmps)
  (fault : Option Fault)

theorem getRaw_eq_read :
    store.getRaw key data fault =
      store.cfStore.access.read defaultColumnFamilyName data fault
        (AsBytes.asBytes key) := by
  rw [CfAccess.read, CfAccess.family_default]
  rfl

theorem get_eq_read [DeserializeOwned V] :
    store.get key data fault =
      store.cfStore.access.read defaultColumnFamilyName data fault
        (AsBytes.asBytes key) >>= decodeOptional (deserializeValue (V := V)) := by
  rw [← getRaw_eq_read]
  simp only [get, getRaw, serializeKey, bind, Except.bind]
  rcases store.getPinned data fault (AsBytes.asBytes key) with
    e | (_ | bytes) <;> rfl

theorem getWithExpiry_eq_read :
    store.getWithExpiry (V := V) key data fault =
      store.cfStore.access.read defaultColumnFamilyName data fault
        (AsBytes.asBytes key) >>= decodeOptional ValueWithExpiry.fromSlice := by
  rw [getWithExpiry, getRaw_eq_read]
  rcases store.cfStore.access.read defaultColumnFamilyName data fault
    (AsBytes.asBytes key) with e | (_ | bytes) <;> rfl

theorem exists_eq_read :
    store.exists key data fault =
      store.cfStore.access.read defaultColumnFamilyName data fault
        (AsBytes.asBytes key) >>= fun optBytes => .ok optBytes.isSome := by
  rw [← getRaw_eq_read]
  simp only [RocksDbTxnStore.exists, getRaw, serializeKey, bind, Except.bind]
  rcases store.getPinned data fault (AsBytes.asBytes key) with
    e | (_ | bytes) <;> rfl

end RocksDbTxnStore

namespace Store

variable (store : Store) (cfName : String) (key : K) (data : Db cmps)
  (fault : Option Fault)

theorem getRaw_eq_read :
    store.getRaw cfName key data fault =
      store.access.read (store.asked cfName) data fault
        (AsBytes.asBytes key) := by
  cases store with
  | defaultTxnStore store => exact store.getRaw_eq_read key data fault
  | _ => exact CFOperations.getRaw_eq_read _ _ key data fault

theorem get_eq_read [DeserializeOwned V] :
    store.get cfName key data fault =
      store.access.read (store.asked cfName) data fault (AsBytes.asBytes key) >>=
        decodeOptional (deserializeValue (V := V)) := by
  cases store with
  | defaultTxnStore store => exact store.get_eq_read key data fault
  | _ => exact CFOperations.get_eq_read _ _ key data fault

theorem getWithExpiry_eq_read :
    store.getWithExpiry (V := V) cfName key data fault =
      store.access.read (store.asked cfName) data fault (AsBytes.asBytes key) >>=
        decodeOptional ValueWithExpiry.fromSlice := by
  cases store with
  | defaultTxnStore store => exact store.getWithExpiry_eq_read key data fault
  | _ => exact CFOperations.getWithExpiry_eq_read _ _ key data fault

theorem exists_eq_read :
    store.exists cfName key data fault =
      store.access.read (store.asked cfName) data fault (AsBytes.asBytes key) >>=
        fun optBytes => .ok optBytes.isSome := by
  cases store with
  | defaultTxnStore store => exact store.exists_eq_read key data fault
  | _ => exact CFOperations.exists_eq_read _ _ key data fault

/-- In an open family a single read is what the engine answers for its key. -/
theorem read_of_opens {store : Store} {cfName : String} {data : Db cmps}
    {fault : Option Fault} (opens : store.Opens cfName) (keyBytes : Bytes) :
    store.access.read (store.asked cfName) data fault keyBytes =
      (store.answer cfName data fault keyBytes).mapError .rocksDb := by
  have found : store.access.family (store.asked cfName) =
    .ok (store.asked cfName) := opens
  rw [CfAccess.read, found]
  rfl

end Store

end RockSolid
