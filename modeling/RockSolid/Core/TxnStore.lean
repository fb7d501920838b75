/-
Module: RockSolid.Core.TxnStore
Layer: Core
Purpose: Operations of the pessimistic store inside a transaction
  (src/tx/cf_tx_store.rs): begin, the `_in_txn` family, and the two ends of
  `execute_transaction`; the free functions on a transaction (src/tx/mod.rs).
Trusted boundary: human-reviewed model of the source
Main exports: RocksDbCFTxnStore.beginTransaction, getInTxn, putInTxnCf,
  deleteInTxn, mergeInTxn, finishTransaction, Tx.getInTxn, Tx.mergeInTxn,
  Tx.removeInTxn, Tx.commitTransaction
-/
import RockSolid.Core.Stores

namespace RockSolid.RocksDbCFTxnStore

open Foundation

variable {cmps : String → Comparator} {K V PatchVal : Type}

/-- `begin_transaction`: default `TransactionOptions` set no snapshot. -/
def beginTransaction : NativeTxn :=
  NativeTxn.create false 0

section InTxn

variable [AsBytes K] (store : RocksDbCFTxnStore) (cfName : String) (key : K)

/-- The pinned read of the `_in_txn` getters. -/
def getPinnedInTxn (data : Db cmps) (fault : Option Fault) :
    TxnMethod (Option Bytes) := do
  let serKey ← serializeKey key
  let cf ← store.access.family cfName
  native (NativeTxn.get store.db data ⟨cf, serKey⟩ fault)

/-- `get_in_txn`. -/
def getInTxn [DeserializeOwned V] (data : Db cmps) (fault : Option Fault) :
    TxnMethod (Option V) := do
  match ← getPinnedInTxn store cfName key data fault with
  | none => return none
  | some valBytes => some <$> liftM (deserializeValue (V := V) valBytes)

/-- `get_raw_in_txn`. -/
def getRawInTxn (data : Db cmps) (fault : Option Fault) :
    TxnMethod (Option Bytes) :=
  getPinnedInTxn store cfName key data fault

/-- `get_with_expiry_in_txn`. -/
def getWithExpiryInTxn (data : Db cmps) (fault : Option Fault) :
    TxnMethod (Option (ValueWithExpiry V)) := do
  match ← getRawInTxn store cfName key data fault with
  | none => return none
  | some bytes => some <$> liftM (ValueWithExpiry.fromSlice (V := V) bytes)

/-- `exists_in_txn`. -/
def existsInTxn (data : Db cmps) (fault : Option Fault) : TxnMethod Bool := do
  let optBytes ← getPinnedInTxn store cfName key data fault
  return optBytes.isSome

/-- `put_raw_in_txn`. -/
def putRawInTxn (rawValue : Bytes) (fault : Option Fault) : TxnMethod Unit := do
  let serKey ← serializeKey key
  let cf ← store.access.family cfName
  native (NativeTxn.stage (.put ⟨cf, serKey⟩ rawValue) fault)

/-- `put_in_txn_cf`. -/
def putInTxnCf [Serialize V] (value : V) (fault : Option Fault) :
    TxnMethod Unit := do
  let serKey ← serializeKey key
  let serVal ← serializeValue value
  let cf ← store.access.family cfName
  native (NativeTxn.stage (.put ⟨cf, serKey⟩ serVal) fault)

/-- `put_with_expiry_in_txn`. -/
def putWithExpiryInTxn [Serialize V] (value : V) (expireTime : UInt64)
    (fault : Option Fault) : TxnMethod Unit := do
  let vwe ← ValueWithExpiry.fromValue expireTime value
  putRawInTxn store cfName key vwe.serializeForStorage fault

/-- `delete_in_txn`. -/
def deleteInTxn (fault : Option Fault) : TxnMethod Unit := do
  let serKey ← serializeKey key
  let cf ← store.access.family cfName
  native (NativeTxn.stage (.delete ⟨cf, serKey⟩) fault)

/-- `merge_in_txn`. -/
def mergeInTxn [Serialize (MergeValue PatchVal)]
    (mergeValue : MergeValue PatchVal) (fault : Option Fault) :
    TxnMethod Unit := do
  let serKey ← serializeKey key
  let serMergeOp ← serializeValue mergeValue
  let cf ← store.access.family cfName
  native (NativeTxn.stage (.merge ⟨cf, serKey⟩ serMergeOp) fault)

/-- `merge_raw_in_txn`. -/
def mergeRawInTxn (rawMergeOperand : Bytes) (fault : Option Fault) :
    TxnMethod Unit := do
  let serKey ← serializeKey key
  let cf ← store.access.family cfName
  native (NativeTxn.stage (.merge ⟨cf, serKey⟩ rawMergeOperand) fault)

end InTxn

/-- What `execute_transaction` does once the operation has returned: commit and
pass the result on, or roll back, drop and pass the error on. -/
def finishTransaction {R : Type} (data : Db cmps) (fault : Option Fault)
    (result : StoreResult R) (txn : NativeTxn) :
    StoreResult R × NativeTxn × Db cmps :=
  match result with
  | .ok value =>
      let (committed, txn, data) := txn.commit data fault
      ((committed.mapError .rocksDb).map fun _ => value, txn, data)
  | .error e =>
      let (_, txn) := txn.rollback fault
      (.error e, txn.free, data)

end RockSolid.RocksDbCFTxnStore

-- The free functions of src/tx/mod.rs work on the default family.
namespace RockSolid.Tx

open Foundation

variable {cmps : String → Comparator} {K V PatchVal : Type}

/-- `commit_transaction`. -/
def commitTransaction (data : Db cmps) (fault : Option Fault) (txn : NativeTxn) :
    StoreResult Unit × NativeTxn × Db cmps :=
  let (result, txn, data) := txn.commit data fault
  (result.mapError .rocksDb, txn, data)

variable [AsBytes K] (key : K) (fault : Option Fault)

/-- `tx::get_in_txn`. -/
def getInTxn [DeserializeOwned V] (db : DbHandle) (data : Db cmps) :
    TxnMethod (Option V) := do
  let sk ← serializeKey key
  match ← native (NativeTxn.get db data ⟨defaultColumnFamilyName, sk⟩ fault) with
  | some pv => some <$> liftM (deserializeValue (V := V) pv)
  | none => return none

/-- `tx::merge_in_txn`. -/
def mergeInTxn [Serialize (MergeValue PatchVal)]
    (mergeValue : MergeValue PatchVal) : TxnMethod Unit := do
  let sk ← serializeKey key
  let smo ← serializeValue mergeValue
  native (NativeTxn.stage (.merge ⟨defaultColumnFamilyName, sk⟩ smo) fault)

/-- `tx::remove_in_txn`. -/
def removeInTxn : TxnMethod Unit := do
  let sk ← serializeKey key
  native (NativeTxn.stage (.delete ⟨defaultColumnFamilyName, sk⟩) fault)

end RockSolid.Tx
