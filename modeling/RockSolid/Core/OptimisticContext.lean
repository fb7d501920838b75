/-
Module: RockSolid.Core.OptimisticContext
Layer: Core
Purpose: The optimistic transaction context (src/tx/optimistic_context.rs):
  staging, reading, iteration, and the ways it ends.
Trusted boundary: human-reviewed model of the source
Main exports: OptimisticTransactionContext, its methods, commit, rollback, drop,
  RocksDbCFOptimisticTxnStore.transactionContext
-/
import RockSolid.Core.Stores

namespace RockSolid

open Foundation

/-- `OptimisticTransactionContext` of src/tx/optimistic_context.rs.  `txn` is the
object behind the `ManuallyDrop` field: only an explicit take frees it. -/
structure OptimisticTransactionContext where
  store : RocksDbCFOptimisticTxnStore
  txn : NativeTxn
  completed : Bool

namespace OptimisticTransactionContext

variable {cmps : String → Comparator} {K V PatchVal : Type}

abbrev CtxMethod := Method StoreError OptimisticTransactionContext

/-- `OptimisticTransactionContext::new`, at a position of the commit history. -/
def new (store : RocksDbCFOptimisticTxnStore) (withSnapshot : Bool)
    (position : Nat) : OptimisticTransactionContext :=
  { store, txn := NativeTxn.create withSnapshot position, completed := false }

/-- `check_completed`. -/
def checkCompleted : CtxMethod Unit := fun self =>
  if self.completed then
    (.error (.other
      "OptimisticTransactionContext already completed (committed or rolled back)"),
      self)
  else (.ok (), self)

theorem checkCompleted_of_running {ctx : OptimisticTransactionContext}
    (running : ctx.completed = false) : checkCompleted ctx = (.ok (), ctx) :=
  if_neg (by simp [running])

theorem checkCompleted_of_completed {ctx : OptimisticTransactionContext}
    (ended : ctx.completed = true) :
    checkCompleted ctx = (.error (.other
      "OptimisticTransactionContext already completed (committed or rolled back)"), ctx) :=
  if_pos ended

/-- `self.store.get_cf_handle(cf_name)`. -/
def getCfHandle (cfName : String) : CtxMethod String := fun self =>
  (self.store.getCfHandle cfName, self)

/-- A native call on the field `txn`. -/
def onTxn {α : Type} (m : TxnMethod α) : CtxMethod α :=
  Method.zoom OptimisticTransactionContext.txn
    (fun self txn => { self with txn }) m

/-- `self.txn.put`, `delete`, `merge` and their `_cf` forms. -/
def stage (op : WriteOp) (fault : Option Fault) : CtxMethod Unit :=
  onTxn (native (NativeTxn.stage op fault))

/-- `self.txn.get`, `get_pinned` and their `_cf` forms. -/
def read (data : Db cmps) (at_ : CfKey) (fault : Option Fault) :
    CtxMethod (Option Bytes) := fun self =>
  onTxn (native (NativeTxn.get self.store.db data at_ fault)) self

section Staging

variable [AsBytes K] (key : K) (fault : Option Fault)

/-- `set`. -/
def set [Serialize V] (val : V) : CtxMethod Unit := do
  checkCompleted
  let serKey ← serializeKey key
  let serVal ← serializeValue val
  stage (.put ⟨defaultColumnFamilyName, serKey⟩ serVal) fault

/-- `set_raw`. -/
def setRaw (rawVal : Bytes) : CtxMethod Unit := do
  checkCompleted
  let serKey ← serializeKey key
  stage (.put ⟨defaultColumnFamilyName, serKey⟩ rawVal) fault

/-- `set_with_expiry`. -/
def setWithExpiry [Serialize V] (val : V) (expireTime : UInt64) :
    CtxMethod Unit := do
  checkCompleted
  let serKey ← serializeKey key
  let vwe ← ValueWithExpiry.fromValue expireTime val
  stage (.put ⟨defaultColumnFamilyName, serKey⟩ vwe.serializeForStorage) fault

/-- `merge`. -/
def merge [Serialize (MergeValue PatchVal)] (mergeValue : MergeValue PatchVal) :
    CtxMethod Unit := do
  checkCompleted
  let serKey ← serializeKey key
  let serMergeOp ← serializeValue mergeValue
  stage (.merge ⟨defaultColumnFamilyName, serKey⟩ serMergeOp) fault

/-- `merge_raw`. -/
def mergeRaw (rawMergeOp : Bytes) : CtxMethod Unit := do
  checkCompleted
  let serKey ← serializeKey key
  stage (.merge ⟨defaultColumnFamilyName, serKey⟩ rawMergeOp) fault

/-- `delete`. -/
def delete : CtxMethod Unit := do
  checkCompleted
  let serKey ← serializeKey key
  stage (.delete ⟨defaultColumnFamilyName, serKey⟩) fault

variable (cfName : String)

/-- `put_cf`. -/
def putCf [Serialize V] (val : V) : CtxMethod Unit := do
  checkCompleted
  let handle ← getCfHandle cfName
  let serKey ← serializeKey key
  let serVal ← serializeValue val
  stage (.put ⟨handle, serKey⟩ serVal) fault

/-- `put_cf_raw`. -/
def putCfRaw (rawVal : Bytes) : CtxMethod Unit := do
  checkCompleted
  let handle ← getCfHandle cfName
  let serKey ← serializeKey key
  stage (.put ⟨handle, serKey⟩ rawVal) fault

/-- `put_cf_with_expiry`. -/
def putCfWithExpiry [Serialize V] (val : V) (expireTime : UInt64) :
    CtxMethod Unit := do
  checkCompleted
  let vwe ← ValueWithExpiry.fromValue expireTime val
  putCfRaw key fault cfName vwe.serializeForStorage

/-- `merge_cf`. -/
def mergeCf [Serialize (MergeValue PatchVal)]
    (mergeValue : MergeValue PatchVal) : CtxMethod Unit := do
  checkCompleted
  let handle ← getCfHandle cfName
  let serKey ← serializeKey key
  let serMergeOp ← serializeValue mergeValue
  stage (.merge ⟨handle, serKey⟩ serMergeOp) fault

/-- `merge_cf_raw`. -/
def mergeCfRaw (rawMergeOp : Bytes) : CtxMethod Unit := do
  checkCompleted
  let handle ← getCfHandle cfName
  let serKey ← serializeKey key
  stage (.merge ⟨handle, serKey⟩ rawMergeOp) fault

/-- `delete_cf`. -/
def deleteCf : CtxMethod Unit := do
  checkCompleted
  let handle ← getCfHandle cfName
  let serKey ← serializeKey key
  stage (.delete ⟨handle, serKey⟩) fault

end Staging

section Reading

variable [AsBytes K] (key : K) (data : Db cmps) (fault : Option Fault)

/-- `get`. -/
def get [DeserializeOwned V] : CtxMethod (Option V) := do
  checkCompleted
  let serKey ← serializeKey key
  match ← read data ⟨defaultColumnFamilyName, serKey⟩ fault with
  | some pinnedVal => some <$> liftM (deserializeValue (V := V) pinnedVal)
  | none => return none

/-- `get_raw`. -/
def getRaw : CtxMethod (Option Bytes) := do
  checkCompleted
  let serKey ← serializeKey key
  read data ⟨defaultColumnFamilyName, serKey⟩ fault

/-- `get_with_expiry`. -/
def getWithExpiry : CtxMethod (Option (ValueWithExpiry V)) := do
  match ← getRaw key data fault with
  | none => return none
  | some bytes => some <$> liftM (ValueWithExpiry.fromSlice (V := V) bytes)

/-- `exists`. -/
def «exists» : CtxMethod Bool := do
  checkCompleted
  let serKey ← serializeKey key
  let found ← read data ⟨defaultColumnFamilyName, serKey⟩ fault
  return found.isSome

variable (cfName : String)

/-- `get_cf`. -/
def getCf [DeserializeOwned V] : CtxMethod (Option V) := do
  checkCompleted
  let handle ← getCfHandle cfName
  let serKey ← serializeKey key
  match ← read data ⟨handle, serKey⟩ fault with
  | some pinnedVal => some <$> liftM (deserializeValue (V := V) pinnedVal)
  | none => return none

/-- `get_cf_raw`. -/
def getCfRaw : CtxMethod (Option Bytes) := do
  checkCompleted
  let handle ← getCfHandle cfName
  let serKey ← serializeKey key
  read data ⟨handle, serKey⟩ fault

/-- `get_cf_with_expiry`. -/
def getCfWithExpiry : CtxMethod (Option (ValueWithExpiry V)) := do
  match ← getCfRaw key data fault cfName with
  | none => return none
  | some bytes => some <$> liftM (ValueWithExpiry.fromSlice (V := V) bytes)

/-- `exists_cf`. -/
def existsCf : CtxMethod Bool := do
  checkCompleted
  let handle ← getCfHandle cfName
  let serKey ← serializeKey key
  let found ← read data ⟨handle, serKey⟩ fault
  return found.isSome

end Reading

section Iterating

variable {SerKey S T OutK OutV : Type} (data : Db cmps) (fault : Option Fault)

/-- `iterate`.  The iterator asked for is noted as a use of the native
transaction. -/
def iterate [AsBytes SerKey] (config : IterConfig SerKey S T OutK OutV)
    (self : OptimisticTransactionContext) :
    (StoreResult (IterationResult S T OutK OutV) × S) ×
      OptimisticTransactionContext :=
  match checkCompleted self with
  | (.error e, self) => ((.error e, config.captured), self)
  | (.ok (), self) =>
      let source := fun cf mode =>
        self.txn.iterator self.store.db data cf mode fault
      let iterators := iteratorsOf self.store.access source config
      (iterateWith self.store.access source config,
        { self with txn := self.txn.didAll iterators })

variable [AsBytes K] [ByteDecodable K]

/-- `find_by_prefix`. -/
def findByPrefix [DeserializeOwned V] (cfName : String) (prefixKey : K)
    (direction : Direction) : CtxMethod (List (K × V)) := fun self =>
  let (result, self) :=
    iterate data fault (findByPrefixConfig cfName prefixKey direction) self
  (collectItems (.other "find_by_prefix: Expected DeserializedItems") result.1,
    self)

/-- `find_from`. -/
def findFrom [DeserializeOwned V] (cfName : String) (startKey : K)
    (direction : Direction) (controlFn : ControlFn S) (captured : S) :
    CtxMethod (List (K × V)) := fun self =>
  let (result, self) :=
    iterate data fault
      (findFromConfig cfName startKey direction controlFn captured) self
  (collectItems (.other "find_from: Expected DeserializedItems") result.1, self)

/-- `find_from_with_expire_val`. -/
def findFromWithExpireVal (cfName : String) (start : K) (reverse : Bool)
    (controlFn : ControlFn S) (captured : S) (self : OptimisticTransactionContext) :
    Except String (List (K × ValueWithExpiry V)) ×
      OptimisticTransactionContext :=
  let (result, self) :=
    iterate data fault
      (findFromWithExpireValConfig cfName start reverse controlFn captured) self
  (collectItemsText "Expected DeserializedItems" result.1, self)

end Iterating

section Ending

/-- `commit`: the transaction is taken and the flag set before the native call
returns. -/
def commit (data : Db cmps) (fault : Option Fault)
    (self : OptimisticTransactionContext) :
    StoreResult Unit × OptimisticTransactionContext × Db cmps :=
  match checkCompleted self with
  | (.error e, self) => (.error e, self, data)
  | (.ok (), self) =>
      let (result, txn, data) := self.txn.commit data fault
      (result.mapError .rocksDb, { self with txn, completed := true }, data)

/-- `rollback`: the taken transaction is freed when the method returns. -/
def rollback (fault : Option Fault) : CtxMethod Unit := fun self =>
  match checkCompleted self with
  | (.error e, self) => (.error e, self)
  | (.ok (), self) =>
      let (result, txn) := self.txn.rollback fault
      (result.mapError .rocksDb, { self with txn := txn.free, completed := true })

/-- `Drop for OptimisticTransactionContext`; a failed rollback is only logged. -/
def drop (fault : Option Fault) (self : OptimisticTransactionContext) :
    OptimisticTransactionContext :=
  if self.completed then self
  else { self with txn := (self.txn.rollback fault).2.free }

end Ending

end OptimisticTransactionContext

namespace RocksDbCFOptimisticTxnStore

/-- `transaction_context`. -/
def transactionContext (store : RocksDbCFOptimisticTxnStore) (position : Nat) :
    OptimisticTransactionContext :=
  OptimisticTransactionContext.new store true position

/-- `blind_transaction_context`. -/
def blindTransactionContext (store : RocksDbCFOptimisticTxnStore)
    (position : Nat) : OptimisticTransactionContext :=
  OptimisticTransactionContext.new store false position

end RocksDbCFOptimisticTxnStore

end RockSolid
