/-
Module: RockSolid.Core.TransactionContext
Layer: Core
Purpose: The pessimistic transaction context (src/tx/context.rs): staging,
  reading, iteration, and the ways it ends.
Trusted boundary: human-reviewed model of the source
Main exports: TransactionContext, its methods, commit, rollback, drop
-/
import RockSolid.Core.TxnStore

namespace RockSolid

open Foundation

/-- `TransactionContext` of src/tx/context.rs.  `txn` is the object behind the
`ManuallyDrop` field: only an explicit take or `ptr::read` frees it. -/
structure TransactionContext where
  store : RocksDbCFTxnStore
  txn : NativeTxn
  completed : Bool

namespace TransactionContext

variable {cmps : String → Comparator} {K V PatchVal : Type}

abbrev CtxMethod := Method StoreError TransactionContext

/-- `TransactionContext::new`. -/
def new (store : RocksDbCFTxnStore) : TransactionContext :=
  { store, txn := RocksDbCFTxnStore.beginTransaction, completed := false }

/-- `check_completed`. -/
def checkCompleted : CtxMethod Unit := fun self =>
  if self.completed then
    (.error (.other
      "TransactionContext already completed (committed or rolled back)"), self)
  else (.ok (), self)

theorem checkCompleted_of_running {ctx : TransactionContext}
    (running : ctx.completed = false) : checkCompleted ctx = (.ok (), ctx) :=
  if_neg (by simp [running])

theorem checkCompleted_of_completed {ctx : TransactionContext}
    (ended : ctx.completed = true) :
    checkCompleted ctx = (.error (.other
      "TransactionContext already completed (committed or rolled back)"), ctx) :=
  if_pos ended

/-- A call on the field `txn`, given the field `store`. -/
def onTxn {α : Type} (m : RocksDbCFTxnStore → TxnMethod α) : CtxMethod α :=
  fun self =>
    Method.zoom TransactionContext.txn (fun self txn => { self with txn })
      (m self.store) self

section Staging

variable [AsBytes K] (key : K) (fault : Option Fault)

/-- `set`. -/
def set [Serialize V] (val : V) : CtxMethod Unit := do
  checkCompleted
  onTxn fun store => store.putInTxnCf defaultColumnFamilyName key val fault

/-- `set_raw`. -/
def setRaw (rawVal : Bytes) : CtxMethod Unit := do
  checkCompleted
  let serKey ← serializeKey key
  onTxn fun _ =>
    native (NativeTxn.stage (.put ⟨defaultColumnFamilyName, serKey⟩ rawVal) fault)

/-- `set_with_expiry`. -/
def setWithExpiry [Serialize V] (val : V) (expireTime : UInt64) :
    CtxMethod Unit := do
  checkCompleted
  let serKey ← serializeKey key
  let vwe ← ValueWithExpiry.fromValue expireTime val
  onTxn fun _ =>
    native (NativeTxn.stage
      (.put ⟨defaultColumnFamilyName, serKey⟩ vwe.serializeForStorage) fault)

/-- `merge`. -/
def merge [Serialize (MergeValue PatchVal)] (mergeValue : MergeValue PatchVal) :
    CtxMethod Unit := do
  checkCompleted
  let serKey ← serializeKey key
  let serMergeOp ← serializeValue mergeValue
  onTxn fun _ =>
    native (NativeTxn.stage
      (.merge ⟨defaultColumnFamilyName, serKey⟩ serMergeOp) fault)

/-- `merge_raw`. -/
def mergeRaw (rawMergeOp : Bytes) : CtxMethod Unit := do
  checkCompleted
  let serKey ← serializeKey key
  onTxn fun _ =>
    native (NativeTxn.stage
      (.merge ⟨defaultColumnFamilyName, serKey⟩ rawMergeOp) fault)

/-- `delete`. -/
def delete : CtxMethod Unit := do
  checkCompleted
  let serKey ← serializeKey key
  onTxn fun _ =>
    native (NativeTxn.stage (.delete ⟨defaultColumnFamilyName, serKey⟩) fault)

variable (cfName : String)

/-- `put_cf`. -/
def putCf [Serialize V] (val : V) : CtxMethod Unit := do
  checkCompleted
  onTxn fun store => store.putInTxnCf cfName key val fault

/-- `put_cf_raw`. -/
def putCfRaw (rawVal : Bytes) : CtxMethod Unit := do
  checkCompleted
  onTxn fun store => store.putRawInTxn cfName key rawVal fault

/-- `put_cf_with_expiry`. -/
def putCfWithExpiry [Serialize V] (val : V) (expireTime : UInt64) :
    CtxMethod Unit := do
  checkCompleted
  onTxn fun store => store.putWithExpiryInTxn cfName key val expireTime fault

/-- `merge_cf`. -/
def mergeCf [Serialize (MergeValue PatchVal)]
    (mergeValue : MergeValue PatchVal) : CtxMethod Unit := do
  checkCompleted
  onTxn fun store => store.mergeInTxn cfName key mergeValue fault

/-- `merge_cf_raw`. -/
def mergeCfRaw (rawMergeOp : Bytes) : CtxMethod Unit := do
  checkCompleted
  onTxn fun store => store.mergeRawInTxn cfName key rawMergeOp fault

/-- `delete_cf`. -/
def deleteCf : CtxMethod Unit := do
  checkCompleted
  onTxn fun store => store.deleteInTxn cfName key fault

end Staging

section Reading

variable [AsBytes K] (key : K) (data : Db cmps) (fault : Option Fault)

/-- `get`. -/
def get [DeserializeOwned V] : CtxMethod (Option V) := do
  checkCompleted
  onTxn fun store => store.getInTxn defaultColumnFamilyName key data fault

/-- `get_raw`. -/
def getRaw : CtxMethod (Option Bytes) := do
  checkCompleted
  let serKey ← serializeKey key
  onTxn fun store =>
    native (NativeTxn.get store.db data ⟨defaultColumnFamilyName, serKey⟩ fault)

/-- `get_with_expiry`. -/
def getWithExpiry : CtxMethod (Option (ValueWithExpiry V)) := do
  checkCompleted
  match ← getRaw key data fault with
  | none => return none
  | some bytes => some <$> liftM (ValueWithExpiry.fromSlice (V := V) bytes)

/-- `exists`. -/
def «exists» : CtxMethod Bool := do
  checkCompleted
  let serKey ← serializeKey key
  let pinned ← onTxn fun store =>
    native (NativeTxn.get store.db data ⟨defaultColumnFamilyName, serKey⟩ fault)
  match pinned with
  | some _ => return true
  | none => return false

variable (cfName : String)

/-- `get_cf`. -/
def getCf [DeserializeOwned V] : CtxMethod (Option V) := do
  checkCompleted
  onTxn fun store => store.getInTxn cfName key data fault

/-- `get_cf_raw`. -/
def getCfRaw : CtxMethod (Option Bytes) := do
  checkCompleted
  onTxn fun store => store.getRawInTxn cfName key data fault

/-- `get_cf_with_expiry`. -/
def getCfWithExpiry : CtxMethod (Option (ValueWithExpiry V)) := do
  checkCompleted
  onTxn fun store => store.getWithExpiryInTxn cfName key data fault

/-- `exists_cf`. -/
def existsCf : CtxMethod Bool := do
  checkCompleted
  onTxn fun store => store.existsInTxn cfName key data fault

end Reading

section Iterating

variable {SerKey S T OutK OutV : Type} (data : Db cmps) (fault : Option Fault)

/-- `iterate`.  The iterator asked for is noted as a use of the native
transaction. -/
def iterate [AsBytes SerKey] (config : IterConfig SerKey S T OutK OutV)
    (self : TransactionContext) :
    (StoreResult (IterationResult S T OutK OutV) × S) × TransactionContext :=
  match checkCompleted self with
  | (.error e, self) => ((.error e, config.captured), self)
  | (.ok (), self) =>
      let source := fun cf mode =>
        self.txn.iterator self.store.db data cf mode fault
      let iterators := iteratorsOf self.store.access source config
      (iterateWith self.store.access source config,
        { self with txn := self.txn.didAll iterators })

variable [AsBytes K] [ByteDecodable K]

/-- `find_by_prefix`. -/
def findByPrefix [DeserializeOwned V] (cfName : String) (prefixKey : K)
    (direction : Direction) : CtxMethod (List (K × V)) := fun self =>
  let (result, self) :=
    iterate data fault (findByPrefixConfig cfName prefixKey direction) self
  (collectItems (.other "find_by_prefix: Expected DeserializedItems") result.1,
    self)

/-- `find_from`. -/
def findFrom [DeserializeOwned V] (cfName : String) (startKey : K)
    (direction : Direction) (controlFn : ControlFn S) (captured : S) :
    CtxMethod (List (K × V)) := fun self =>
  let (result, self) :=
    iterate data fault
      (findFromConfig cfName startKey direction controlFn captured) self
  (collectItems (.other "find_from: Expected DeserializedItems") result.1, self)

/-- `find_from_with_expire_val`. -/
def findFromWithExpireVal (cfName : String) (start : K) (reverse : Bool)
    (controlFn : ControlFn S) (captured : S) (self : TransactionContext) :
    Except String (List (K × ValueWithExpiry V)) × TransactionContext :=
  let (result, self) :=
    iterate data fault
      (findFromWithExpireValConfig cfName start reverse controlFn captured) self
  (collectItemsText "Expected DeserializedItems" result.1, self)

end Iterating

section Ending

/-- `commit`: on success the flag is set after the native call; on failure the
early return leaves it unset, although the call has taken the transaction. -/
def commit (data : Db cmps) (fault : Option Fault) (self : TransactionContext) :
    StoreResult Unit × TransactionContext × Db cmps :=
  match checkCompleted self with
  | (.error e, self) => (.error e, self, data)
  | (.ok (), self) =>
      match self.txn.commit data fault with
      | (.error e, txn, data) => (.error (.rocksDb e), { self with txn }, data)
      | (.ok (), txn, data) => (.ok (), { self with txn, completed := true }, data)

/-- `rollback`: the native call borrows the transaction. -/
def rollback (fault : Option Fault) : CtxMethod Unit := fun self =>
  match checkCompleted self with
  | (.error e, self) => (.error e, self)
  | (.ok (), self) =>
      match self.txn.rollback fault with
      | (.error e, txn) => (.error (.rocksDb e), { self with txn })
      | (.ok (), txn) => (.ok (), { self with txn, completed := true })

/-- `Drop for TransactionContext`; a failed rollback is only logged. -/
def drop (fault : Option Fault) (self : TransactionContext) :
    TransactionContext :=
  if self.completed then self
  else { self with txn := (self.txn.rollback fault).2.free }

end Ending

end TransactionContext

end RockSolid
