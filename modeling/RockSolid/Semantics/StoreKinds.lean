/-
Module: RockSolid.Semantics.StoreKinds
Layer: Semantics
Purpose: The stores of the crate as one type, with the calls of each, so that a
  property can be stated of every store at once.
Trusted boundary: a statement of intent
Main exports: Store, Store.access, Store.asked, Store.get, Store.multiget,
  Store.put, Store.merge, Store.delete, Store.findByPrefix, Store.findFrom,
  Store.answer, Store.ReadFails, Store.FindsUndecodable, Store.Opens,
  decodeOptional
-/
import RockSolid.Core.StoreWrites

namespace RockSolid

open Foundation

/-- The column-family stores and their default-family wrappers. -/
inductive Store where
  | cfStore (store : RocksDbCFStore)
  | cfTxnStore (store : RocksDbCFTxnStore)
  | cfOptimisticTxnStore (store : RocksDbCFOptimisticTxnStore)
  | defaultStore (store : RocksDbStore)
  | defaultTxnStore (store : RocksDbTxnStore)
  | defaultOptimisticTxnStore (store : RocksDbOptimisticTxnStore)

namespace Store

/-- How it looks a family up. -/
def access : Store → CfAccess
  | .cfStore store => store.access
  | .cfTxnStore store => store.access
  | .cfOptimisticTxnStore store => store.access
  | .defaultStore store => store.cfStore.access
  | .defaultTxnStore store => store.cfStore.access
  | .defaultOptimisticTxnStore store => store.cfStore.access

/-- The family a call is about: a wrapper takes no name. -/
def asked (store : Store) (cfName : String) : String :=
  match store with
  | .cfStore _ | .cfTxnStore _ | .cfOptimisticTxnStore _ => cfName
  | .defaultStore _ | .defaultTxnStore _ | .defaultOptimisticTxnStore _ =>
      defaultColumnFamilyName

variable {cmps : String → Comparator} {K V : Type} [AsBytes K]

section OneKey

variable (store : Store) (cfName : String) (key : K) (data : Db cmps)
  (fault : Option Fault)

/-- `get`. -/
def get [DeserializeOwned V] : StoreResult (Option V) :=
  match store with
  | .cfStore store => CFOperations.get store.access cfName key data fault
  | .cfTxnStore store => CFOperations.get store.access cfName key data fault
  | .cfOptimisticTxnStore store =>
      CFOperations.get store.access cfName key data fault
  | .defaultStore store =>
      DefaultCFOperations.get store.cfStore.access key data fault
  | .defaultTxnStore store => store.get key data fault
  | .defaultOptimisticTxnStore store =>
      DefaultCFOperations.get store.cfStore.access key data fault

/-- `get_raw`. -/
def getRaw : StoreResult (Option Bytes) :=
  match store with
  | .cfStore store => CFOperations.getRaw store.access cfName key data fault
  | .cfTxnStore store => CFOperations.getRaw store.access cfName key data fault
  | .cfOptimisticTxnStore store =>
      CFOperations.getRaw store.access cfName key data fault
  | .defaultStore store =>
      DefaultCFOperations.getRaw store.cfStore.access key data fault
  | .defaultTxnStore store => store.getRaw key data fault
  | .defaultOptimisticTxnStore store =>
      DefaultCFOperations.getRaw store.cfStore.access key data fault

/-- `get_with_expiry`. -/
def getWithExpiry : StoreResult (Option (ValueWithExpiry V)) :=
  match store with
  | .cfStore store =>
      CFOperations.getWithExpiry store.access cfName key data fault
  | .cfTxnStore store =>
      CFOperations.getWithExpiry store.access cfName key data fault
  | .cfOptimisticTxnStore store =>
      CFOperations.getWithExpiry store.access cfName key data fault
  | .defaultStore store =>
      DefaultCFOperations.getWithExpiry store.cfStore.access key data fault
  | .defaultTxnStore store => store.getWithExpiry key data fault
  | .defaultOptimisticTxnStore store =>
      DefaultCFOperations.getWithExpiry store.cfStore.access key data fault

/-- `exists`. -/
def «exists» : StoreResult Bool :=
  match store with
  | .cfStore store => CFOperations.exists store.access cfName key data fault
  | .cfTxnStore store => CFOperations.exists store.access cfName key data fault
  | .cfOptimisticTxnStore store =>
      CFOperations.exists store.access cfName key data fault
  | .defaultStore store =>
      DefaultCFOperations.exists store.cfStore.access key data fault
  | .defaultTxnStore store => store.exists key data fault
  | .defaultOptimisticTxnStore store =>
      DefaultCFOperations.exists store.cfStore.access key data fault

end OneKey

section ManyKeys

variable (store : Store) (cfName : String) (keys : List K) (data : Db cmps)
  (faults : Bytes → Option Fault)

/-- `multiget`. -/
def multiget [DeserializeOwned V] : StoreResult (List (Option V)) :=
  match store with
  | .cfStore store => CFOperations.multiget store.access cfName keys data faults
  | .cfTxnStore store =>
      CFOperations.multiget store.access cfName keys data faults
  | .cfOptimisticTxnStore store =>
      CFOperations.multiget store.access cfName keys data faults
  | .defaultStore store =>
      DefaultCFOperations.multiget store.cfStore.access keys data faults
  | .defaultTxnStore store => store.multiget keys data faults
  | .defaultOptimisticTxnStore store =>
      DefaultCFOperations.multiget store.cfStore.access keys data faults

/-- `multiget_raw`. -/
def multigetRaw : StoreResult (List (Option Bytes)) :=
  match store with
  | .cfStore store =>
      CFOperations.multigetRaw store.access cfName keys data faults
  | .cfTxnStore store =>
      CFOperations.multigetRaw store.access cfName keys data faults
  | .cfOptimisticTxnStore store =>
      CFOperations.multigetRaw store.access cfName keys data faults
  | .defaultStore store =>
      DefaultCFOperations.multigetRaw store.cfStore.access keys data faults
  | .defaultTxnStore store => store.multigetRaw keys data faults
  | .defaultOptimisticTxnStore store =>
      DefaultCFOperations.multigetRaw store.cfStore.access keys data faults

/-- `multiget_with_expiry`. -/
def multigetWithExpiry : StoreResult (List (Option (ValueWithExpiry V))) :=
  match store with
  | .cfStore store =>
      CFOperations.multigetWithExpiry store.access cfName keys data faults
  | .cfTxnStore store =>
      CFOperations.multigetWithExpiry store.access cfName keys data faults
  | .cfOptimisticTxnStore store =>
      CFOperations.multigetWithExpiry store.access cfName keys data faults
  | .defaultStore store =>
      DefaultCFOperations.multigetWithExpiry store.cfStore.access keys data
        faults
  | .defaultTxnStore store => store.multigetWithExpiry keys data faults
  | .defaultOptimisticTxnStore store =>
      DefaultCFOperations.multigetWithExpiry store.cfStore.access keys data
        faults

end ManyKeys

section Writes

variable {PatchVal : Type} (store : Store) (cfName : String) (key : K)
  (fault : Option Fault)

/-- `put`. -/
def put [Serialize V] (value : V) :
    Method StoreError (Db cmps) Unit :=
  match store with
  | .cfStore store => CFOperations.put store.access cfName key value fault
  | .cfTxnStore store => CFOperations.put store.access cfName key value fault
  | .cfOptimisticTxnStore store =>
      CFOperations.put store.access cfName key value fault
  | .defaultStore store =>
      DefaultCFOperations.put store.cfStore.access key fault value
  | .defaultTxnStore store => store.put key fault value
  | .defaultOptimisticTxnStore store =>
      DefaultCFOperations.put store.cfStore.access key fault value

/-- `put_raw`. -/
def putRaw (rawValue : Bytes) :
    Method StoreError (Db cmps) Unit :=
  match store with
  | .cfStore store => CFOperations.putRaw store.access cfName key rawValue fault
  | .cfTxnStore store =>
      CFOperations.putRaw store.access cfName key rawValue fault
  | .cfOptimisticTxnStore store =>
      CFOperations.putRaw store.access cfName key rawValue fault
  | .defaultStore store =>
      DefaultCFOperations.putRaw store.cfStore.access key fault rawValue
  | .defaultTxnStore store => store.putRaw key fault rawValue
  | .defaultOptimisticTxnStore store =>
      DefaultCFOperations.putRaw store.cfStore.access key fault rawValue

/-- `put_with_expiry`. -/
def putWithExpiry [Serialize V] (value : V)
    (expireTime : UInt64) :
    Method StoreError (Db cmps) Unit :=
  match store with
  | .cfStore store =>
      CFOperations.putWithExpiry store.access cfName key value expireTime fault
  | .cfTxnStore store =>
      CFOperations.putWithExpiry store.access cfName key value expireTime fault
  | .cfOptimisticTxnStore store =>
      CFOperations.putWithExpiry store.access cfName key value expireTime fault
  | .defaultStore store =>
      DefaultCFOperations.putWithExpiry store.cfStore.access key fault value
        expireTime
  | .defaultTxnStore store => store.putWithExpiry key fault value expireTime
  | .defaultOptimisticTxnStore store =>
      DefaultCFOperations.putWithExpiry store.cfStore.access key fault value
        expireTime

/-- `merge`. -/
def merge [Serialize (MergeValue PatchVal)]
    (mergeValue : MergeValue PatchVal) :
    Method StoreError (Db cmps) Unit :=
  match store with
  | .cfStore store =>
      CFOperations.merge store.access cfName key mergeValue fault
  | .cfTxnStore store =>
      CFOperations.merge store.access cfName key mergeValue fault
  | .cfOptimisticTxnStore store =>
      CFOperations.merge store.access cfName key mergeValue fault
  | .defaultStore store =>
      DefaultCFOperations.merge store.cfStore.access key fault mergeValue
  | .defaultTxnStore store => store.merge key fault mergeValue
  | .defaultOptimisticTxnStore store =>
      DefaultCFOperations.merge store.cfStore.access key fault mergeValue

/-- `merge_raw`. -/
def mergeRaw (rawMergeOperand : Bytes) :
    Method StoreError (Db cmps) Unit :=
  match store with
  | .cfStore store =>
      CFOperations.mergeRaw store.access cfName key rawMergeOperand fault
  | .cfTxnStore store =>
      CFOperations.mergeRaw store.access cfName key rawMergeOperand fault
  | .cfOptimisticTxnStore store =>
      CFOperations.mergeRaw store.access cfName key rawMergeOperand fault
  | .defaultStore store =>
      DefaultCFOperations.mergeRaw store.cfStore.access key fault
        rawMergeOperand
  | .defaultTxnStore store => store.mergeRaw key fault rawMergeOperand
  | .defaultOptimisticTxnStore store =>
      DefaultCFOperations.mergeRaw store.cfStore.access key fault
        rawMergeOperand

/-- `delete`. -/
def delete :
    Method StoreError (Db cmps) Unit :=
  match store with
  | .cfStore store => CFOperations.delete store.access cfName key fault
  | .cfTxnStore store => CFOperations.delete store.access cfName key fault
  | .cfOptimisticTxnStore store =>
      CFOperations.delete store.access cfName key fault
  | .defaultStore store =>
      DefaultCFOperations.delete store.cfStore.access key fault
  | .defaultTxnStore store => store.delete key fault
  | .defaultOptimisticTxnStore store =>
      DefaultCFOperations.delete store.cfStore.access key fault

end Writes

section Searches

variable {S : Type} [ByteDecodable K] [DeserializeOwned V] (store : Store)
  (cfName : String) (data : Db cmps) (fault : Option Fault)

/-- `find_by_prefix`. -/
def findByPrefix (prefixKey : K) (direction : Direction) :
    StoreResult (List (K × V)) :=
  match store with
  | .cfStore store => store.findByPrefix data fault cfName prefixKey direction
  | .cfTxnStore store =>
      store.findByPrefix data fault cfName prefixKey direction
  | .cfOptimisticTxnStore store =>
      store.findByPrefix data fault cfName prefixKey direction
  | .defaultStore store => store.findByPrefix data fault prefixKey direction
  | .defaultTxnStore store => store.findByPrefix data fault prefixKey direction
  | .defaultOptimisticTxnStore store =>
      store.findByPrefix data fault prefixKey direction

/-- `find_from`. -/
def findFrom (startKey : K) (direction : Direction) (controlFn : ControlFn S)
    (captured : S) : StoreResult (List (K × V)) :=
  match store with
  | .cfStore store =>
      CFOperations.findFrom store.access data fault cfName startKey direction
        controlFn captured
  | .cfTxnStore store =>
      CFOperations.findFrom store.access data fault cfName startKey direction
        controlFn captured
  | .cfOptimisticTxnStore store =>
      CFOperations.findFrom store.access data fault cfName startKey direction
        controlFn captured
  | .defaultStore store =>
      DefaultCFOperations.findFrom store.cfStore.access fault data startKey
        direction controlFn captured
  | .defaultTxnStore store =>
      DefaultCFOperations.findFrom store.cfStore.access fault data startKey
        direction controlFn captured
  | .defaultOptimisticTxnStore store =>
      DefaultCFOperations.findFrom store.cfStore.access fault data startKey
        direction controlFn captured

end Searches

/-- What the engine answers when the store reads the key with these bytes. -/
def answer (store : Store) (cfName : String) (data : Db cmps)
    (fault : Option Fault) (keyBytes : Bytes) :
    Except RocksError (Option Bytes) :=
  orFault fault (store.access.db.read data ⟨store.asked cfName, keyBytes⟩)

section Outcomes

variable (store : Store) (cfName : String) (data : Db cmps)
  (faults : Bytes → Option Fault) (key : K)

/-- The engine cannot read the key. -/
def ReadFails : Prop :=
  ∃ e, store.answer cfName data (faults (AsBytes.asBytes key))
    (AsBytes.asBytes key) = .error e

/-- The engine finds bytes under the key that are no encoded value. -/
def FindsUndecodable (V : Type) [DeserializeOwned V] : Prop :=
  ∃ bytes, store.answer cfName data (faults (AsBytes.asBytes key))
    (AsBytes.asBytes key) = .ok (some bytes) ∧
      ∃ e, deserializeValue (V := V) bytes = .error e

end Outcomes

/-- The family a call is about is open. -/
def Opens (store : Store) (cfName : String) : Prop :=
  store.access.family (store.asked cfName) = .ok (store.asked cfName)

end Store

/-- Decodes what a read has found, if anything. -/
def decodeOptional {α : Type} (decode : Bytes → StoreResult α) :
    Option Bytes → StoreResult (Option α)
  | none => .ok none
  | some bytes => some <$> decode bytes

end RockSolid
