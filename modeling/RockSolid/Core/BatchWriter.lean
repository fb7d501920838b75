/-
Module: RockSolid.Core.BatchWriter
Layer: Core
Purpose: The batch writer of one column family (src/batch.rs): staging into the
  accumulated batch, and the three ways it ends.
Trusted boundary: human-reviewed model of the source; `raw_batch_mut` is left
  out
Main exports: BatchWriter, its staging methods, commit, discard, drop,
  RocksDbCFStore.batchWriter, RocksDbStore.batchWriter
-/
import RockSolid.Core.Stores
import RockSolid.Engine.WriteBatch

namespace RockSolid

open Foundation

/-- `BatchWriter` of src/batch.rs.  `batch` is what the `ManuallyDrop` field
holds until it is taken. -/
structure BatchWriter where
  store : RocksDbCFStore
  batch : WriteBatch
  cfName : String
  committedOrDiscarded : Bool

namespace BatchWriter

variable {cmps : String → Comparator} {K V PatchVal : Type}

abbrev WriterMethod := Method StoreError BatchWriter

/-- `BatchWriter::new`: the family is not looked up. -/
def new (store : RocksDbCFStore) (cfName : String) : BatchWriter :=
  { store, batch := [], cfName, committedOrDiscarded := false }

/-- `check_not_committed`. -/
def checkNotCommitted : WriterMethod Unit := fun self =>
  if self.committedOrDiscarded then
    (.error (.other "BatchWriter already committed or discarded"), self)
  else (.ok (), self)

theorem checkNotCommitted_of_open {writer : BatchWriter}
    (isOpen : writer.committedOrDiscarded = false) :
    checkNotCommitted writer = (.ok (), writer) :=
  if_neg (by simp [isOpen])

/-- `cf_name == DEFAULT` or `store.get_cf_handle(&self.cf_name)?`. -/
def family : WriterMethod String := fun self =>
  (self.store.access.family self.cfName, self)

/-- `put`, `merge`, `delete`, `delete_range` of the current batch and their `_cf`
forms, which do not fail. -/
def add (op : BatchOp) : WriterMethod Unit := fun self =>
  (.ok (), { self with batch := self.batch ++ [op] })

section Staging

variable [AsBytes K]

/-- `set`. -/
def set [Serialize V] (key : K) (val : V) : WriterMethod Unit := do
  checkNotCommitted
  let sk ← serializeKey key
  let sv ← serializeValue val
  let cf ← family
  add (.write (.put ⟨cf, sk⟩ sv))

/-- `set_raw`. -/
def setRaw (key : K) (rawVal : Bytes) : WriterMethod Unit := do
  checkNotCommitted
  let sk ← serializeKey key
  let cf ← family
  add (.write (.put ⟨cf, sk⟩ rawVal))

/-- `set_with_expiry`. -/
def setWithExpiry [Serialize V] (key : K) (val : V) (expireTime : UInt64) :
    WriterMethod Unit := do
  checkNotCommitted
  let sk ← serializeKey key
  let vwe ← ValueWithExpiry.fromValue expireTime val
  let svWithTs := vwe.serializeForStorage
  let cf ← family
  add (.write (.put ⟨cf, sk⟩ svWithTs))

/-- `merge`. -/
def merge [Serialize (MergeValue PatchVal)] (key : K)
    (mergeValue : MergeValue PatchVal) : WriterMethod Unit := do
  checkNotCommitted
  let sk ← serializeKey key
  let smo ← serializeValue mergeValue
  let cf ← family
  add (.write (.merge ⟨cf, sk⟩ smo))

/-- `merge_raw`. -/
def mergeRaw (key : K) (rawMergeOp : Bytes) : WriterMethod Unit := do
  checkNotCommitted
  let sk ← serializeKey key
  let cf ← family
  add (.write (.merge ⟨cf, sk⟩ rawMergeOp))

/-- `delete`. -/
def delete (key : K) : WriterMethod Unit := do
  checkNotCommitted
  let sk ← serializeKey key
  let cf ← family
  add (.write (.delete ⟨cf, sk⟩))

/-- `delete_range`. -/
def deleteRange (startKey endKey : K) : WriterMethod Unit := do
  checkNotCommitted
  let sks ← serializeKey startKey
  let ske ← serializeKey endKey
  let cf ← family
  add (.deleteRange cf sks ske)

end Staging

/-- `commit`: on failure the early return leaves the flag unset, although the
batch has been taken. -/
def commit (data : Db cmps) (fault : Option Fault) (self : BatchWriter) :
    StoreResult Unit × BatchWriter × Db cmps :=
  match checkNotCommitted self with
  | (.error e, self) => (.error e, self, data)
  | (.ok (), self) =>
      match data.write self.batch fault with
      | (.error e, data) => (.error (.rocksDb e), self, data)
      | (.ok (), data) =>
          (.ok (), { self with committedOrDiscarded := true }, data)

/-- `discard`. -/
def discard (self : BatchWriter) : BatchWriter :=
  { self with committedOrDiscarded := true }

/-- `Drop for BatchWriter`, which only logs a warning. -/
def drop (self : BatchWriter) : BatchWriter :=
  self

end BatchWriter

/-- `RocksDbCFStore::batch_writer`. -/
def RocksDbCFStore.batchWriter (store : RocksDbCFStore) (cfName : String) :
    BatchWriter :=
  BatchWriter.new store cfName

/-- `RocksDbStore::batch_writer`. -/
def RocksDbStore.batchWriter (store : RocksDbStore) : BatchWriter :=
  store.cfStore.batchWriter defaultColumnFamilyName

end RockSolid
