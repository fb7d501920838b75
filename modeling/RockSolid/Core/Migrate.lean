/-
Module: RockSolid.Core.Migrate
Layer: Core
Purpose: Migrating one database into another (src/utils/mod.rs): both stores are
  opened, every column family of the source that the destination's configuration
  names is copied record by record, and on request compared afterwards.
Trusted boundary: human-reviewed model of the source, without its logging
Main exports: RocksDbCFStoreConfig, RocksDbCFStore.open, MigrationFaults,
  copyFamily, validateFamily, Databases, migrateDb
-/
import RockSolid.Core.Stores
import RockSolid.Engine.OnDisk

namespace RockSolid

open Foundation

/-- What a migration uses of `RocksDbCFStoreConfig` in src/config.rs.  The
options a family is opened with count by their full merge function; both
databases keep the engine's default comparator. -/
structure RocksDbCFStoreConfig where
  createIfMissing : Bool
  columnFamiliesToOpen : List String
  fullMerge : String → MergeFn

/-- `RocksDbCFStore::open`, on the directory at the configured path. -/
def RocksDbCFStore.open (cfg : RocksDbCFStoreConfig) (fault : Option Fault) :
    Method StoreError OnDisk RocksDbCFStore := fun disk =>
  match disk.openCfDescriptors cfg.createIfMissing cfg.columnFamiliesToOpen
    fault with
  | .ok disk => (.ok ⟨⟨disk.columnFamilies, cfg.fullMerge⟩⟩, disk)
  | .error e => (.error (.rocksDb e), disk)

/-- Which engine calls of a migration fail.  A family is walked once to copy it
and once to compare it, and a key is written once and read once. -/
structure MigrationFaults where
  openSource : Option Fault
  openDestination : Option Fault
  listCf : Option Fault
  copyIterator : String → Option Fault
  put : String → Bytes → Option Fault
  validationIterator : String → Option Fault
  get : String → Bytes → Option Fault

/-- No engine call fails. -/
def MigrationFaults.none : MigrationFaults where
  openSource := .none
  openDestination := .none
  listCf := .none
  copyIterator _ := .none
  put _ _ := .none
  validationIterator _ := .none
  get _ _ := .none

/-- `{:?}` of a key. -/
def debugBytes (bytes : Bytes) : String :=
  let listed := String.intercalate ", " (bytes.map fun byte => toString byte)
  s!"[{listed}]"

/-- `iterator_opt` or `iterator_cf_opt` from the start of a family. -/
def RocksDbCFStore.rawKvsIterator (store : RocksDbCFStore) (data : ByteDb)
    (cfName : String) (fault : Option Fault) : StoreResult RawStream := do
  let cf ← store.access.family cfName
  return cutBy fault (store.db.iterator data cf .start)

section Families

variable (srcStore dstStore : RocksDbCFStore) (dstConfig : RocksDbCFStoreConfig)
  (faults : MigrationFaults) (srcData : ByteDb)

/-- The body of the copying loop over one family. -/
def copyRecord (cfName : String) (result : Except RocksError (Bytes × Bytes)) :
    Method StoreError ByteDb Unit :=
  match result with
  | .ok (keyBytes, valueBytes) =>
      CFOperations.putRaw dstStore.access cfName keyBytes valueBytes
        (faults.put cfName keyBytes)
  | .error e => liftM (.error (.rocksDb e) : StoreResult Unit)

/-- Copies one family into the contents of the destination, unless its
configuration leaves the family out. -/
def copyFamily (cfName : String) : Method StoreError ByteDb Unit :=
  if cfName ∉ dstConfig.columnFamiliesToOpen then pure ()
  else do
    let rawKvsIterator ←
      srcStore.rawKvsIterator srcData cfName (faults.copyIterator cfName)
    rawKvsIterator.forM (copyRecord dstStore faults cfName)

variable (dstData : ByteDb)

/-- The body of the comparing loop over one family. -/
def validateRecord (cfName : String)
    (result : Except RocksError (Bytes × Bytes)) : StoreResult Unit :=
  match result with
  | .ok (keyBytes, srcValueBytes) => do
      match ← CFOperations.getRaw dstStore.access cfName keyBytes dstData
        (faults.get cfName keyBytes) with
      | some dstValueBytes =>
          if srcValueBytes ≠ dstValueBytes then
            let key := debugBytes keyBytes
            .error (.other
              s!"Data inconsistency for key {key} in CF '{cfName}'")
          else .ok ()
      | none =>
          let key := debugBytes keyBytes
          .error (.other s!"Migrated key {key} missing in CF '{cfName}'")
  | .error e => .error (.rocksDb e)

/-- Compares one family, unless the destination's configuration leaves it out. -/
def validateFamily (cfName : String) : StoreResult Unit :=
  if cfName ∉ dstConfig.columnFamiliesToOpen then .ok ()
  else do
    let srcIter ←
      srcStore.rawKvsIterator srcData cfName (faults.validationIterator cfName)
    srcIter.forM (validateRecord dstStore faults dstData cfName)

end Families

/-- The two databases of a migration. -/
structure Databases where
  source : OnDisk
  destination : OnDisk

namespace Databases

/-- A method on the source. -/
def onSource {α : Type} (m : Method StoreError OnDisk α) :
    Method StoreError Databases α :=
  Method.zoom Databases.source (fun self source => { self with source }) m

/-- A method on the destination. -/
def onDestination {α : Type} (m : Method StoreError OnDisk α) :
    Method StoreError Databases α :=
  Method.zoom Databases.destination
    (fun self destination => { self with destination }) m

/-- `DB::list_cf` on the path of the source. -/
def listCf (fault : Option Fault) : Method StoreError Databases (List String) :=
  fun self => ((self.source.listCf fault).mapError .rocksDb, self)

end Databases

/-- The copying of all families. -/
def copyAll (srcStore dstStore : RocksDbCFStore)
    (dstConfig : RocksDbCFStoreConfig) (faults : MigrationFaults)
    (srcCfNames : List String) : Method StoreError Databases Unit := fun self =>
  Databases.onDestination
    (Method.zoom OnDisk.data OnDisk.withData
      (srcCfNames.forM
        (copyFamily srcStore dstStore dstConfig faults self.source.data))) self

/-- The comparing of all families. -/
def validateAll (srcStore dstStore : RocksDbCFStore)
    (dstConfig : RocksDbCFStoreConfig) (faults : MigrationFaults)
    (srcCfNames : List String) : Method StoreError Databases Unit := fun self =>
  (srcCfNames.forM (validateFamily srcStore dstStore dstConfig faults
    self.source.data self.destination.data), self)

/-- `migrate_db`. -/
def migrateDb (srcConfig dstConfig : RocksDbCFStoreConfig) (validate : Bool)
    (faults : MigrationFaults) : Method StoreError Databases Unit := do
  let srcStore ←
    Databases.onSource (RocksDbCFStore.open srcConfig faults.openSource)
  let dstStore ←
    Databases.onDestination (RocksDbCFStore.open dstConfig faults.openDestination)
  let srcCfNames ← Databases.listCf faults.listCf
  copyAll srcStore dstStore dstConfig faults srcCfNames
  if validate then validateAll srcStore dstStore dstConfig faults srcCfNames

end RockSolid
