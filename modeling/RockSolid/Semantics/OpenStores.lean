/-
Module: RockSolid.Semantics.OpenStores
Layer: Semantics
Purpose: Opening any of the six stores on a directory, from its configuration to
  the store: `open` of src/cf_store.rs, src/store.rs, src/tx/cf_tx_store.rs,
  src/tx/tx_store.rs, src/tx/cf_optimistic_tx_store.rs and
  src/tx/optimistic_tx_store.rs, and `_open_db_internal` of src/tx/internal.rs,
  which does not know which of the two engines its caller expects.  And a
  directory that is opened again and again.
Trusted boundary: human-reviewed model of the source; what is fixed while a
  process runs is a parameter
Main exports: OpenEnv, openDescriptors, RocksDbCFStore.openConfigured,
  openDbInternal, RocksDbCFTxnStore.openConfigured,
  RocksDbCFOptimisticTxnStore.openConfigured, OpenCall.run, OpenCall.Delivers,
  OpenCall.Outcome, DirectoryStep, OnDisk.after
-/
import RockSolid.Engine.OnDisk
import RockSolid.Semantics.CustomOptions
import RockSolid.Semantics.StoreKinds

namespace RockSolid

open Foundation

/-- What the opening code uses besides its configuration: the number of
processors, the natural orders, and the orders in which hash maps are iterated. -/
structure OpenEnv where
  numCpus : UInt64
  orders : NaturalOrders
  mutOrder : HashOrder String CustomTunable
  tunableOrder : HashOrder String CustomTunable
  configOrder : HashOrder String BaseCfConfig
  txnConfigOrder : HashOrder String CFTxConfig

/-- Whether the engine creates missing families. -/
def Options.createsMissing (rawDbOpts : Options) : Bool :=
  (rawDbOpts .createMissingColumnFamilies).getD false

/-- The full merge of a family opened with the first descriptor of its name; a
family without a merge operator cannot merge. -/
def mergeOf (descriptors : List ColumnFamilyDescriptor) (cf : String) : MergeFn :=
  ((descriptors.find? (·.name == cf)).bind (·.options.fullMerge)).getD
    fun _ _ _ => none

/-- `open_cf_descriptors` of the three databases. -/
def openDescriptors (rawDbOpts : Options)
    (cfDescriptors : List ColumnFamilyDescriptor) (fault : Option Fault) :
    Method StoreError OnDisk DbHandle := fun disk =>
  match disk.openCfDescriptors rawDbOpts.createsMissing
    (cfDescriptors.map (·.name)) fault with
  | .ok disk => (.ok ⟨disk.columnFamilies, mergeOf cfDescriptors⟩, disk)
  | .error e => (.error (.rocksDb e), disk)

variable (env : OpenEnv) (fault : Option Fault)

/-- `RocksDbCFStore::open`. -/
def RocksDbCFStore.openConfigured (cfg : Config.RocksDbCFStoreConfig) :
    Method StoreError OnDisk RocksDbCFStore := do
  let opts :=
    openOptions env.numCpus env.orders cfg env.tunableOrder env.configOrder
  let dbInstance ← openDescriptors opts.1 opts.2 fault
  return { db := dbInstance }

/-- `RocksDbStore::open`. -/
def RocksDbStore.openConfigured (config : Config.RocksDbStoreConfig) :
    Method StoreError OnDisk RocksDbStore := do
  let cfStore ← RocksDbCFStore.openConfigured env fault config.into
  return { cfStore }

/-- `_open_db_internal`: a `TransactionDB` to the left, an
`OptimisticTransactionDB` to the right. -/
def openDbInternal (cfg : Config.RocksDbTransactionalStoreConfig) :
    Method StoreError OnDisk (DbHandle ⊕ DbHandle) := do
  let opts := OpenDbInternal.openOptions env.numCpus env.orders cfg env.mutOrder
    env.tunableOrder env.txnConfigOrder
  let db ← openDescriptors opts.1 opts.2 fault
  match cfg.engine with
  | .pessimistic => return .inl db
  | .optimistic => return .inr db

/-- `RocksDbCFTxnStore::open`. -/
def RocksDbCFTxnStore.openConfigured
    (cfg : Config.RocksDbTransactionalStoreConfig) :
    Method StoreError OnDisk RocksDbCFTxnStore := do
  match ← openDbInternal env fault cfg with
  | .inl db => return { db, cfNames := cfg.columnFamiliesToOpen }
  | .inr _ => Method.lift (.error (.invalidConfiguration
      "Configured for Optimistic engine, but tried to open as Pessimistic"))

/-- `RocksDbTxnStore::open`. -/
def RocksDbTxnStore.openConfigured (config : Config.RocksDbTxnStoreConfig) :
    Method StoreError OnDisk RocksDbTxnStore := do
  let cfStore ← RocksDbCFTxnStore.openConfigured env fault config.into
  return { cfStore }

/-- `RocksDbCFOptimisticTxnStore::open`. -/
def RocksDbCFOptimisticTxnStore.openConfigured
    (cfg : Config.RocksDbCFOptimisticTxnStoreConfig) :
    Method StoreError OnDisk RocksDbCFOptimisticTxnStore := do
  match ← openDbInternal env fault cfg.into with
  | .inr db => return { db, cfNames := cfg.columnFamiliesToOpen }
  | .inl _ => Method.lift (.error (.invalidConfiguration
      "Configured for Pessimistic engine, but tried to open as Optimistic"))

/-- `RocksDbOptimisticTxnStore::open`. -/
def RocksDbOptimisticTxnStore.openConfigured
    (config : Config.RocksDbOptimisticTxnStoreConfig) :
    Method StoreError OnDisk RocksDbOptimisticTxnStore := do
  let cfStore ← RocksDbCFOptimisticTxnStore.openConfigured env fault config.into
  return { cfStore }

/-- A call that opens one of the stores. -/
inductive OpenCall where
  | cfStore (cfg : Config.RocksDbCFStoreConfig)
  | defaultStore (config : Config.RocksDbStoreConfig)
  | cfTxnStore (cfg : Config.RocksDbTransactionalStoreConfig)
  | defaultTxnStore (config : Config.RocksDbTxnStoreConfig)
  | cfOptimisticTxnStore (cfg : Config.RocksDbCFOptimisticTxnStoreConfig)
  | defaultOptimisticTxnStore (config : Config.RocksDbOptimisticTxnStoreConfig)

namespace OpenCall

def run : OpenCall → Method StoreError OnDisk Store
  | .cfStore cfg => do
      return .cfStore (← RocksDbCFStore.openConfigured env fault cfg)
  | .defaultStore config => do
      return .defaultStore (← RocksDbStore.openConfigured env fault config)
  | .cfTxnStore cfg => do
      return .cfTxnStore (← RocksDbCFTxnStore.openConfigured env fault cfg)
  | .defaultTxnStore config => do
      return .defaultTxnStore (← RocksDbTxnStore.openConfigured env fault config)
  | .cfOptimisticTxnStore cfg => do
      return .cfOptimisticTxnStore
        (← RocksDbCFOptimisticTxnStore.openConfigured env fault cfg)
  | .defaultOptimisticTxnStore config => do
      return .defaultOptimisticTxnStore
        (← RocksDbOptimisticTxnStore.openConfigured env fault config)

/-- The families the configuration lists. -/
def families : OpenCall → List String
  | .cfStore cfg => cfg.columnFamiliesToOpen
  | .cfTxnStore cfg => cfg.columnFamiliesToOpen
  | .cfOptimisticTxnStore cfg => cfg.columnFamiliesToOpen
  | .defaultStore _ | .defaultTxnStore _ | .defaultOptimisticTxnStore _ =>
      [defaultColumnFamilyName]

/-- What it has for a family. -/
def configured (cf : String) : OpenCall → Option BaseCfConfig
  | .cfStore cfg => cfg.columnFamilyConfigs.lookup cf
  | .defaultStore config => config.into.columnFamilyConfigs.lookup cf
  | .cfTxnStore cfg => (cfg.columnFamilyConfigs.lookup cf).map (·.baseConfig)
  | .defaultTxnStore config =>
      (config.into.columnFamilyConfigs.lookup cf).map (·.baseConfig)
  | .cfOptimisticTxnStore cfg =>
      (cfg.columnFamilyConfigs.lookup cf).map (·.baseConfig)
  | .defaultOptimisticTxnStore config =>
      (config.into.columnFamilyConfigs.lookup cf).map (·.baseConfig)

/-- The callback has not taken the family's options out of the map.  Only that of
the column-family store can. -/
def Keeps (cf : String) : OpenCall → Prop
  | .cfStore cfg =>
      (RocksDbCFStore.customized env.numCpus cfg).2.lookup cf ≠ none
  | _ => True

/-- The configuration is for the other engine. -/
def WrongEngine : OpenCall → Prop
  | .cfTxnStore cfg => cfg.engine = .optimistic
  | _ => False

end OpenCall

/-- What the caller can rely on when a call returns a store: it has the families on
disk, finds exactly the listed ones and the default one, and merges in each listed
one as its configuration says, unless the callback has taken the family's options
away. -/
structure OpenCall.Delivers (env : OpenEnv) (call : OpenCall) (opened : OnDisk)
    (store : Store) : Prop where
  onDisk : store.access.db.columnFamilies = opened.columnFamilies
  served : ∀ cf, store.access.family cf =
    if cf = defaultColumnFamilyName ∨ cf ∈ call.families then .ok cf
    else .error (.unknownCf cf)
  merges : ∀ cf ∈ call.families, call.Keeps env cf →
    ∀ config, (call.configured cf).bind (·.mergeOperator) = some config →
      store.access.db.fullMerge cf = config.installedFullMerge

/-- What an opening call can do to a directory, and return. -/
inductive OpenCall.Outcome (env : OpenEnv) (call : OpenCall) (disk : OnDisk) :
    StoreResult Store × OnDisk → Prop where
  /-- The engine refuses and leaves the directory as it was. -/
  | refused (e : RocksError) : Outcome env call disk (.error (.rocksDb e), disk)
  /-- The missing families are created, and only then the engine turns out to be
  the wrong one. -/
  | wrongEngine (message : String) (wrong : call.WrongEngine)
      (listed : ∀ cf ∈ disk.columnFamilies,
        cf = defaultColumnFamilyName ∨ cf ∈ call.families) :
      Outcome env call disk
        (.error (.invalidConfiguration message), disk.create call.families)
  | opened (store : Store) (right : ¬ call.WrongEngine)
      (listed : ∀ cf ∈ disk.columnFamilies,
        cf = defaultColumnFamilyName ∨ cf ∈ call.families)
      (delivers : call.Delivers env (disk.create call.families) store) :
      Outcome env call disk (.ok store, disk.create call.families)

/-- What happens to a directory: a store is opened on it, or the clients of an
opened one leave other contents. -/
inductive DirectoryStep where
  | open (call : OpenCall) (fault : Option Fault)
  | clients (data : ByteDb)

def DirectoryStep.apply (disk : OnDisk) : DirectoryStep → OnDisk
  | .open call fault => (call.run env fault disk).2
  | .clients data => disk.withData data

/-- The directory after the steps. -/
def OnDisk.after (steps : List DirectoryStep) (disk : OnDisk) : OnDisk :=
  steps.foldl (DirectoryStep.apply env) disk

end RockSolid
