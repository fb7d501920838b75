/-
Module: RockSolid.Core.CustomOptions
Layer: Core
Purpose: The whole configurations of all six stores, with their custom callbacks:
  how `open` and `destroy` of src/cf_store.rs and `_open_db_internal` of
  src/tx/internal.rs make options of them, and how the configurations of the
  default-family wrappers are converted (src/config.rs, src/tx/tx_store.rs,
  src/tx/optimistic_tx_store.rs, src/tx/cf_optimistic_tx_store.rs).
Trusted boundary: human-reviewed model of the source; a callback is a function of
  what it is given, and of the DB-wide options it changes the modelled settings
Main exports: CustomTunable, RocksDbCFStore.openOptions, OpenDbInternal.openOptions,
  RocksDbCFStore.destroyOptions, Config.RocksDbStoreConfig.into,
  Config.RocksDbTxnStoreConfig.into, Config.RocksDbOptimisticTxnStoreConfig.into
-/
import RockSolid.Core.CfOptions

namespace RockSolid

open Foundation

/-- `Tunable<rocksdb::Options>` in the hands of a callback, which may call any
setter, also on `inner`. -/
structure CustomTunable where
  inner : CalledOptions
  locked : Finset String

/-- The tuned options of a family, as they are handed to a callback. -/
def LoggedTunable.handOut (tunable : LoggedTunable) : CustomTunable :=
  ⟨tunable.intoInner, tunable.settings.locked⟩

/-- `custom_options_db_and_cf` of `RocksDbCFStoreConfig`. -/
abbrev CustomDbAndCfsFn :=
  Tunable → HashMap String CustomTunable → Tunable × HashMap String CustomTunable

/-- `custom_options_default_cf_and_db` of `RocksDbStoreConfig`. -/
abbrev CustomDefaultCfAndDbFn :=
  Tunable → CustomTunable → Tunable × CustomTunable

/-- `CustomDbAndCfFn`, and `CustomDbAndDefaultFn`, which has the same type. -/
abbrev CustomDbAndCfFn := String → CustomTunable → CustomTunable

/-- `TransactionalEngine`. -/
inductive TransactionalEngine where
  | pessimistic
  | optimistic
deriving DecidableEq, Repr

namespace Config

/-- `RocksDbCFStoreConfig`. -/
structure RocksDbCFStoreConfig extends OpenConfig BaseCfConfig where
  customOptionsDbAndCf : Option CustomDbAndCfsFn

/-- `RocksDbTransactionalStoreConfig`. -/
structure RocksDbTransactionalStoreConfig extends OpenConfig CFTxConfig where
  customOptionsDbAndCf : Option CustomDbAndCfFn
  engine : TransactionalEngine

end Config

section Opening

variable (numCpus : UInt64) (orders : NaturalOrders)

/-- The end of both opening paths: the options are unwrapped, what the
configurations ask for is applied to them, and each family to open takes its
own, or default ones. -/
def describeCustomized {C : Type} (names : List String)
    (configs : HashMap String C)
    (applyCfConfig : C → CalledOptions → CalledOptions)
    (tunableOrder : HashOrder String CustomTunable)
    (configOrder : HashOrder String C)
    (cfOptionsMapTunable : HashMap String CustomTunable) :
    List ColumnFamilyDescriptor :=
  let rawCfOptionsMap := tunableOrder.forEach cfOptionsMapTunable
    (fun rawCfOptionsMap name tunableOpts =>
      rawCfOptionsMap.insert name tunableOpts.inner)
    (∅ : HashMap String CalledOptions)
  let rawCfOptionsMap := configOrder.forEach configs
    (fun rawCfOptionsMap cfName cfSpecificConfig =>
      rawCfOptionsMap.modify cfName (applyCfConfig cfSpecificConfig))
    rawCfOptionsMap
  (HashMap.takeEach names rawCfOptionsMap).map
    fun (nameStr, cfOpts) => ⟨nameStr, cfOpts.getD []⟩

namespace RocksDbCFStore

/-- The hard settings and the profile, as `open` and `destroy` apply them. -/
def tuneDbWide (cfg : DbWideConfig) (dbOptsTunable : Tunable) : Tunable :=
  let dbOptsTunable :=
    match cfg.parallelism with
    | some p => dbOptsTunable.set .increaseParallelism p
    | none => dbOptsTunable
  let dbOptsTunable :=
    recordModeAndStatistics cfg.recoveryMode cfg.enableStatistics dbOptsTunable
  tuneWith numCpus cfg.dbTuningProfile dbOptsTunable

/-- Steps 1 to 8 of `RocksDbCFStore::open`. -/
def openOptions (cfg : Config.RocksDbCFStoreConfig)
    (tunableOrder : HashOrder String CustomTunable)
    (configOrder : HashOrder String BaseCfConfig) :
    Options × List ColumnFamilyDescriptor :=
  let dbOptsTunable : Tunable := .new Options.default
  let dbOptsTunable := dbOptsTunable.record .createIfMissing cfg.createIfMissing
  let dbOptsTunable :=
    dbOptsTunable.record .createMissingColumnFamilies cfg.createIfMissing
  let dbOptsTunable := tuneDbWide numCpus cfg.toDbWideConfig dbOptsTunable
  let cfOptionsMapTunable :=
    (cfOptionsMapTunable cfg.toOpenConfig).mapValues LoggedTunable.handOut
  let (dbOptsTunable, cfOptionsMapTunable) :=
    match cfg.customOptionsDbAndCf with
    | some customFn => customFn dbOptsTunable cfOptionsMapTunable
    | none => (dbOptsTunable, cfOptionsMapTunable)
  (dbOptsTunable.inner,
    describeCustomized cfg.columnFamiliesToOpen cfg.columnFamilyConfigs
      (applyCfConfig orders) tunableOrder configOrder cfOptionsMapTunable)

/-- The options `RocksDbCFStore::destroy` passes on. -/
def destroyOptions (cfg : Config.RocksDbCFStoreConfig) : Options :=
  let optsTunable : Tunable := .new Options.default
  let optsTunable := tuneDbWide numCpus cfg.toDbWideConfig optsTunable
  let optsTunable :=
    match cfg.customOptionsDbAndCf with
    | some customFn => (customFn optsTunable ∅).1
    | none => optsTunable
  optsTunable.inner

end RocksDbCFStore

/-- The options `_open_db_internal` opens with. -/
def OpenDbInternal.openOptions (cfg : Config.RocksDbTransactionalStoreConfig)
    (mutOrder tunableOrder : HashOrder String CustomTunable)
    (configOrder : HashOrder String CFTxConfig) :
    Options × List ColumnFamilyDescriptor :=
  let rawDbOpts := openDbInternalOptions numCpus cfg.toDbWideConfig
  let cfOptionsMapTunable :=
    (cfOptionsMapTunable cfg.toOpenConfig).mapValues LoggedTunable.handOut
  let cfOptionsMapTunable :=
    match cfg.customOptionsDbAndCf with
    | some customFn => mutOrder.forEachMut cfOptionsMapTunable customFn
    | none => cfOptionsMapTunable
  (rawDbOpts,
    describeCustomized cfg.columnFamiliesToOpen cfg.columnFamilyConfigs
      (applyCfConfig orders) tunableOrder configOrder cfOptionsMapTunable)

end Opening

namespace Config

/-- `MergeOperatorConfig`. -/
structure MergeOperatorConfig where
  name : String
  fullMergeFn : Option MergeFn
  partialMergeFn : Option MergeFn

/-- `RockSolidMergeOperatorCfConfig::from`. -/
def MergeOperatorConfig.into (original : MergeOperatorConfig) :
    MergeOperatorCfConfig :=
  { name := original.name
    fullMergeFn := original.fullMergeFn
    partialMergeFn := original.partialMergeFn }

/-- The configuration of the default family alone. -/
def defaultCfConfigs {C : Type} (config : C) : HashMap String C :=
  (∅ : HashMap String C).insert defaultColumnFamilyName config

/-- `RocksDbStoreConfig`. -/
structure RocksDbStoreConfig where
  createIfMissing : Bool
  defaultCfTuningProfile : Option TuningProfile
  defaultCfMergeOperator : Option MergeOperatorCfConfig
  comparator : Option RockSolidComparatorOpt
  compactionFilterRouter : Option RockSolidCompactionFilterRouterConfig
  customOptionsDefaultCfAndDb : Option CustomDefaultCfAndDbFn
  recoveryMode : Option RecoveryMode
  parallelism : Option Int32
  enableStatistics : Option Bool

/-- The callback the conversion makes of that of the wrapper. -/
def customDbAndCfCallback (userFn : CustomDefaultCfAndDbFn) : CustomDbAndCfsFn :=
  fun dbOpts cfOptsMap =>
    match cfOptsMap.lookup defaultColumnFamilyName with
    | some defaultCfOpts =>
        let (dbOpts, defaultCfOpts) := userFn dbOpts defaultCfOpts
        (dbOpts, cfOptsMap.insert defaultColumnFamilyName defaultCfOpts)
    | none => (dbOpts, cfOptsMap)

/-- `RocksDbCFStoreConfig::from(RocksDbStoreConfig)`. -/
def RocksDbStoreConfig.into (cfg : RocksDbStoreConfig) : RocksDbCFStoreConfig :=
  { createIfMissing := cfg.createIfMissing
    dbTuningProfile := none
    columnFamilyConfigs := defaultCfConfigs
      { tuningProfile := cfg.defaultCfTuningProfile
        mergeOperator := cfg.defaultCfMergeOperator
        comparator := cfg.comparator
        compactionFilterRouter := cfg.compactionFilterRouter }
    columnFamiliesToOpen := [defaultColumnFamilyName]
    customOptionsDbAndCf :=
      cfg.customOptionsDefaultCfAndDb.map customDbAndCfCallback
    recoveryMode := cfg.recoveryMode
    parallelism := cfg.parallelism
    enableStatistics := cfg.enableStatistics }

/-- The callback the conversions of the transactional wrappers make of theirs. -/
def customDbAndAllCfCallback (userFn : CustomDbAndCfFn) : CustomDbAndCfFn :=
  fun cfName dbOpts =>
    if cfName = defaultColumnFamilyName then userFn cfName dbOpts else dbOpts

/-- The fields that `RocksDbTxnStoreConfig` and `RocksDbOptimisticTxnStoreConfig`
have in common. -/
structure DefaultCfTxConfig where
  createIfMissing : Bool
  defaultCfTuningProfile : Option TuningProfile
  defaultCfMergeOperator : Option MergeOperatorConfig
  compactionFilterRouter : Option RockSolidCompactionFilterRouterConfig
  customOptionsDefaultCfAndDb : Option CustomDbAndCfFn
  recoveryMode : Option RecoveryMode
  parallelism : Option Int32
  enableStatistics : Option Bool

/-- `default_cf_base_config` in the conversions of both. -/
def DefaultCfTxConfig.baseConfig (cfg : DefaultCfTxConfig) : BaseCfConfig :=
  { tuningProfile := cfg.defaultCfTuningProfile
    mergeOperator := cfg.defaultCfMergeOperator.map (·.into)
    comparator := none
    compactionFilterRouter := cfg.compactionFilterRouter }

/-- `RocksDbTxnStoreConfig`. -/
structure RocksDbTxnStoreConfig extends DefaultCfTxConfig

/-- `RocksDbTransactionalStoreConfig::from(RocksDbTxnStoreConfig)`. -/
def RocksDbTxnStoreConfig.into (cfg : RocksDbTxnStoreConfig) :
    RocksDbTransactionalStoreConfig :=
  { createIfMissing := cfg.createIfMissing
    dbTuningProfile := none
    columnFamilyConfigs := defaultCfConfigs ⟨cfg.baseConfig⟩
    columnFamiliesToOpen := [defaultColumnFamilyName]
    customOptionsDbAndCf :=
      cfg.customOptionsDefaultCfAndDb.map customDbAndAllCfCallback
    recoveryMode := cfg.recoveryMode
    parallelism := cfg.parallelism
    enableStatistics := cfg.enableStatistics
    engine := .pessimistic }

/-- `CFOptimisticTxnConfig`. -/
structure CFOptimisticTxnConfig where
  baseConfig : BaseCfConfig

/-- `RocksDbCFOptimisticTxnStoreConfig`. -/
structure RocksDbCFOptimisticTxnStoreConfig extends
    OpenConfig CFOptimisticTxnConfig where
  customOptionsDbAndCf : Option CustomDbAndCfFn

/-- `RocksDbTransactionalStoreConfig::from(RocksDbCFOptimisticTxnStoreConfig)`. -/
def RocksDbCFOptimisticTxnStoreConfig.into
    (cfg : RocksDbCFOptimisticTxnStoreConfig) :
    RocksDbTransactionalStoreConfig :=
  { createIfMissing := cfg.createIfMissing
    dbTuningProfile := cfg.dbTuningProfile
    columnFamilyConfigs := cfg.columnFamilyConfigs.mapValues
      fun optCfg => { baseConfig := optCfg.baseConfig }
    columnFamiliesToOpen := cfg.columnFamiliesToOpen
    customOptionsDbAndCf := cfg.customOptionsDbAndCf
    recoveryMode := cfg.recoveryMode
    parallelism := cfg.parallelism
    enableStatistics := cfg.enableStatistics
    engine := .optimistic }

/-- `RocksDbOptimisticTxnStoreConfig`. -/
structure RocksDbOptimisticTxnStoreConfig extends DefaultCfTxConfig

namespace RocksDbOptimisticTxnStoreConfig

/-- `RocksDbTransactionalStoreConfig::from(RocksDbOptimisticTxnStoreConfig)`. -/
def intoTransactional (cfg : RocksDbOptimisticTxnStoreConfig) :
    RocksDbTransactionalStoreConfig :=
  { createIfMissing := cfg.createIfMissing
    dbTuningProfile := none
    columnFamilyConfigs := defaultCfConfigs ⟨cfg.baseConfig⟩
    columnFamiliesToOpen := [defaultColumnFamilyName]
    customOptionsDbAndCf :=
      cfg.customOptionsDefaultCfAndDb.map customDbAndAllCfCallback
    recoveryMode := cfg.recoveryMode
    parallelism := cfg.parallelism
    enableStatistics := cfg.enableStatistics
    engine := .optimistic }

/-- `RocksDbCFOptimisticTxnStoreConfig::from(RocksDbOptimisticTxnStoreConfig)`. -/
def into (cfg : RocksDbOptimisticTxnStoreConfig) :
    RocksDbCFOptimisticTxnStoreConfig :=
  { createIfMissing := cfg.createIfMissing
    dbTuningProfile := none
    columnFamilyConfigs := defaultCfConfigs ⟨cfg.baseConfig⟩
    columnFamiliesToOpen := [defaultColumnFamilyName]
    customOptionsDbAndCf :=
      cfg.customOptionsDefaultCfAndDb.map customDbAndAllCfCallback
    recoveryMode := cfg.recoveryMode
    parallelism := cfg.parallelism
    enableStatistics := cfg.enableStatistics }

end RocksDbOptimisticTxnStoreConfig

end Config

end RockSolid
