/-
Module: RockSolid.Semantics.CustomOptions
Layer: Semantics
Purpose: What is left of a family's configuration once a callback has changed the
  tuned options: the calls that are made after it, and what they leave in force.
  And the configurations of the wrappers that ask for the same.
Trusted boundary: a statement of intent
Main exports: ownCalls, tunedFamily, CalledOptions.compactionFilter,
  ConfiguredInForce, Describes, RocksDbCFStore.customized,
  OpenDbInternal.customizedFamily, Config.DefaultCfTxConfig.forStore,
  Config.DefaultCfTxConfig.defaultFamily
-/
import RockSolid.Core.CustomOptions
import RockSolid.Semantics.FamilyOptions

namespace RockSolid

open Foundation

/-- The tuned options of a family with this configuration, or without one. -/
def tunedFamily (dbTuningProfile : Option TuningProfile)
    (own : Option BaseCfConfig) : CustomTunable :=
  (tuneCfWith ((own.bind (·.tuningProfile)).or dbTuningProfile)
    .fresh).handOut

/-- The calls for the merge operator, the comparator and the compaction filter of
a configuration. -/
def ownCalls (orders : NaturalOrders) (own : Option BaseCfConfig) :
    CalledOptions :=
  ((own.bind (·.mergeOperator)).map (·.call)).toList ++
    ((own.bind (·.comparator)).bind (·.call orders)).toList ++
    ((own.bind (·.compactionFilterRouter)).map (·.call)).toList

namespace CalledOptions

def filterCall : OptionsCall → Option CompactionFilterRouterFnPtr
  | .setCompactionFilter _ filterFn => some filterFn
  | _ => none

/-- The compaction filter in force, if there is one. -/
def compactionFilter (opts : CalledOptions) :
    Option CompactionFilterRouterFnPtr :=
  (opts.filterMap filterCall).getLast?

end CalledOptions

/-- The merge operator, the comparator and the compaction filter that a
configuration asks for are in force. -/
structure ConfiguredInForce (orders : NaturalOrders) (own : Option BaseCfConfig)
    (opts : CalledOptions) : Prop where
  mergeOperator : ∀ config, own.bind (·.mergeOperator) = some config →
    opts.fullMerge = some config.installedFullMerge
  comparator : ∀ choice, own.bind (·.comparator) = some choice →
    choice ≠ .none → opts.comparator = installedComparator orders choice
  compactionFilter : ∀ config, own.bind (·.compactionFilterRouter) = some config →
    opts.compactionFilter = some config.filterFnPtr

/-- One descriptor for each position of the list, and the first of each name has
options as told. -/
structure Describes (descriptors : List ColumnFamilyDescriptor)
    (names : List String) (tells : String → CalledOptions → Prop) : Prop where
  named : descriptors.map (·.name) = names
  first : ∀ name ∈ names, ∃ opts,
    descriptors.find? (·.name == name) = some ⟨name, opts⟩ ∧ tells name opts

/-- The tuned options of all families to open, which `RocksDbCFStore::open` hands
to its callback, and the DB-wide ones. -/
def RocksDbCFStore.handedOut (numCpus : UInt64)
    (cfg : Config.RocksDbCFStoreConfig) :
    Tunable × HashMap String CustomTunable :=
  let dbOptsTunable : Tunable := .new Options.default
  (tuneDbWide numCpus cfg.toDbWideConfig
      ((dbOptsTunable.record .createIfMissing cfg.createIfMissing).record
        .createMissingColumnFamilies cfg.createIfMissing),
    (cfOptionsMapTunable cfg.toOpenConfig).mapValues LoggedTunable.handOut)

/-- What it gets back. -/
def RocksDbCFStore.customized (numCpus : UInt64)
    (cfg : Config.RocksDbCFStoreConfig) :
    Tunable × HashMap String CustomTunable :=
  let (dbOpts, cfOptsMap) := handedOut numCpus cfg
  cfg.customOptionsDbAndCf.elim (dbOpts, cfOptsMap) fun customFn =>
    customFn dbOpts cfOptsMap

/-- The options of a family after the callback of a transactional store. -/
def OpenDbInternal.customizedFamily
    (cfg : Config.RocksDbTransactionalStoreConfig) (name : String) :
    CustomTunable :=
  let tuned := tunedFamily cfg.dbTuningProfile
    ((cfg.columnFamilyConfigs.lookup name).map (·.baseConfig))
  cfg.customOptionsDbAndCf.elim tuned fun customFn => customFn name tuned

/-- The same demands in the configuration of a `RocksDbStore`, whose callback does
to the default family what the other's does, and nothing to the DB-wide options. -/
def Config.DefaultCfTxConfig.forStore (cfg : Config.DefaultCfTxConfig) :
    Config.RocksDbStoreConfig :=
  { createIfMissing := cfg.createIfMissing
    defaultCfTuningProfile := cfg.defaultCfTuningProfile
    defaultCfMergeOperator := cfg.defaultCfMergeOperator.map (·.into)
    comparator := none
    compactionFilterRouter := cfg.compactionFilterRouter
    customOptionsDefaultCfAndDb := cfg.customOptionsDefaultCfAndDb.map
      fun userFn dbOpts defaultCfOpts =>
        (dbOpts, userFn defaultColumnFamilyName defaultCfOpts)
    recoveryMode := cfg.recoveryMode
    parallelism := cfg.parallelism
    enableStatistics := cfg.enableStatistics }

/-- The options of the default family that a transactional wrapper asks for. -/
def Config.DefaultCfTxConfig.defaultFamily (cfg : Config.DefaultCfTxConfig) :
    CustomTunable :=
  let tuned := tunedFamily none (some cfg.baseConfig)
  cfg.customOptionsDefaultCfAndDb.elim tuned fun userFn =>
    userFn defaultColumnFamilyName tuned

end RockSolid
