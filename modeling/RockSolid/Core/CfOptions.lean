/-
Module: RockSolid.Core.CfOptions
Layer: Core
Purpose: How both opening paths make the column family descriptors from the
  configuration: steps 4 to 8 of `RocksDbCFStore::open` (src/cf_store.rs), and
  `_open_db_internal` of the transactional stores (src/tx/internal.rs).  Options
  are the calls that were made on default ones, in order.
Trusted boundary: human-reviewed model of the source, without a custom callback;
  the order in which a hash map is iterated is a parameter
Main exports: OptionsCall, BaseCfConfig, OpenConfig, ColumnFamilyDescriptor,
  RocksDbCFStore.cfDescriptors, OpenDbInternal.cfDescriptors
-/
import RockSolid.Core.Comparator
import RockSolid.Core.DbOptions
import RockSolid.Core.Merge
import RockSolid.Foundation.CallLog
import RockSolid.Foundation.HashMap

namespace RockSolid

open Foundation

/-- `rocksdb::compaction_filter::Decision`. -/
inductive Decision where
  | keep
  | remove
  | change (newValue : Bytes)
deriving DecidableEq, Repr

/-- `CompactionFilterRouterFnPtr`. -/
abbrev CompactionFilterRouterFnPtr := UInt32 → Bytes → Bytes → Decision

/-- A call of a setter of `rocksdb::Options`. -/
inductive OptionsCall where
  | setter (call : MadeCall Setter.Arg)
  | setMergeOperator (name : String) (fullMergeFn partialMergeFn : MergeFn)
  | setComparator (name : String) (cmp : Comparator)
  | setCompactionFilter (name : String)
      (filterFn : CompactionFilterRouterFnPtr)

/-- `rocksdb::Options`, as the calls made on `Options::default()`. -/
abbrev CalledOptions := List OptionsCall

/-- `Tunable<rocksdb::Options>` with the calls that reached the options. -/
abbrev LoggedTunable := LoggedSettings Setter.Arg String

/-- `Tunable::into_inner`. -/
def LoggedTunable.intoInner (cfOptions : LoggedTunable) : CalledOptions :=
  cfOptions.log.map .setter

/-- `tune_cf_opts`, on options whose calls are recorded. -/
def TuningProfile.tuneLoggedCfOpts (self : TuningProfile)
    (cfOptions : LoggedTunable) : LoggedTunable :=
  cfOptions.run self.cfCalls

/-- `if let Some(profile) = …`, then `tune_cf_opts`. -/
def tuneCfWith (profile : Option TuningProfile) (cfOptions : LoggedTunable) :
    LoggedTunable :=
  match profile with
  | some profile => profile.tuneLoggedCfOpts cfOptions
  | none => cfOptions

/-- All fields of `RockSolidMergeOperatorCfConfig`. -/
structure MergeOperatorCfConfig extends RockSolidMergeOperatorCfConfig where
  name : String
  partialMergeFn : Option MergeFn

/-- `RockSolidCompactionFilterRouterConfig`. -/
structure RockSolidCompactionFilterRouterConfig where
  name : String
  filterFnPtr : CompactionFilterRouterFnPtr

/-- `BaseCfConfig`. -/
structure BaseCfConfig where
  tuningProfile : Option TuningProfile
  mergeOperator : Option MergeOperatorCfConfig
  comparator : Option RockSolidComparatorOpt
  compactionFilterRouter : Option RockSolidCompactionFilterRouterConfig

/-- `CFTxConfig`. -/
structure CFTxConfig where
  baseConfig : BaseCfConfig

/-- What the two paths read of `RocksDbCFStoreConfig` and of
`RocksDbTransactionalStoreConfig`, which differ in what they have for a family. -/
structure OpenConfig (C : Type) extends DbWideConfig where
  columnFamilyConfigs : HashMap String C
  columnFamiliesToOpen : List String

/-- `rocksdb::ColumnFamilyDescriptor`. -/
structure ColumnFamilyDescriptor where
  name : String
  options : CalledOptions

namespace CalledOptions

variable (opts : CalledOptions)

def setMergeOperator (name : String) (fullMergeFn partialMergeFn : MergeFn) :
    CalledOptions :=
  opts ++ [.setMergeOperator name fullMergeFn partialMergeFn]

def setComparator (name : String) (cmp : Comparator) : CalledOptions :=
  opts ++ [.setComparator name cmp]

def setCompactionFilter (name : String)
    (filterFn : CompactionFilterRouterFnPtr) : CalledOptions :=
  opts ++ [.setCompactionFilter name filterFn]

/-- `RockSolidComparatorOpt::apply_to_opts`, as the call it makes. -/
def applyComparator (orders : NaturalOrders) (opt : RockSolidComparatorOpt) :
    CalledOptions :=
  match (opt.applyToOpts orders { comparator := none }).comparator with
  | some (name, cmp) => opts.setComparator name cmp
  | none => opts

end CalledOptions

variable (orders : NaturalOrders)

namespace RocksDbCFStore

variable (cfg : OpenConfig BaseCfConfig)

/-- Step 4 of `open`: tuned options for the families to open. -/
def cfOptionsMapTunable : HashMap String LoggedTunable :=
  let cfOptionsMapTunable := cfg.columnFamiliesToOpen.foldl
    (fun cfOptionsMapTunable cfNameStr =>
      let currentCfTunable : LoggedTunable := .fresh
      let cfConfigForThisCf := cfg.columnFamilyConfigs.lookup cfNameStr
      let effectiveProfile :=
        (cfConfigForThisCf.bind (·.tuningProfile)).or cfg.dbTuningProfile
      cfOptionsMapTunable.insert cfNameStr
        (tuneCfWith effectiveProfile currentCfTunable))
    (∅ : HashMap String LoggedTunable)
  if defaultColumnFamilyName ∈ cfg.columnFamiliesToOpen ∧
      defaultColumnFamilyName ∉ cfOptionsMapTunable then
    let defaultCfTunable : LoggedTunable := .fresh
    cfOptionsMapTunable.insert defaultColumnFamilyName
      (tuneCfWith cfg.dbTuningProfile defaultCfTunable)
  else cfOptionsMapTunable

/-- The body of the loop of step 7 of `open`. -/
def applyCfConfig (cfSpecificConfig : BaseCfConfig)
    (optsToModify : CalledOptions) : CalledOptions :=
  let optsToModify :=
    match cfSpecificConfig.mergeOperator with
    | some mergeOpConfig =>
        optsToModify.setMergeOperator mergeOpConfig.name
          (mergeOpConfig.fullMergeFn.getD defaultFullMerge)
          (mergeOpConfig.partialMergeFn.getD defaultPartialMerge)
    | none => optsToModify
  let optsToModify :=
    match cfSpecificConfig.comparator with
    | some comparatorChoice =>
        optsToModify.applyComparator orders comparatorChoice
    | none => optsToModify
  match cfSpecificConfig.compactionFilterRouter with
  | some filterRouterConfig =>
      let actualRouterFnPtr := filterRouterConfig.filterFnPtr
      optsToModify.setCompactionFilter filterRouterConfig.name
        fun level key value => actualRouterFnPtr level key value
  | none => optsToModify

/-- Steps 4 to 8 of `open`. -/
def cfDescriptors (tunableOrder : HashOrder String LoggedTunable)
    (configOrder : HashOrder String BaseCfConfig) :
    List ColumnFamilyDescriptor :=
  let rawCfOptionsMap := tunableOrder.forEach (cfOptionsMapTunable cfg)
    (fun rawCfOptionsMap name tunableOpts =>
      rawCfOptionsMap.insert name tunableOpts.intoInner)
    (∅ : HashMap String CalledOptions)
  let rawCfOptionsMap := configOrder.forEach cfg.columnFamilyConfigs
    (fun rawCfOptionsMap cfName cfSpecificConfig =>
      rawCfOptionsMap.modify cfName (applyCfConfig orders cfSpecificConfig))
    rawCfOptionsMap
  (HashMap.takeEach cfg.columnFamiliesToOpen rawCfOptionsMap).map
    fun (nameStr, cfOpts) => ⟨nameStr, cfOpts.getD []⟩

end RocksDbCFStore

namespace OpenDbInternal

variable (cfg : OpenConfig CFTxConfig)

/-- The first part of `_open_db_internal`: tuned options for the families to
open. -/
def cfOptionsMapTunable : HashMap String LoggedTunable :=
  let cfOptionsMapTunable := cfg.columnFamiliesToOpen.foldl
    (fun cfOptionsMapTunable cfNameStr =>
      let currentCfTunable : LoggedTunable := .fresh
      let cfTxConfigForThisCf := cfg.columnFamilyConfigs.lookup cfNameStr
      let effectiveProfile :=
        (cfTxConfigForThisCf.bind (·.baseConfig.tuningProfile)).or
          cfg.dbTuningProfile
      cfOptionsMapTunable.insert cfNameStr
        (tuneCfWith effectiveProfile currentCfTunable))
    (∅ : HashMap String LoggedTunable)
  if defaultColumnFamilyName ∈ cfg.columnFamiliesToOpen ∧
      defaultColumnFamilyName ∉ cfOptionsMapTunable then
    let defaultCfTunable : LoggedTunable := .fresh
    cfOptionsMapTunable.insert defaultColumnFamilyName
      (tuneCfWith cfg.dbTuningProfile defaultCfTunable)
  else cfOptionsMapTunable

/-- The body of the loop over the configurations in `_open_db_internal`. -/
def applyCfConfig (cfTxSpecificConfig : CFTxConfig)
    (optsToModify : CalledOptions) : CalledOptions :=
  let optsToModify :=
    match cfTxSpecificConfig.baseConfig.mergeOperator with
    | some mergeOpConfig =>
        optsToModify.setMergeOperator mergeOpConfig.name
          (mergeOpConfig.fullMergeFn.getD defaultFullMerge)
          (mergeOpConfig.partialMergeFn.getD defaultPartialMerge)
    | none => optsToModify
  let optsToModify :=
    match cfTxSpecificConfig.baseConfig.comparator with
    | some comparatorChoice =>
        optsToModify.applyComparator orders comparatorChoice
    | none => optsToModify
  match cfTxSpecificConfig.baseConfig.compactionFilterRouter with
  | some filterRouterConfig =>
      let actualRouterFnPtr := filterRouterConfig.filterFnPtr
      optsToModify.setCompactionFilter filterRouterConfig.name
        fun level key value => actualRouterFnPtr level key value
  | none => optsToModify

/-- The descriptors that `_open_db_internal` opens with. -/
def cfDescriptors (tunableOrder : HashOrder String LoggedTunable)
    (configOrder : HashOrder String CFTxConfig) :
    List ColumnFamilyDescriptor :=
  let rawCfOptionsMap := tunableOrder.forEach (cfOptionsMapTunable cfg)
    (fun rawCfOptionsMap name tunableOpts =>
      rawCfOptionsMap.insert name tunableOpts.intoInner)
    (∅ : HashMap String CalledOptions)
  let rawCfOptionsMap := configOrder.forEach cfg.columnFamilyConfigs
    (fun rawCfOptionsMap cfName cfTxSpecificConfig =>
      rawCfOptionsMap.modify cfName (applyCfConfig orders cfTxSpecificConfig))
    rawCfOptionsMap
  (HashMap.takeEach cfg.columnFamiliesToOpen rawCfOptionsMap).map
    fun (nameStr, cfOpts) => ⟨nameStr, cfOpts.getD []⟩

end OpenDbInternal

end RockSolid
