/-
Module: RockSolid.Semantics.FamilyOptions
Layer: Semantics
Purpose: The options a column family is meant to be opened with: the calls its own
  configuration asks for, in order, and what is in force after them.
Trusted boundary: a statement of intent
Main exports: familyCalls, OpenConfig.transactional, describeEach,
  CalledOptions.settings, CalledOptions.comparator, CalledOptions.fullMerge
-/
import RockSolid.Core.CfOptions

namespace RockSolid

open Foundation

/-- The calls of a tuning profile for a column family, conditional or not. -/
def TuningProfile.madeCfCalls (self : TuningProfile) : CalledOptions :=
  self.cfCalls.map fun call => .setter call.made

/-- The call for a merge operator; what is not given is a default. -/
def MergeOperatorCfConfig.call (config : MergeOperatorCfConfig) : OptionsCall :=
  .setMergeOperator config.name config.installedFullMerge
    (config.partialMergeFn.getD defaultPartialMerge)

/-- The name under which a comparator is installed, when one is. -/
def RockSolidComparatorOpt.installedName : RockSolidComparatorOpt → Option String
  | .none => Option.none
  | .naturalLexicographical true => some "rocksolid_natlex_ci"
  | .naturalLexicographical false => some "rocksolid_natlex_cs"
  | .natural true => some "rocksolid_natural_ci"
  | .natural false => some "rocksolid_natural_cs"

/-- The call for a comparator, when there is one. -/
def RockSolidComparatorOpt.call (opt : RockSolidComparatorOpt)
    (orders : NaturalOrders) : Option OptionsCall :=
  opt.installedName.map fun name =>
    .setComparator name (installedComparator orders opt)

def RockSolidCompactionFilterRouterConfig.call
    (config : RockSolidCompactionFilterRouterConfig) : OptionsCall :=
  .setCompactionFilter config.name config.filterFnPtr

/-- The calls for a family with this configuration, or without one: those of its
own profile, else of the DB-wide one, then its merge operator, comparator and
compaction filter. -/
def familyCalls (orders : NaturalOrders) (dbTuningProfile : Option TuningProfile)
    (own : Option BaseCfConfig) : CalledOptions :=
  let profile := (own.bind (·.tuningProfile)).or dbTuningProfile
  let mergeOperator := own.bind (·.mergeOperator)
  let comparator := own.bind (·.comparator)
  let filterRouter := own.bind (·.compactionFilterRouter)
  profile.elim [] (·.madeCfCalls) ++ (mergeOperator.map (·.call)).toList ++
    (comparator.bind (·.call orders)).toList ++
    (filterRouter.map (·.call)).toList

/-- The same input for the transactional path. -/
def OpenConfig.transactional (cfg : OpenConfig BaseCfConfig) :
    OpenConfig CFTxConfig :=
  { cfg with
    columnFamilyConfigs := cfg.columnFamilyConfigs.mapValues CFTxConfig.mk }

/-- A descriptor for every position.  A name has its options the first time; where
it is repeated they are the default ones. -/
def describeEach (names : List String) (calls : String → CalledOptions) :
    List ColumnFamilyDescriptor :=
  names.mapIdx fun i name =>
    ⟨name, if name ∈ names.take i then [] else calls name⟩

namespace CalledOptions

/-- The call of a setter that `Tunable` records. -/
def setterCall : OptionsCall → Option (MadeCall Setter.Arg)
  | .setter call => some call
  | _ => none

def comparatorCall : OptionsCall → Option (String × Comparator)
  | .setComparator name cmp => some (name, cmp)
  | _ => none

def mergeCall : OptionsCall → Option MergeFn
  | .setMergeOperator _ fullMergeFn _ => some fullMergeFn
  | _ => none

variable (opts : CalledOptions)

/-- The settings in force after the calls. -/
def settings : Options := Options.default.replay (opts.filterMap setterCall)

/-- The comparator in force: the last one that was set, else the bytewise order. -/
def comparator : Comparator :=
  RocksDbOptions.effectiveComparator ⟨(opts.filterMap comparatorCall).getLast?⟩

/-- The full merge in force, if there is one. -/
def fullMerge : Option MergeFn := (opts.filterMap mergeCall).getLast?

end CalledOptions

end RockSolid
