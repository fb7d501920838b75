/-
Module: RockSolid.Core.DbOptions
Layer: Core
Purpose: The DB-wide options a store passes to the engine: steps 1 to 3 of
  `RocksDbCFStore::open` (src/cf_store.rs), and the helper the opening code of
  the transactional stores shares (src/tx/internal.rs).
Trusted boundary: human-reviewed model of the source, without a custom callback
Main exports: DbWideConfig, RocksDbCFStore.dbWideOptions, buildDbWideOptions,
  openDbInternalOptions
-/
import RockSolid.Core.Stores
import RockSolid.Core.TuningProfile

namespace RockSolid

open Foundation

/-- The DB-wide fields that `RocksDbCFStoreConfig` and
`RocksDbTransactionalStoreConfig` have in common. -/
structure DbWideConfig where
  createIfMissing : Bool
  dbTuningProfile : Option TuningProfile
  recoveryMode : Option RecoveryMode
  parallelism : Option Int32
  enableStatistics : Option Bool

/-- The recovery mode and the statistics, which both paths record on `inner`. -/
def recordModeAndStatistics (recoveryMode : Option RecoveryMode)
    (enableStatistics : Option Bool) (dbOptsTunable : Tunable) : Tunable :=
  let dbOptsTunable :=
    match recoveryMode with
    | some mode => dbOptsTunable.record .walRecoveryMode mode
    | none => dbOptsTunable
  match enableStatistics with
  | some enableStats =>
      if enableStats then dbOptsTunable.record .enableStatistics ()
      else dbOptsTunable
  | none => dbOptsTunable

variable (numCpus : UInt64)

/-- The DB-wide profile, when there is one. -/
def tuneWith (dbTuningProfile : Option TuningProfile) (dbOptsTunable : Tunable) :
    Tunable :=
  match dbTuningProfile with
  | some profile => profile.tuneDbOpts numCpus dbOptsTunable
  | none => dbOptsTunable

/-- The DB-wide options of `RocksDbCFStore::open`. -/
def RocksDbCFStore.dbWideOptions (cfg : DbWideConfig) : Options :=
  let dbOptsTunable : Tunable := .new Options.default
  let dbOptsTunable := dbOptsTunable.record .createIfMissing cfg.createIfMissing
  let dbOptsTunable :=
    dbOptsTunable.record .createMissingColumnFamilies cfg.createIfMissing
  let dbOptsTunable :=
    match cfg.parallelism with
    | some p => dbOptsTunable.set .increaseParallelism p
    | none => dbOptsTunable
  let dbOptsTunable :=
    recordModeAndStatistics cfg.recoveryMode cfg.enableStatistics dbOptsTunable
  (tuneWith numCpus cfg.dbTuningProfile dbOptsTunable).inner

/-- `_build_db_wide_options`. -/
def buildDbWideOptions (cfgCreateIfMissing : Option Bool)
    (cfgParallelism : Option Int32) (cfgRecoveryMode : Option RecoveryMode)
    (cfgEnableStatistics : Option Bool)
    (cfgDbTuningProfile : Option TuningProfile) : Options :=
  let dbOptsTunable : Tunable := .new Options.default
  let dbOptsTunable :=
    match cfgCreateIfMissing with
    | some createMissing =>
        (dbOptsTunable.record .createIfMissing createMissing).record
          .createMissingColumnFamilies createMissing
    | none => dbOptsTunable
  let dbOptsTunable :=
    match cfgParallelism with
    -- Unlike the other store, straight on `inner`: nothing is locked.
    | some p => dbOptsTunable.record .increaseParallelism p
    | none => dbOptsTunable
  let dbOptsTunable :=
    recordModeAndStatistics cfgRecoveryMode cfgEnableStatistics dbOptsTunable
  (tuneWith numCpus cfgDbTuningProfile dbOptsTunable).inner

/-- The DB-wide options of `_open_db_internal`. -/
def openDbInternalOptions (cfg : DbWideConfig) : Options :=
  buildDbWideOptions numCpus (some cfg.createIfMissing) cfg.parallelism
    cfg.recoveryMode cfg.enableStatistics cfg.dbTuningProfile

end RockSolid
