/-
Module: RockSolid.Semantics.TunedOptions
Layer: Semantics
Purpose: What a tuning profile asks for, and what a hard setting is meant to do
  to it.
Trusted boundary: a statement of intent
Main exports: TuningProfile.threads, TuningProfile.usesFifo, HardParallelism
-/
import RockSolid.Core.DbOptions

namespace RockSolid

/-- The number of threads a profile asks for. -/
def TuningProfile.threads (numCpus : UInt64) : TuningProfile → Int32
  | memorySaver _ _ _ _ _ _ => max (coreCount numCpus / 2) 1
  | realTime _ _ _ dbBackgroundThreads _ _ _ => max dbBackgroundThreads 1
  | latestValue _ _ _ _ | timeSeries _ _ _ _ _ | sparseBitmap _ _ _ _ =>
      max (coreCount numCpus) 2

/-- The profile asks for FIFO compaction. -/
def TuningProfile.usesFifo : TuningProfile → Bool
  | timeSeries _ cfUseFifoCompaction _ _ _ => cfUseFifoCompaction
  | latestValue _ _ _ _ | memorySaver _ _ _ _ _ _ | realTime _ _ _ _ _ _ _
  | sparseBitmap _ _ _ _ => false

/-- The hard setting of the parallelism is what the engine is given last, in every
store, and without one both opening paths give the engine the same options. -/
structure HardParallelism (numCpus : UInt64) (cfg : DbWideConfig) : Prop where
  store : ∀ p, cfg.parallelism = some p →
    RocksDbCFStore.dbWideOptions numCpus cfg .increaseParallelism = some p
  transactional : ∀ p, cfg.parallelism = some p →
    openDbInternalOptions numCpus cfg .increaseParallelism = some p
  samePaths : cfg.parallelism = none →
    RocksDbCFStore.dbWideOptions numCpus cfg = openDbInternalOptions numCpus cfg

end RockSolid
