/-
Module: RockSolid.Core.TuningProfile
Layer: Core
Purpose: The tuning profiles (src/tuner/profiles.rs).  A profile's method is the
  sequence of calls it makes on the options, in order; the log lines are left
  out.
Trusted boundary: human-reviewed model of the source; `f64` is `Float`, and the
  number of processors is a parameter
Main exports: IoCapOpts, TuningProfile, TuningProfile.tuneDbOpts,
  TuningProfile.tuneCfOpts
-/
import RockSolid.Core.Tunable

namespace RockSolid

open Foundation

/-- `usize::saturating_mul` and `u64::saturating_mul`. -/
def saturatingMul (a b : UInt64) : UInt64 :=
  if a.toNat * b.toNat < UInt64.size then a * b else .ofNat (UInt64.size - 1)

/-- `i64::saturating_mul`. -/
def saturatingMulSigned (a b : Int64) : Int64 :=
  .ofInt (max Int64.minValue.toInt (min Int64.maxValue.toInt
    (a.toInt * b.toInt)))

/-- `1024 * 1024`, the bytes of a megabyte. -/
def mebibyte : UInt64 := 1024 * 1024

/-- `IoCapLevel`. -/
inductive IoCapLevel where
  | lowBurst
  | balanced
  | lowLatency
deriving DecidableEq, Repr

/-- `IoCapOpts`; the defaults are those of its `Default`. -/
structure IoCapOpts where
  enableAutoIoCap : Bool := false
  ioCapFraction : Option Float := none
  ioCapLevel : IoCapLevel := .balanced

/-- `TuningProfile`. -/
inductive TuningProfile where
  | latestValue (memBudgetMbPerCfHint : UInt64) (useBloomFilters : Bool)
      (enableCompression : Bool) (ioCap : Option IoCapOpts)
  | memorySaver (totalMemMb : UInt64) (dbBlockCacheFraction : Float)
      (dbWriteBufferManagerFraction : Float)
      (expectedCfCountForWriteBuffers : UInt64) (enableLightCompression : Bool)
      (ioCap : Option IoCapOpts)
  | realTime (totalMemMb : UInt64) (dbBlockCacheFraction : Float)
      (dbWriteBufferManagerFraction : Float) (dbBackgroundThreads : Int32)
      (enableFastCompression : Bool) (useBloomFilters : Bool)
      (ioCap : Option IoCapOpts)
  | timeSeries (memBudgetMbPerCfHint : UInt64) (cfUseFifoCompaction : Bool)
      (cfFifoCompactionTotalSizeMb : Option UInt64)
      (enableZstdCompression : Bool) (ioCap : Option IoCapOpts)
  | sparseBitmap (memBudgetMbPerCfHint : UInt64)
      (cfUseUniversalCompaction : Bool)
      (enableFastCompressionIfBeneficial : Bool) (ioCap : Option IoCapOpts)

namespace TuningProfile

/-- `TuningProfile::io_opts`. -/
def ioOpts : TuningProfile → IoCapOpts
  | latestValue _ _ _ ioCap | memorySaver _ _ _ _ _ ioCap
  | realTime _ _ _ _ _ _ ioCap | timeSeries _ _ _ _ ioCap
  | sparseBitmap _ _ _ ioCap => ioCap.getD {}

/-- `TuningProfile::enable_auto_io_cap`. -/
def enableAutoIoCap (self : TuningProfile) : Bool :=
  self.ioOpts.enableAutoIoCap

/-- `TuningProfile::io_cap_level`. -/
def ioCapLevel (self : TuningProfile) : IoCapLevel :=
  self.ioOpts.ioCapLevel

/-- `TuningProfile::map_level_to_params`: refill period and fairness. -/
def mapLevelToParams : IoCapLevel → Int64 × Int32
  | .lowBurst => (200000, 5)
  | .balanced => (100000, 10)
  | .lowLatency => (50000, 15)

/-- `TuningProfile::io_cap_base_and_fraction`. -/
def ioCapBaseAndFraction (self : TuningProfile) : Float × Float :=
  let (baseMb, defaultFrac) : Float × Float :=
    match self with
    | memorySaver totalMemMb _ _ _ _ _ | realTime totalMemMb _ _ _ _ _ _ =>
        (totalMemMb.toFloat, 0.05)
    | latestValue memBudgetMbPerCfHint _ _ _
    | timeSeries memBudgetMbPerCfHint _ _ _ _
    | sparseBitmap memBudgetMbPerCfHint _ _ _ =>
        (memBudgetMbPerCfHint.toFloat * 4.0, 0.10)
  let frac := self.ioOpts.ioCapFraction.getD defaultFrac
  (baseMb, frac)

/-- `num_cpus::get().max(1) as i32`. -/
def coreCount (numCpus : UInt64) : Int32 := (max numCpus 1).toUInt32.toInt32

/-- The automatic cap of the I/O rate in `tune_db_opts`. -/
def rateLimiterCalls (self : TuningProfile) : List TunableCall :=
  if self.enableAutoIoCap then
    let (baseMb, frac) := self.ioCapBaseAndFraction
    let scaled := baseMb * frac
    let rateMb := if scaled < 16.0 then 16.0 else scaled
    let bytesPerSec := saturatingMulSigned rateMb.toInt64 (1024 * 1024)
    let (refillUs, fairness) := mapLevelToParams self.ioCapLevel
    [.tune .rateLimiter (bytesPerSec, refillUs, fairness)]
  else []

/-- A share of the memory in bytes: a fraction of the megabytes, rounded down. -/
def memoryShare (totalMemMb : UInt64) (fraction : Float) : UInt64 :=
  saturatingMul (totalMemMb.toFloat * fraction).toUInt64 mebibyte

/-- The block cache and the write buffer manager, where their share of the memory
is not empty. -/
def memoryCalls (totalMemMb : UInt64) (dbBlockCacheFraction : Float)
    (dbWriteBufferManagerFraction : Float) : List TunableCall :=
  let cacheSizeBytes := memoryShare totalMemMb dbBlockCacheFraction
  let wbmSizeBytes := memoryShare totalMemMb dbWriteBufferManagerFraction
  (if cacheSizeBytes > 0 then [.tune .rowCache ⟨cacheSizeBytes⟩] else []) ++
  (if wbmSizeBytes > 0 then
    [.tune .writeBufferManager ⟨wbmSizeBytes, false⟩] else [])

/-- The calls of the final `match` of `tune_db_opts`. -/
def variantDbCalls (numCpus : UInt64) : TuningProfile → List TunableCall
  | memorySaver totalMemMb dbBlockCacheFraction dbWriteBufferManagerFraction _ _
      _ =>
      memoryCalls totalMemMb dbBlockCacheFraction
        dbWriteBufferManagerFraction ++
      [.tune .maxOpenFiles 512,
        .tune .increaseParallelism (max (coreCount numCpus / 2) 1)]
  | realTime totalMemMb dbBlockCacheFraction dbWriteBufferManagerFraction
      dbBackgroundThreads _ _ _ =>
      let bgThreads := max dbBackgroundThreads 1
      memoryCalls totalMemMb dbBlockCacheFraction
        dbWriteBufferManagerFraction ++
      [.tune .increaseParallelism bgThreads,
        .tune .maxBackgroundJobs (max bgThreads 1),
        .tune .bytesPerSync mebibyte]
  | latestValue _ _ _ _ | timeSeries _ _ _ _ _ | sparseBitmap _ _ _ _ => []

/-- The calls every profile begins `tune_db_opts` with. -/
def commonDbCalls (numCpus : UInt64) : List TunableCall :=
  [.tune .increaseParallelism (max (coreCount numCpus) 2),
    .tune .maxOpenFiles (-1),
    .tune .allowConcurrentMemtableWrite true,
    .tune .enableWriteThreadAdaptiveYield true]

/-- The calls of `tune_db_opts`. -/
def dbCalls (self : TuningProfile) (numCpus : UInt64) : List TunableCall :=
  commonDbCalls numCpus ++ self.rateLimiterCalls ++ self.variantDbCalls numCpus

/-- `tune_db_opts`. -/
def tuneDbOpts (self : TuningProfile) (numCpus : UInt64) (dbOpts : Tunable) :
    Tunable :=
  dbOpts.run (self.dbCalls numCpus)

/-- The calls of `tune_cf_opts`. -/
def cfCalls : TuningProfile → List TunableCall
  | latestValue memBudgetMbPerCfHint useBloomFilters enableCompression _ =>
      let wbSize := saturatingMul memBudgetMbPerCfHint mebibyte / 2
      let filtered : BlockBasedOptions :=
        if useBloomFilters then
          { bloomFilter := some (10.0, false), wholeKeyFiltering := some true }
        else {}
      let bbto :=
        { filtered with
          cacheIndexAndFilterBlocks := some true
          pinL0FilterAndIndexBlocksInCache := some true }
      [.tune .writeBufferSize (max wbSize (64 * mebibyte)),
        .tune .maxWriteBufferNumber 4,
        .tune .compactionStyle .level,
        .tune .level0FileNumCompactionTrigger 4,
        .tune .level0SlowdownWritesTrigger 20,
        .tune .level0StopWritesTrigger 36] ++
      (if enableCompression then
        [.tune .compressionType .zstd, .tune .bottommostCompressionType .zstd]
      else [.tune .compressionType .none]) ++
      [.tune .blockBasedTableFactory bbto]
  | memorySaver _ _ _ _ enableLightCompression _ =>
      let bbto : BlockBasedOptions :=
        { cacheIndexAndFilterBlocks := some false
          pinL0FilterAndIndexBlocksInCache := some false }
      [.tune .writeBufferSize (max (4 * mebibyte) mebibyte),
        .tune .maxWriteBufferNumber 2] ++
      (if enableLightCompression then [.tune .compressionType .lz4]
      else [.tune .compressionType .none]) ++
      [.tune .blockBasedTableFactory bbto,
        .tune .optimizeLevelStyleCompaction 0]
  | realTime _ _ _ _ enableFastCompression useBloomFilters _ =>
      let filtered : BlockBasedOptions :=
        if useBloomFilters then
          { bloomFilter := some (10.0, false), wholeKeyFiltering := some true }
        else {}
      let bbto := { filtered with cacheIndexAndFilterBlocks := some true }
      [.tune .writeBufferSize (64 * mebibyte),
        .tune .maxWriteBufferNumber 3,
        .tune .compactionStyle .level,
        .tune .level0FileNumCompactionTrigger 2,
        .tune .level0SlowdownWritesTrigger 8,
        .tune .level0StopWritesTrigger 12] ++
      (if enableFastCompression then [.tune .compressionType .snappy]
      else [.tune .compressionType .none]) ++
      [.tune .blockBasedTableFactory bbto,
        .tune .optimizeFiltersForHits true]
  | timeSeries memBudgetMbPerCfHint cfUseFifoCompaction
      cfFifoCompactionTotalSizeMb enableZstdCompression _ =>
      [.tune .writeBufferSize
        (max (saturatingMul memBudgetMbPerCfHint mebibyte) (64 * mebibyte))] ++
      (if enableZstdCompression then
        [.tune .compressionType .zstd, .tune .bottommostCompressionType .zstd]
      else [.tune .compressionType .none]) ++
      (if cfUseFifoCompaction then
        [.tune .compactionStyle .fifo] ++
        (match cfFifoCompactionTotalSizeMb with
        | some sizeMb =>
            [.tune .compactionOptionsFifo
              { maxTableFilesSize := some (saturatingMul sizeMb mebibyte) }]
        | none => []) ++
        -- The only call of a profile to a locking setter.
        [.set .maxOpenFiles (-1)]
      else [])
  | sparseBitmap memBudgetMbPerCfHint cfUseUniversalCompaction
      enableFastCompressionIfBeneficial _ =>
      [.tune .writeBufferSize
        (max (saturatingMul memBudgetMbPerCfHint mebibyte) (128 * mebibyte)),
        .tune .maxWriteBufferNumber 4] ++
      (if enableFastCompressionIfBeneficial then
        [.tune .compressionType .snappy]
      else [.tune .compressionType .none]) ++
      (if cfUseUniversalCompaction then
        [.tune .compactionStyle .universal,
          .tune .universalCompactionOptions
            { sizeRatio := some 10, minMergeWidth := some 2,
              maxMergeWidth := some 10 },
          .tune .optimizeUniversalStyleCompaction 0]
      else [.tune .compactionStyle .level])

/-- `tune_cf_opts`. -/
def tuneCfOpts (self : TuningProfile) (cfOptions : Tunable) : Tunable :=
  cfOptions.run self.cfCalls

end TuningProfile

end RockSolid
