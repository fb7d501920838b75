/-
Module: RockSolid.Core.TunableMethods
Layer: Core
Purpose: The methods of `Tunable<rocksdb::Options>` (src/tuner/tunable.rs), each
  with the key it passes to `is_locked` or `lock`: those that the macro generates
  from its list, and the eight pairs that are written out.
Trusted boundary: human-reviewed model of the source
Main exports: Tunable.isLockedKey, Tunable.tunableMethods, Tunable.methods,
  Tunable.perform, Tunable.performAll
-/
import RockSolid.Core.Tunable

namespace RockSolid

open Foundation

namespace Tunable

/-- `is_locked`. -/
def isLockedKey (opts : Tunable) (key : String) : Bool :=
  decide (key ∈ opts.locked)

/-- `lock`. -/
def lockKey (opts : Tunable) (key : String) : Tunable :=
  { opts with locked := insert key opts.locked }

/-- The two methods of a setter. -/
structure Methods (setter : Setter) where
  set : Tunable → setter.Arg → Tunable
  tuneSet : Tunable → setter.Arg → Tunable

/-- `tunable_methods!`, for one `fn set_… => … { key }` of its list. -/
def tunableMethods (setter : Setter) (key : String) : Methods setter where
  set opts arg := lockKey (opts.record setter arg) key
  tuneSet opts arg :=
    if !opts.isLockedKey key then opts.record setter arg else opts

section WrittenOut

variable (opts : Tunable)

def setRowCache (cache : Cache) : Tunable :=
  lockKey (opts.record .rowCache cache) "db_row_cache"

def tuneSetRowCache (cache : Cache) : Tunable :=
  if !opts.isLockedKey "db_row_cache" then
    opts.record .rowCache cache
  else opts

def setWriteBufferManager (manager : WriteBufferManager) : Tunable :=
  lockKey (opts.record .writeBufferManager manager) "db_write_buffer_manager"

def tuneSetWriteBufferManager (manager : WriteBufferManager) : Tunable :=
  if !opts.isLockedKey "db_write_buffer_manager" then
    opts.record .writeBufferManager manager
  else opts

def setBlockBasedTableFactory (factoryOpts : BlockBasedOptions) : Tunable :=
  lockKey (opts.record .blockBasedTableFactory factoryOpts)
    "cf_block_based_table_factory"

def tuneSetBlockBasedTableFactory (factoryOpts : BlockBasedOptions) : Tunable :=
  if !opts.isLockedKey "cf_block_based_table_factory" then
    opts.record .blockBasedTableFactory factoryOpts
  else opts

def setCompactionStyle (style : DBCompactionStyle) : Tunable :=
  lockKey (opts.record .compactionStyle style) "cf_compaction_style"

def tuneSetCompactionStyle (style : DBCompactionStyle) : Tunable :=
  if !opts.isLockedKey "cf_compaction_style" then
    opts.record .compactionStyle style
  else opts

def setCompressionType (ctype : DBCompressionType) : Tunable :=
  lockKey (opts.record .compressionType ctype) "cf_compression_type"

def tuneSetCompressionType (ctype : DBCompressionType) : Tunable :=
  if !opts.isLockedKey "cf_compression_type" then
    opts.record .compressionType ctype
  else opts

def setBottommostCompressionType (ctype : DBCompressionType) : Tunable :=
  lockKey (opts.record .bottommostCompressionType ctype)
    "cf_bottommost_compression_type"

def tuneSetBottommostCompressionType (ctype : DBCompressionType) : Tunable :=
  if !opts.isLockedKey "cf_bottommost_compression_type" then
    opts.record .bottommostCompressionType ctype
  else opts

def setCompactionOptionsFifo (fifoOpts : FifoCompactOptions) : Tunable :=
  lockKey (opts.record .compactionOptionsFifo fifoOpts)
    "cf_compaction_options_fifo"

def tuneSetCompactionOptionsFifo (fifoOpts : FifoCompactOptions) : Tunable :=
  if !opts.isLockedKey "cf_compaction_options_fifo" then
    opts.record .compactionOptionsFifo fifoOpts
  else opts

def setUniversalCompactionOptions (universalOpts : UniversalCompactOptions) :
    Tunable :=
  lockKey (opts.record .universalCompactionOptions universalOpts)
    "cf_universal_compaction_options"

def tuneSetUniversalCompactionOptions (universalOpts : UniversalCompactOptions) :
    Tunable :=
  if !opts.isLockedKey "cf_universal_compaction_options" then
    opts.record .universalCompactionOptions universalOpts
  else opts

end WrittenOut

/-- The methods of a setter, where `Tunable` has them. -/
def methods : (setter : Setter) → Option (Methods setter)
  | .createIfMissing =>
      some (tunableMethods .createIfMissing "db_create_if_missing")
  | .createMissingColumnFamilies =>
      some (tunableMethods .createMissingColumnFamilies
        "db_create_missing_column_families")
  | .increaseParallelism =>
      some (tunableMethods .increaseParallelism "db_increase_parallelism")
  | .maxOpenFiles => some (tunableMethods .maxOpenFiles "db_max_open_files")
  | .maxBackgroundJobs =>
      some (tunableMethods .maxBackgroundJobs "db_max_background_jobs")
  | .statsDumpPeriodSec =>
      some (tunableMethods .statsDumpPeriodSec "db_stats_dump_period_sec")
  | .rateLimiter => some (tunableMethods .rateLimiter "db_rate_limiter")
  | .bytesPerSync => some (tunableMethods .bytesPerSync "db_bytes_per_sync")
  | .walBytesPerSync =>
      some (tunableMethods .walBytesPerSync "db_wal_bytes_per_sync")
  | .allowConcurrentMemtableWrite =>
      some (tunableMethods .allowConcurrentMemtableWrite
        "db_allow_concurrent_memtable_write")
  | .enableWriteThreadAdaptiveYield =>
      some (tunableMethods .enableWriteThreadAdaptiveYield
        "db_enable_write_thread_adaptive_yield")
  | .atomicFlush => some (tunableMethods .atomicFlush "db_atomic_flush")
  | .writeBufferSize =>
      some (tunableMethods .writeBufferSize "cf_write_buffer_size")
  | .maxWriteBufferNumber =>
      some (tunableMethods .maxWriteBufferNumber "cf_max_write_buffer_number")
  | .numLevels => some (tunableMethods .numLevels "cf_num_levels")
  | .level0FileNumCompactionTrigger =>
      some (tunableMethods .level0FileNumCompactionTrigger
        "cf_level0_file_num_compaction_trigger")
  | .level0SlowdownWritesTrigger =>
      some (tunableMethods .level0SlowdownWritesTrigger
        "cf_level0_slowdown_writes_trigger")
  | .level0StopWritesTrigger =>
      some (tunableMethods .level0StopWritesTrigger
        "cf_level0_stop_writes_trigger")
  | .targetFileSizeBase =>
      some (tunableMethods .targetFileSizeBase "cf_target_file_size_base")
  | .maxBytesForLevelBase =>
      some (tunableMethods .maxBytesForLevelBase "cf_max_bytes_for_level_base")
  | .maxCompactionBytes =>
      some (tunableMethods .maxCompactionBytes "cf_max_compaction_bytes")
  | .memtableWholeKeyFiltering =>
      some (tunableMethods .memtableWholeKeyFiltering
        "cf_memtable_whole_key_filtering")
  | .memtablePrefixBloomSizeRatio =>
      some (tunableMethods .memtablePrefixBloomSizeRatio
        "cf_memtable_prefix_bloom_size_ratio")
  | .optimizeLevelStyleCompaction =>
      some (tunableMethods .optimizeLevelStyleCompaction
        "cf_optimize_level_style_compaction")
  | .optimizeUniversalStyleCompaction =>
      some (tunableMethods .optimizeUniversalStyleCompaction
        "cf_optimize_universal_style_compaction")
  | .optimizeFiltersForHits =>
      some (tunableMethods .optimizeFiltersForHits
        "cf_optimize_filters_for_hits")
  | .rowCache => some ⟨setRowCache, tuneSetRowCache⟩
  | .writeBufferManager =>
      some ⟨setWriteBufferManager, tuneSetWriteBufferManager⟩
  | .blockBasedTableFactory =>
      some ⟨setBlockBasedTableFactory, tuneSetBlockBasedTableFactory⟩
  | .compactionStyle => some ⟨setCompactionStyle, tuneSetCompactionStyle⟩
  | .compressionType => some ⟨setCompressionType, tuneSetCompressionType⟩
  | .bottommostCompressionType =>
      some ⟨setBottommostCompressionType, tuneSetBottommostCompressionType⟩
  | .compactionOptionsFifo =>
      some ⟨setCompactionOptionsFifo, tuneSetCompactionOptionsFifo⟩
  | .universalCompactionOptions =>
      some ⟨setUniversalCompactionOptions, tuneSetUniversalCompactionOptions⟩
  | .walRecoveryMode | .enableStatistics => none

/-- One call; `none` where there is no such method. -/
def perform (opts : Tunable) : TunableCall → Option Tunable
  | .set setter arg =>
      (methods setter).map fun methods => methods.set opts arg
  | .tune setter arg =>
      (methods setter).map fun methods => methods.tuneSet opts arg

/-- The calls one after the other. -/
def performAll (opts : Tunable) (calls : List TunableCall) : Option Tunable :=
  calls.foldlM perform opts

end Tunable

end RockSolid
