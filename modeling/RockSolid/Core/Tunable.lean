/-
Module: RockSolid.Core.Tunable
Layer: Core
Purpose: `Tunable<rocksdb::Options>` (src/tuner/tunable.rs).  RocksDB's options
  are the record of the last argument given to each setter.  The source generates
  a locking `set_…` and a conditional `tune_set_…` for every setter that has a
  key; both are one call with the setter as a parameter here.
Trusted boundary: human-reviewed model of the source; the types of the arguments
  stand for those of the rocksdb crate
Main exports: Setter, Setter.Arg, Setter.key, Options, Tunable, TunableCall
-/
import RockSolid.Foundation.LockedSettings

namespace RockSolid

open Foundation

/-- `rocksdb::DBCompactionStyle`. -/
inductive DBCompactionStyle where
  | level
  | universal
  | fifo
deriving DecidableEq, Repr

/-- `rocksdb::DBCompressionType`. -/
inductive DBCompressionType where
  | none
  | snappy
  | zlib
  | bz2
  | lz4
  | lz4hc
  | zstd
deriving DecidableEq, Repr

/-- `rocksdb::DBRecoveryMode`, and `RecoveryMode` of src/config.rs, which
`convert_recovery_mode` maps to it by name. -/
inductive RecoveryMode where
  | absoluteConsistency
  | pointInTime
  | skipAnyCorruptedRecord
  | tolerateCorruptedTailRecords
deriving DecidableEq, Repr

/-- An LRU `rocksdb::Cache` of a capacity. -/
structure Cache where
  capacity : UInt64
deriving DecidableEq, Repr

/-- `rocksdb::WriteBufferManager`. -/
structure WriteBufferManager where
  bufferSize : UInt64
  allowStall : Bool
deriving DecidableEq, Repr

/-- `rocksdb::BlockBasedOptions`, with the settings the crate makes on it. -/
structure BlockBasedOptions where
  bloomFilter : Option (Float × Bool) := none
  wholeKeyFiltering : Option Bool := none
  cacheIndexAndFilterBlocks : Option Bool := none
  pinL0FilterAndIndexBlocksInCache : Option Bool := none

/-- `rocksdb::FifoCompactOptions`. -/
structure FifoCompactOptions where
  maxTableFilesSize : Option UInt64 := none
deriving DecidableEq, Repr

/-- `rocksdb::UniversalCompactOptions`. -/
structure UniversalCompactOptions where
  sizeRatio : Option Int32 := none
  minMergeWidth : Option Int32 := none
  maxMergeWidth : Option Int32 := none
deriving DecidableEq, Repr

/-- The setters of `rocksdb::Options` that the crate calls: those of
`tunable_methods!`, those with methods written out, and two that are called on
`inner` only. -/
inductive Setter where
  | createIfMissing
  | createMissingColumnFamilies
  | increaseParallelism
  | maxOpenFiles
  | maxBackgroundJobs
  | statsDumpPeriodSec
  | rateLimiter
  | bytesPerSync
  | walBytesPerSync
  | allowConcurrentMemtableWrite
  | enableWriteThreadAdaptiveYield
  | atomicFlush
  | writeBufferSize
  | maxWriteBufferNumber
  | numLevels
  | level0FileNumCompactionTrigger
  | level0SlowdownWritesTrigger
  | level0StopWritesTrigger
  | targetFileSizeBase
  | maxBytesForLevelBase
  | maxCompactionBytes
  | memtableWholeKeyFiltering
  | memtablePrefixBloomSizeRatio
  | optimizeLevelStyleCompaction
  | optimizeUniversalStyleCompaction
  | optimizeFiltersForHits
  | rowCache
  | writeBufferManager
  | blockBasedTableFactory
  | compactionStyle
  | compressionType
  | bottommostCompressionType
  | compactionOptionsFifo
  | universalCompactionOptions
  | walRecoveryMode
  | enableStatistics
deriving DecidableEq, Repr

namespace Setter

/-- What a setter takes. -/
@[reducible] def Arg : Setter → Type
  | createIfMissing | createMissingColumnFamilies => Bool
  | increaseParallelism | maxOpenFiles | maxBackgroundJobs => Int32
  | statsDumpPeriodSec => UInt32
  | rateLimiter => Int64 × Int64 × Int32
  | bytesPerSync | walBytesPerSync => UInt64
  | allowConcurrentMemtableWrite | enableWriteThreadAdaptiveYield => Bool
  | atomicFlush => Bool
  | writeBufferSize => UInt64
  | maxWriteBufferNumber | numLevels => Int32
  | level0FileNumCompactionTrigger | level0SlowdownWritesTrigger => Int32
  | level0StopWritesTrigger => Int32
  | targetFileSizeBase | maxBytesForLevelBase | maxCompactionBytes => UInt64
  | memtableWholeKeyFiltering => Bool
  | memtablePrefixBloomSizeRatio => Float
  | optimizeLevelStyleCompaction | optimizeUniversalStyleCompaction => UInt64
  | optimizeFiltersForHits => Bool
  | rowCache => Cache
  | writeBufferManager => WriteBufferManager
  | blockBasedTableFactory => BlockBasedOptions
  | compactionStyle => DBCompactionStyle
  | compressionType | bottommostCompressionType => DBCompressionType
  | compactionOptionsFifo => FifoCompactOptions
  | universalCompactionOptions => UniversalCompactOptions
  | walRecoveryMode => RecoveryMode
  | enableStatistics => Unit

/-- The key a setter is locked under; `none` where `Tunable` has no method. -/
def key : Setter → Option String
  | createIfMissing => some "db_create_if_missing"
  | createMissingColumnFamilies => some "db_create_missing_column_families"
  | increaseParallelism => some "db_increase_parallelism"
  | maxOpenFiles => some "db_max_open_files"
  | maxBackgroundJobs => some "db_max_background_jobs"
  | statsDumpPeriodSec => some "db_stats_dump_period_sec"
  | rateLimiter => some "db_rate_limiter"
  | bytesPerSync => some "db_bytes_per_sync"
  | walBytesPerSync => some "db_wal_bytes_per_sync"
  | allowConcurrentMemtableWrite => some "db_allow_concurrent_memtable_write"
  | enableWriteThreadAdaptiveYield =>
      some "db_enable_write_thread_adaptive_yield"
  | atomicFlush => some "db_atomic_flush"
  | writeBufferSize => some "cf_write_buffer_size"
  | maxWriteBufferNumber => some "cf_max_write_buffer_number"
  | numLevels => some "cf_num_levels"
  | level0FileNumCompactionTrigger =>
      some "cf_level0_file_num_compaction_trigger"
  | level0SlowdownWritesTrigger => some "cf_level0_slowdown_writes_trigger"
  | level0StopWritesTrigger => some "cf_level0_stop_writes_trigger"
  | targetFileSizeBase => some "cf_target_file_size_base"
  | maxBytesForLevelBase => some "cf_max_bytes_for_level_base"
  | maxCompactionBytes => some "cf_max_compaction_bytes"
  | memtableWholeKeyFiltering => some "cf_memtable_whole_key_filtering"
  | memtablePrefixBloomSizeRatio => some "cf_memtable_prefix_bloom_size_ratio"
  | optimizeLevelStyleCompaction => some "cf_optimize_level_style_compaction"
  | optimizeUniversalStyleCompaction =>
      some "cf_optimize_universal_style_compaction"
  | optimizeFiltersForHits => some "cf_optimize_filters_for_hits"
  | rowCache => some "db_row_cache"
  | writeBufferManager => some "db_write_buffer_manager"
  | blockBasedTableFactory => some "cf_block_based_table_factory"
  | compactionStyle => some "cf_compaction_style"
  | compressionType => some "cf_compression_type"
  | bottommostCompressionType => some "cf_bottommost_compression_type"
  | compactionOptionsFifo => some "cf_compaction_options_fifo"
  | universalCompactionOptions => some "cf_universal_compaction_options"
  | walRecoveryMode | enableStatistics => none

instance : Lockable Setter String := ⟨key⟩

end Setter

/-- `rocksdb::Options`. -/
abbrev Options := Settings Setter.Arg

/-- `Options::default`, on which no setter was called. -/
def Options.default : Options := fun _ => none

/-- `Tunable<rocksdb::Options>`. -/
abbrev Tunable := LockedSettings Setter.Arg String

/-- `set_…` and `tune_set_…`. -/
abbrev TunableCall := SetterCall Setter.Arg

end RockSolid
