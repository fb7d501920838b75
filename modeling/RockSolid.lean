import RockSolid.Foundation.KeyedStore
import RockSolid.Foundation.SerialHistory
import RockSolid.Foundation.OrderedScan
import RockSolid.Foundation.PullIterator
import RockSolid.Foundation.Method
import RockSolid.Foundation.ReleaseTrace
import RockSolid.Foundation.BigEndian
import RockSolid.Foundation.FallibleList
import RockSolid.Foundation.StagedRun
import RockSolid.Foundation.LockedSettings
import RockSolid.Foundation.Positional
import RockSolid.Foundation.NumberedLoop
import RockSolid.Foundation.PlannedWrites
import RockSolid.Foundation.HashMap
import RockSolid.Foundation.CallLog
import RockSolid.Foundation.PrefixTable
import RockSolid.Foundation.BackgroundRuns
import RockSolid.Foundation.CallProgram
import RockSolid.Foundation.PrefixReads
import RockSolid.Foundation.AscendingBindings
import RockSolid.Foundation.RankedRuns
import RockSolid.Core.Error
import RockSolid.Core.Serialization
import RockSolid.Core.Iteration
import RockSolid.Core.Stores
import RockSolid.Core.TxnStore
import RockSolid.Core.TransactionContext
import RockSolid.Core.OptimisticContext
import RockSolid.Core.Comparator
import RockSolid.Core.Policies
import RockSolid.Core.Optimistic
import RockSolid.Core.StoreReads
import RockSolid.Core.ExpirySearch
import RockSolid.Core.StoreWrites
import RockSolid.Core.BatchWriter
import RockSolid.Core.TuningProfile
import RockSolid.Core.Tunable
import RockSolid.Core.DbOptions
import RockSolid.Core.Merge
import RockSolid.Core.Base62
import RockSolid.Core.MergeOperands
import RockSolid.Core.MergeRouter
import RockSolid.Core.Migrate
import RockSolid.Core.TunableMethods
import RockSolid.Core.OpenOptimistic
import RockSolid.Core.CfOptions
import RockSolid.Core.CompactionFilter
import RockSolid.Core.CustomOptions
import RockSolid.Core.DeleteRange
import RockSolid.Engine.Records
import RockSolid.Engine.RawIterator
import RockSolid.Engine.NativeTxn
import RockSolid.Engine.CommitLog
import RockSolid.Engine.Observation
import RockSolid.Engine.WriteBatch
import RockSolid.Engine.OnDisk
import RockSolid.Engine.Compaction
import RockSolid.Semantics.TracedBatch
import RockSolid.Semantics.ReferenceScan
import RockSolid.Semantics.PrefixSearch
import RockSolid.Semantics.KeyIdentity
import RockSolid.Semantics.ContextRuns
import RockSolid.Semantics.OptimisticSession
import RockSolid.Semantics.OptimisticSystem
import RockSolid.Semantics.PessimisticSystem
import RockSolid.Semantics.TransferFunds
import RockSolid.Semantics.StoreKinds
import RockSolid.Semantics.StartedScan
import RockSolid.Semantics.VisitedSearch
import RockSolid.Semantics.WriteCalls
import RockSolid.Semantics.BatchRuns
import RockSolid.Semantics.WritePaths
import RockSolid.Semantics.WriteHistory
import RockSolid.Semantics.KeyCodec
import RockSolid.Semantics.TunedOptions
import RockSolid.Semantics.TypedReads
import RockSolid.Semantics.Base62
import RockSolid.Semantics.MergeOperands
import RockSolid.Semantics.MergeRouting
import RockSolid.Semantics.RetryLoop
import RockSolid.Semantics.RangeScan
import RockSolid.Semantics.Migration
import RockSolid.Semantics.FamilyResolution
import RockSolid.Semantics.StopIsFinal
import RockSolid.Semantics.FamilyOptions
import RockSolid.Semantics.CompactionFilter
import RockSolid.Semantics.CompactedMerges
import RockSolid.Semantics.ClientPrograms
import RockSolid.Semantics.CustomOptions
import RockSolid.Semantics.Isolation
import RockSolid.Semantics.OpenStores
import RockSolid.Semantics.StoreSessions
import RockSolid.Semantics.OrderedMaps
import RockSolid.Semantics.OptimisticProgress
import RockSolid.Semantics.Directories
import RockSolid.Proofs.IterationModes
import RockSolid.Proofs.PrefixSearch
import RockSolid.Proofs.KeyIdentity
import RockSolid.Proofs.ComparatorSearch
import RockSolid.Proofs.StagingCalls
import RockSolid.Proofs.OptimisticCalls
import RockSolid.Proofs.PessimisticCalls
import RockSolid.Proofs.PessimisticLifecycle
import RockSolid.Proofs.OptimisticLifecycle
import RockSolid.Proofs.OptimisticSession
import RockSolid.Proofs.PointInTime
import RockSolid.Proofs.ReadConflicts
import RockSolid.Proofs.AttemptRuns
import RockSolid.Proofs.OptimisticSerial
import RockSolid.Proofs.HeldTransactions
import RockSolid.Proofs.PessimisticSerial
import RockSolid.Proofs.TransferFunds
import RockSolid.Proofs.ExpiryFormat
import RockSolid.Proofs.StoreReads
import RockSolid.Proofs.MultiGet
import RockSolid.Proofs.StartedScan
import RockSolid.Proofs.SearchDirection
import RockSolid.Proofs.BatchWriter
import RockSolid.Proofs.WritePaths
import RockSolid.Proofs.WriteHistory
import RockSolid.Proofs.KeyCodec
import RockSolid.Proofs.TunedOptions
import RockSolid.Proofs.TypedReads
import RockSolid.Proofs.Base62
import RockSolid.Proofs.DefaultMerge
import RockSolid.Proofs.MergeOperands
import RockSolid.Proofs.MergeRouting
import RockSolid.Proofs.RetryLoop
import RockSolid.Proofs.RangeScan
import RockSolid.Proofs.Migration
import RockSolid.Proofs.FamilyCopies
import RockSolid.Proofs.Base62Decode
import RockSolid.Proofs.TunableCalls
import RockSolid.Proofs.BatchRelease
import RockSolid.Proofs.StopIsFinal
import RockSolid.Proofs.FamilyResolution
import RockSolid.Proofs.FamilyOptions
import RockSolid.Proofs.ExpiredValues
import RockSolid.Proofs.CompactionFilter
import RockSolid.Proofs.CompactedMerges
import RockSolid.Proofs.ProgramAgreement
import RockSolid.Proofs.ClientPrograms
import RockSolid.Proofs.CustomOptions
import RockSolid.Proofs.Isolation
import RockSolid.Proofs.OpenStores
import RockSolid.Proofs.StoreSessions
import RockSolid.Proofs.OrderedMaps
import RockSolid.Proofs.OptimisticProgress
import RockSolid.Proofs.ConfinedMaps
import RockSolid.Proofs.Directories
