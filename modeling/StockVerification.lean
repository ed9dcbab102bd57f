import StockVerification.QuantityInvariant
import StockVerification.Adjustments
import StockVerification.MirrorRuns
import StockVerification.OwnershipRaces
import StockVerification.HeldSessions
import StockVerification.RecountDesk
import StockVerification.PostWriteValidation
import StockVerification.RebuildVisibility
import StockVerification.PinAttempts
import StockVerification.IpFilter
import StockVerification.EnrichedValues
import StockVerification.ChangeDetection
import StockVerification.AuditTampering
import StockVerification.QuantityStability
import StockVerification.OverrideTokens
import StockVerification.RackLocks
import StockVerification.RefreshTokens
import StockVerification.BulkReview
import StockVerification.DistinctCounts
import StockVerification.PartialUpdates
import StockVerification.UpdatePrediction
import StockVerification.ApprovalExactness
import StockVerification.CommandRetries
import StockVerification.ObservationLineage
import StockVerification.DocumentLocks
import StockVerification.CreationLocks
import StockVerification.BatchMerge
import StockVerification.AutoResolution
import StockVerification.GuardedQueries
import StockVerification.HalfOpenProbes
import StockVerification.RateLimiter
import StockVerification.ThresholdMonotony
import StockVerification.SessionStatistics
import StockVerification.PolicyRefusals
import StockVerification.QueueFlush
import StockVerification.ReviewRebinding
import StockVerification.RepeatedSyncs
import StockVerification.RefreshedTotals
import StockVerification.BulkKeys
import StockVerification.UnknownItemFilters
import StockVerification.DateEntries
import StockVerification.RackProgress
import StockVerification.BatchCaching
import StockVerification.SnapshotComparison
import StockVerification.ReportFilters
import StockVerification.BatchVerification
import StockVerification.TextDistance
import StockVerification.MaterializedReview
import StockVerification.FlagResolution
import StockVerification.ItemFamilies
import StockVerification.SessionVariance
import StockVerification.FieldSearch
import StockVerification.BatchInserts
import StockVerification.VarianceFaults
import StockVerification.ItemSearch
