import RabbitKit.LabelledRun
import RabbitKit.OrderedDict
import RabbitKit.DelimitedText
import RabbitKit.SettlementCoordinator
import RabbitKit.SettlementPlanner
import RabbitKit.SettlementEmission
import RabbitKit.SettlementLedgerInvariant
import RabbitKit.CumulativeAckSafety
import RabbitKit.SettlementBatches
import RabbitKit.SettlementCoverage
import RabbitKit.SettlementAccounting
import RabbitKit.SettlementGenerations
import RabbitKit.CoalescingEquivalence
import RabbitKit.EmissionOutcome
import RabbitKit.MessageSigning
import RabbitKit.SignedPayloadBinding
import RabbitKit.NonceReplay
import RabbitKit.StreamOffsetTracker
import RabbitKit.StreamWatermark
import RabbitKit.StreamCommitTask
import RabbitKit.StreamReplay
import RabbitKit.InterruptibleState
import RabbitKit.InteractionScripts
import RabbitKit.FailureTaxonomy
import RabbitKit.AsyncSettlement
import RabbitKit.AsyncFailurePath
import RabbitKit.DeliveryAccounting
import RabbitKit.ConsumeChainEnds
import RabbitKit.AsyncNoLoss
import RabbitKit.DeduplicationMiddleware
import RabbitKit.DeduplicationSafety
import RabbitKit.ResultReplay
import RabbitKit.SyncDeadlines
import RabbitKit.DeadlineRefusals
import RabbitKit.TimeoutScope
import RabbitKit.DaemonWorkerPool
import RabbitKit.AsyncWorkerPool
import RabbitKit.AsyncChannelPool
import RabbitKit.ChannelPoolAccounting
import RabbitKit.ChannelPoolWakeups
import RabbitKit.SyncChannelPool
import RabbitKit.DeadLetterReplay
import RabbitKit.ReplayConservation
import RabbitKit.QueueMigration
import RabbitKit.MigrationConservation
import RabbitKit.MessageScripts
import RabbitKit.HandlerPipelines
import RabbitKit.GuardFreshness
import RabbitKit.SyncSettlementOnce
import RabbitKit.PipelineAgreement
import RabbitKit.RetryCopies
import RabbitKit.RetryBudget
import RabbitKit.QueueDefinitions
import RabbitKit.RetryTopology
import RabbitKit.DeclarationTables
import RabbitKit.TopologyDeclaration
import RabbitKit.DeclaredDefinitions
import RabbitKit.PlainRoutes
import RabbitKit.DeadLetterCoverage
import RabbitKit.TopologyVerification
import RabbitKit.TopologyAgreement
import RabbitKit.RetryHeaders
import RabbitKit.BulkPublishItems
import RabbitKit.BulkRunner
import RabbitKit.BulkAccounting
import RabbitKit.BulkBounds
import RabbitKit.BulkResources
import RabbitKit.AsyncConnectionPool
import RabbitKit.ConnectionPoolSteps
import RabbitKit.ConnectionPoolControl
import RabbitKit.ConnectionPoolClose
import RabbitKit.ConnectionPoolRestore
import RabbitKit.RedisLock
import RabbitKit.DeduplicationExclusion
import RabbitKit.RpcClient
import RabbitKit.RpcSteps
import RabbitKit.RpcRegistry
import RabbitKit.RpcConsumer
import RabbitKit.RpcClose
import RabbitKit.CallLedger
import RabbitKit.ChannelSends
import RabbitKit.ChannelSendSteps
import RabbitKit.ChannelSendSerialisation
import RabbitKit.PublishHonesty
import RabbitKit.AsyncPublish
import RabbitKit.SyncPublish
import RabbitKit.ConsumerSupervision
import RabbitKit.MessageSettlement
import RabbitKit.AckerGroup
import RabbitKit.StreamCounter
import RabbitKit.NonceLifetime
import RabbitKit.AppLifecycle
import RabbitKit.TokenBuckets
import RabbitKit.RoutingPaths
import RabbitKit.Compression
