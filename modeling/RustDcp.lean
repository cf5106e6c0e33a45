import RustDcp.Abandonment
import RustDcp.AckQueue
import RustDcp.AckSafety
import RustDcp.AckTokens
import RustDcp.Assignment
import RustDcp.AtLeastOnce
import RustDcp.BalancedSplit
import RustDcp.Bootstrap
import RustDcp.BootstrapCapabilities
import RustDcp.BootstrapGate
import RustDcp.BootstrapOrder
import RustDcp.Checkpoint
import RustDcp.CheckpointServer
import RustDcp.CheckpointSystem
import RustDcp.CheckpointWire
import RustDcp.ClientClose
import RustDcp.ClientLifecycle
import RustDcp.ClientLifecycleSafety
import RustDcp.ClusterConfig
import RustDcp.ClusterRouting
import RustDcp.Codec
import RustDcp.CodecReencode
import RustDcp.CodecRoundTrip
import RustDcp.CollectionConvergence
import RustDcp.CollectionManifest
import RustDcp.CollectionOrder
import RustDcp.Collections
import RustDcp.Command
import RustDcp.Completion
import RustDcp.Coordinator
import RustDcp.CoordinatorCalls
import RustDcp.CoordinatorSteps
import RustDcp.Correlation
import RustDcp.CouchbaseStore
import RustDcp.CouchbaseStoreAgreement
import RustDcp.CouchbaseStoreMap
import RustDcp.DcpLayout
import RustDcp.DcpMessage
import RustDcp.Decimal
import RustDcp.Dialogue
import RustDcp.Error
import RustDcp.Event
import RustDcp.Exclusion
import RustDcp.FileStore
import RustDcp.FileStoreMap
import RustDcp.FlowControl
import RustDcp.FlushDurability
import RustDcp.FlushGate
import RustDcp.Frame
import RustDcp.FrozenBoundary
import RustDcp.Generation
import RustDcp.GenerationRun
import RustDcp.InPlace
import RustDcp.Incremental
import RustDcp.Kubernetes
import RustDcp.KubernetesAgreement
import RustDcp.KvRouting
import RustDcp.KvStores
import RustDcp.Machine
import RustDcp.MembershipProcess
import RustDcp.MembershipPublication
import RustDcp.Metadata
import RustDcp.Mitigation
import RustDcp.MitigationGate
import RustDcp.MitigationPlan
import RustDcp.NodePreparation
import RustDcp.NodeRefinement
import RustDcp.NodeSession
import RustDcp.OpenedStreams
import RustDcp.OrderedMap
import RustDcp.PartitionInvariant
import RustDcp.PartitionOrder
import RustDcp.PodRefinement
import RustDcp.PodView
import RustDcp.Registry
import RustDcp.RegistryAgreement
import RustDcp.RegistryCas
import RustDcp.RegistryFencing
import RustDcp.RegistryServer
import RustDcp.RegistryUpdate
import RustDcp.RegistryView
import RustDcp.Reopen
import RustDcp.ReopenProgress
import RustDcp.RequestBatch
import RustDcp.Resume
import RustDcp.Rollback
import RustDcp.Scram
import RustDcp.ScramUsername
import RustDcp.ScramVerification
import RustDcp.SeedAddress
import RustDcp.StatefulSet
import RustDcp.StatefulSetOrdinals
import RustDcp.StreamOpening
import RustDcp.StreamOrder
import RustDcp.StreamRequest
import RustDcp.Subscription
import RustDcp.SubscriptionSteps
import RustDcp.Topology
import RustDcp.TopologyFencing
import RustDcp.TopologyPublication
import RustDcp.TrackAcceptance
import RustDcp.Transport
import RustDcp.Uleb128
import RustDcp.Watermark
import RustDcp.WireRequest
import RustDcp.Worker
import RustDcp.WorkerClose
import RustDcp.WorkerSteps
