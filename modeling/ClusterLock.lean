import ClusterLock.Cluster
import ClusterLock.CommandLine.Command
import ClusterLock.CommandLine.Options
import ClusterLock.Config.Configuration
import ClusterLock.Config.Environment
import ClusterLock.Config.Format
import ClusterLock.Config.Ini
import ClusterLock.Config.Setting
import ClusterLock.Execution
import ClusterLock.Failure
import ClusterLock.FileTree
import ClusterLock.Journal
import ClusterLock.Json.Draft
import ClusterLock.Json.Fault
import ClusterLock.Json.Printer
import ClusterLock.Json.Shape
import ClusterLock.Json.Value
import ClusterLock.JsonForm
import ClusterLock.Kubernetes.ApiError
import ClusterLock.Kubernetes.Client
import ClusterLock.Kubernetes.ConfigMapStore
import ClusterLock.Kubernetes.Fetch
import ClusterLock.Kubernetes.Kubeconfig
import ClusterLock.Kubernetes.Metadata
import ClusterLock.Kubernetes.Server
import ClusterLock.Kubernetes.Transport
import ClusterLock.Kubernetes.Uri
import ClusterLock.LockRecord
import ClusterLock.Locker
import ClusterLock.Logging.Filter
import ClusterLock.Logging.Output
import ClusterLock.Logging.Settings
import ClusterLock.Logging.Startup
import ClusterLock.MemoryStore
import ClusterLock.Number.Binary64
import ClusterLock.Number.Decimal
import ClusterLock.Program
import ClusterLock.Race
import ClusterLock.RecordStore
import ClusterLock.Text.Quoted
import ClusterLock.Text.Segments
import ClusterLock.Text.Utf16
import ClusterLock.Text.Utf8
import ClusterLock.Toml.Document
import ClusterLock.Toml.Value
import ClusterLock.Yaml.Document
import ClusterLock.Yaml.Lexer
import ClusterLock.Yaml.Record
import ClusterLock.Yaml.Scalar
import ClusterLock.Yaml.Token
import ClusterLock.Yaml.Value
import ClusterLock.Main
import ClusterLock.Proofs.Turn
import ClusterLock.Proofs.Interleaving
import ClusterLock.Proofs.Exclusion
import ClusterLock.Proofs.Linearization
import ClusterLock.Proofs.MemoryTurn
import ClusterLock.Proofs.Interference
import ClusterLock.Proofs.Independence
import ClusterLock.Proofs.Provenance
import ClusterLock.Proofs.Reading
import ClusterLock.Proofs.RequestPath
import ClusterLock.Proofs.Spelling
import ClusterLock.Proofs.ApiServer
import ClusterLock.Proofs.PlainServer
import ClusterLock.Proofs.Interchange
import ClusterLock.Proofs.OwnRecord
import ClusterLock.Proofs.Balance
import ClusterLock.Proofs.CallDiscipline
import ClusterLock.Proofs.RoundTrip
import ClusterLock.Proofs.FetchedCluster
import ClusterLock.Proofs.Layering
import ClusterLock.Proofs.TypeMetadata
import ClusterLock.Proofs.Forecast
import ClusterLock.Proofs.FailClosed
import ClusterLock.Proofs.RaceCount
import ClusterLock.Proofs.AcceptedForms
import ClusterLock.Proofs.ConfigMapCodec
import ClusterLock.Proofs.CommandFailure
import ClusterLock.Proofs.TextSettings
import ClusterLock.Proofs.StoreHistory
import ClusterLock.Proofs.OneCluster
import ClusterLock.Proofs.SpanContext
import ClusterLock.Proofs.ComponentLog
