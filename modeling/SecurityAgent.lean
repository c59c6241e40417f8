import SecurityAgent.Lib.Run
import SecurityAgent.Lib.Lifetime
import SecurityAgent.Lib.Ledger
import SecurityAgent.Lib.Json
import SecurityAgent.Util.TimeUtils
import SecurityAgent.Util.Duration
import SecurityAgent.Util.DurationGrammar
import SecurityAgent.Util.DurationParsing
import SecurityAgent.Json.JsonObjectReader
import SecurityAgent.Json.JsonObjectWriter
import SecurityAgent.Twin.TwinConfigurationUtils
import SecurityAgent.Twin.EventCollectors
import SecurityAgent.Twin.TwinConfiguration
import SecurityAgent.Twin.Decoding
import SecurityAgent.Twin.Update
import SecurityAgent.Twin.Commit
import SecurityAgent.Twin.Atomicity
import SecurityAgent.Twin.Priorities
import SecurityAgent.Twin.ReferenceUpdate
import SecurityAgent.Twin.UnsignedSettings
import SecurityAgent.Twin.LockBalance
import SecurityAgent.Twin.Interleaving
import SecurityAgent.Twin.Report
import SecurityAgent.Twin.RoundTrip
import SecurityAgent.Lib.LinkedHeap
import SecurityAgent.Storage.MemoryMonitor
import SecurityAgent.Storage.Queue
import SecurityAgent.Storage.Fifo
import SecurityAgent.Storage.Accounting
import SecurityAgent.Storage.SyncQueue
import SecurityAgent.Storage.MeteredQueue
import SecurityAgent.Storage.CounterMeaning
import SecurityAgent.Events.MessageSerializer
import SecurityAgent.Events.Visits
import SecurityAgent.Events.Conservation
import SecurityAgent.Util.TimeDiff
import SecurityAgent.Tasks.EventPublisherTask
import SecurityAgent.Tasks.Sending
import SecurityAgent.Tasks.Execution
import SecurityAgent.Tasks.Progress
import SecurityAgent.Collectors.GenericEvent
import SecurityAgent.Collectors.AgentTelemetryCollector
import SecurityAgent.Collectors.TelemetryConservation
import SecurityAgent.Collectors.EventAggregator
import SecurityAgent.Collectors.HitConservation
import SecurityAgent.Collectors.FailedEmission
import SecurityAgent.Collectors.PushOwnership
import SecurityAgent.Tasks.EventMonitorTask
import SecurityAgent.Tasks.Timers
import SecurityAgent.Tasks.UpdateTwinTask
import SecurityAgent.Tasks.ItemOwnership
import SecurityAgent.Tasks.UpdatesInOrder
import SecurityAgent.Collectors.AgentConfigurationErrorCollector
import SecurityAgent.Collectors.ConfigurationErrorMessage
import SecurityAgent.Collectors.ConfigurationErrorOnce
import SecurityAgent.Collectors.DiagnosticEventCollector
import SecurityAgent.Collectors.DiagnosticsOff
import SecurityAgent.Iptables.IptablesEntry
import SecurityAgent.Iptables.IptablesUtils
import SecurityAgent.Iptables.IptablesTexts
import SecurityAgent.Collectors.FirewallCollector
import SecurityAgent.Collectors.FirewallReport
import SecurityAgent.Lib.Inet
import SecurityAgent.Lib.Scanf
import SecurityAgent.Ports.ListeningPortsIterator
import SecurityAgent.Ports.ProcLine
import SecurityAgent.Collectors.ListeningPortsCollector
import SecurityAgent.Collectors.PortsReport
import SecurityAgent.Hub.IoTHubAdapter
import SecurityAgent.Hub.HandleLifetime
import SecurityAgent.Hub.Recovery
import SecurityAgent.Hub.MessageStatistics
import SecurityAgent.Util.Utils
import SecurityAgent.Auth.AuthenticationManager
import SecurityAgent.Auth.LocalConfig
import SecurityAgent.Auth.DpsResponse
import SecurityAgent.Auth.NullSafety
import SecurityAgent.Auth.EarlierLives
import SecurityAgent.Auth.Renewal
import SecurityAgent.Audit.AuditSearch
import SecurityAgent.Audit.AuditCollector
import SecurityAgent.Audit.GenericAuditEvent
import SecurityAgent.Audit.ProcessCreationCollector
import SecurityAgent.Audit.ConnectionCreateCollector
import SecurityAgent.Audit.Checkpoints
import SecurityAgent.Audit.RecordTreatment
import SecurityAgent.Audit.MalformedRecords
import SecurityAgent.Lib.Keeps
import SecurityAgent.Json.JsonArrayReader
import SecurityAgent.Privileges.ProcessInfoHandler
import SecurityAgent.Collectors.BaselineCollector
import SecurityAgent.Privileges.RootOperations
import SecurityAgent.Privileges.UserRestored
import SecurityAgent.Lib.Separated
import SecurityAgent.Util.HexText
import SecurityAgent.Audit.SocketAddress
import SecurityAgent.Auth.DpsRegistration
import SecurityAgent.Lib.Shell
import SecurityAgent.Collectors.CustomChecksCommand
import SecurityAgent.Auth.KeyFile
import SecurityAgent.Iptables.PortExpressions
import SecurityAgent.Iptables.MultiportPorts
import SecurityAgent.Iptables.PortRestrictions
import SecurityAgent.Iptables.AddressTexts
import SecurityAgent.Collectors.LocalUsersCollector
import SecurityAgent.Collectors.UserGroups
import SecurityAgent.Lib.Loop
import SecurityAgent.Hub.ConnectWait
import SecurityAgent.Lib.Block
import SecurityAgent.Audit.CommandLine
import SecurityAgent.Collectors.BaselineResults
import SecurityAgent.Collectors.DiagnosticDraining
import SecurityAgent.Lib.LockOrder
import SecurityAgent.Agent.LockUse
import SecurityAgent.Agent.LockWaits
import SecurityAgent.Agent.SecurityAgent
import SecurityAgent.Agent.Lifecycle
import SecurityAgent.Audit.UserLoginCollector
import SecurityAgent.Audit.UserLogins
import SecurityAgent.Lib.Conduit
import SecurityAgent.Tasks.Delivery
import SecurityAgent.Ports.InodesMap
import SecurityAgent.Ports.SocketOwners
import SecurityAgent.Lib.Transfer
import SecurityAgent.Storage.QueueLives
import SecurityAgent.Collectors.CorrelationManager
import SecurityAgent.Collectors.Correlations
import SecurityAgent.Collectors.AggregationWindows
import SecurityAgent.Tasks.DiagnosticsDelivery
import SecurityAgent.Collectors.UsersIterator
import SecurityAgent.Collectors.UsersReport
import SecurityAgent.Lib.Lent
import SecurityAgent.Collectors.CustomChecksThreads
import SecurityAgent.Collectors.CustomChecksLifetime
import SecurityAgent.Collectors.SystemInformationCollector
import SecurityAgent.Collectors.SystemInformationReport
