import NetOps.Conc.Prog
import NetOps.Conc.Store
import NetOps.Conc.System
import NetOps.Text
import NetOps.Dict
import NetOps.OuterJoin
import NetOps.Words
import NetOps.Patterns
import NetOps.Moments
import NetOps.Outcomes
import NetOps.Groups
import NetOps.Paging
import NetOps.Joins
import NetOps.Net.IpAddress
import NetOps.Net.Spellings
import NetOps.Discovery.Contracts
import NetOps.Discovery.Records
import NetOps.Discovery.Scopes
import NetOps.Discovery.Jobs
import NetOps.Discovery.Reconcile
import NetOps.Discovery.Trees
import NetOps.Discovery.Policy
import NetOps.Discovery.Collectors
import NetOps.Discovery.MultiTransport
import NetOps.Discovery.Execution
import NetOps.Discovery.Fanout
import NetOps.Discovery.Worker
import NetOps.Discovery.Statements
import NetOps.Discovery.ExecutionStatements
import NetOps.Discovery.Runs
import NetOps.Discovery.Samples
import NetOps.Discovery.Absorbing
import NetOps.Discovery.Recovery
import NetOps.Discovery.Cancellation
import NetOps.Vendors.Cisco
import NetOps.Transports.Manager
import NetOps.Transports.PoolKept
import NetOps.Transports.Breaker
import NetOps.Transports.Isolation
import NetOps.Transports.Credentials
import NetOps.Transports.Sessions
import NetOps.Collectors.Cisco
import NetOps.Collectors.Selector
import NetOps.Discovery.OptIn
import NetOps.Discovery.Inheritance
import NetOps.Discovery.ChildTargets
import NetOps.Discovery.Reach
import NetOps.Collectors.CiscoInventory
import NetOps.Snapshot.Entities
import NetOps.Json.RoundTrip
import NetOps.Clock.Stamps
import NetOps.Normalization.Mapper
import NetOps.Discovery.Identity
import NetOps.Discovery.Compatibility
import NetOps.Discovery.Signals
import NetOps.Discovery.Classified
import NetOps.Discovery.Accounting
import NetOps.Discovery.FanoutRuns
import NetOps.Discovery.Verdicts
import NetOps.Discovery.Uuids
import NetOps.Snapshot.Encodings
import NetOps.Discovery.TargetRequests
import NetOps.Discovery.Profiles
import NetOps.Discovery.Admission
import NetOps.Discovery.ProfileReferences
import NetOps.Discovery.Evidence
import NetOps.Discovery.Redaction
import NetOps.Discovery.Mirrors
import NetOps.Discovery.LikeCollectors
import NetOps.Discovery.FailureMessages
import NetOps.Conc.Rows
import NetOps.Conc.Alone
import NetOps.Conc.TwoRuns
import NetOps.Conc.References
import NetOps.Discovery.TargetDeletion
import NetOps.Discovery.Leases
import NetOps.Discovery.Claims
import NetOps.Inventory.Entities
import NetOps.Inventory.Mapper
import NetOps.Comparison.Differences
import NetOps.Comparison.Engine
import NetOps.Comparison.Matching
import NetOps.Comparison.Order
import NetOps.Comparison.Drift
import NetOps.Comparison.Interfaces
import NetOps.Comparison.SnapshotService
import NetOps.Comparison.Fields
import NetOps.Comparison.Addresses
import NetOps.Comparison.Counts
import NetOps.Comparison.DeviceView
import NetOps.Reporting.Statistics
import NetOps.Reporting.DeviceCounts
import NetOps.Variance.Report
import NetOps.Variance.Partition
import NetOps.Auth.Service
import NetOps.Auth.Codec
import NetOps.Auth.Registration
import NetOps.Auth.Activity
import NetOps.Discovery.Repeated
import NetOps.Discovery.CredentialTest
import NetOps.Discovery.ProfileWrites
import NetOps.Discovery.EffectivePolicy
import NetOps.Discovery.FallbackTrace
import NetOps.Discovery.FailedChain
import NetOps.Scheduler.Flags
import NetOps.Scheduler.Ticks
import NetOps.Scheduler.Interleaving
import NetOps.Collectors.Runtime
import NetOps.Orchestration.Workflow
import NetOps.Jobs.Absorbing
import NetOps.Jobs.Accepted
import NetOps.Integrations.Exclusive
import NetOps.Policies.Repository
import NetOps.Policies.Assignments
import NetOps.Policies.Versions
import NetOps.Policies.Inheritance
import NetOps.Policies.Latest
import NetOps.Binary64
import NetOps.Evaluation.Waivers
import NetOps.Evaluation.Aggregates
import NetOps.Discovery.Identification
import NetOps.Integrations.Pagination
import NetOps.Cache.Redis
import NetOps.Integrations.CacheKeys
import NetOps.Snapshot.Merge
import NetOps.Cache.Resilient
import NetOps.Collectors.VlanTable
import NetOps.Dashboard.Periods
import NetOps.Net.RoundTrip
import NetOps.Discovery.Expansion
import NetOps.Discovery.StoredEvidence
import NetOps.Retries
import NetOps.Collectors.Executor
import NetOps.Collectors.Attempts
import NetOps.Collectors.Accounting
import NetOps.Collectors.Cancellation
import NetOps.Discovery.JobPages
import NetOps.Discovery.Growth
import NetOps.Lines
import NetOps.Collectors.NeighborBlocks
import NetOps.Normalization.Loops
import NetOps.Normalization.Images
import NetOps.Csv
import NetOps.Markup
import NetOps.Reporting.Renderer
import NetOps.Reporting.CsvExport
import NetOps.Reporting.HtmlExport
import NetOps.Reporting.Reports
import NetOps.TokenBucket
import NetOps.Transports.RateLimiter
import NetOps.Audit.Records
import NetOps.Events.Bus
import NetOps.Audit.Trail
import NetOps.Integrations.Requests
import NetOps.Decision.Engine
import NetOps.Inventory.Pages
import NetOps.Snapshot.Integrity
import NetOps.Discovery.Pipeline
