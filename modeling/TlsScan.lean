import TlsScan.CommandLine
import TlsScan.Config
import TlsScan.Config.File
import TlsScan.Config.Json
import TlsScan.Decimal.Binary
import TlsScan.Decimal.Rounded
import TlsScan.Decimal.Shortest
import TlsScan.Declaration
import TlsScan.Dependency
import TlsScan.Duration
import TlsScan.Engine
import TlsScan.Engine.Json
import TlsScan.Error
import TlsScan.Fault
import TlsScan.Json
import TlsScan.Json.Codec
import TlsScan.Json.Document
import TlsScan.Json.Number
import TlsScan.Json.Printer
import TlsScan.Json.Token
import TlsScan.Leak.ChiSquared
import TlsScan.Leak.Contingency
import TlsScan.Leak.Fingerprint
import TlsScan.Leak.Policy
import TlsScan.Leak.Runner
import TlsScan.Leak.Test
import TlsScan.Log
import TlsScan.Net.Address
import TlsScan.Net.DomainName
import TlsScan.Net.DomainName.Label
import TlsScan.Net.DomainName.Mapping
import TlsScan.Net.Punycode
import TlsScan.Net.Reachability
import TlsScan.Net.Target
import TlsScan.Net.Url
import TlsScan.ProbeId
import TlsScan.ProbeSet
import TlsScan.Progress
import TlsScan.Property
import TlsScan.Protocol
import TlsScan.Report
import TlsScan.Report.Json
import TlsScan.Report.Merge
import TlsScan.Report.Write
import TlsScan.Requirement
import TlsScan.Requirement.Unmet
import TlsScan.Scan.Context
import TlsScan.Scan.Coordinator
import TlsScan.Scan.Event
import TlsScan.Scan.Execution
import TlsScan.Scan.Pool
import TlsScan.Scan.Probe
import TlsScan.Scan.VirtualTime
import TlsScan.Scan.Workers
import TlsScan.Text.Blank
import TlsScan.Text.Number
import TlsScan.Text.Parser
import TlsScan.Text.Split
import TlsScan.Timestamp
import TlsScan.Toml
import TlsScan.Toml.Parser
import TlsScan.Unicode.Composition
import TlsScan.Unicode.Property
import TlsScan.Unicode.Rows
import TlsScan.Vocabulary
import TlsScan.Vocabulary.Selection
import TlsScan.Vocabulary.Table
import TlsScan.Proofs.Report.History
import TlsScan.Proofs.Report.Merging
import TlsScan.Proofs.Requirement.Building
import TlsScan.Proofs.Requirement.References
import TlsScan.Proofs.Requirement.Monotone
import TlsScan.Proofs.Scan.Admission
import TlsScan.Proofs.Scan.Capacity
import TlsScan.Proofs.Scan.Confluence
import TlsScan.Proofs.Scan.Eligibility
import TlsScan.Proofs.Scan.HardDependencies
import TlsScan.Proofs.Scan.Outcomes
import TlsScan.Proofs.Dependency.Circle
import TlsScan.Proofs.Report.Ownership
import TlsScan.Proofs.Scan.Provenance
import TlsScan.Proofs.Scan.Doomed
import TlsScan.Proofs.Scan.Stalls
import TlsScan.Proofs.Scan.Bounds
import TlsScan.Proofs.Scan.SetupFailures
import TlsScan.Proofs.Leak.Escalation
import TlsScan.Proofs.Leak.Significance
import TlsScan.Proofs.Json.WireTypes
import TlsScan.Proofs.Report.RoundTrip
import TlsScan.Proofs.Report.Commuting
import TlsScan.Proofs.Report.Validation
import TlsScan.Proofs.Leak.Rounds
import TlsScan.Proofs.Dependency.HardEdges
import TlsScan.Proofs.Toml.Keys
import TlsScan.Proofs.Config.Layers
import TlsScan.Proofs.Net.Addresses
import TlsScan.Proofs.Net.Labels
import TlsScan.Proofs.Net.Ports
import TlsScan.Proofs.Leak.Pearson
import TlsScan.Proofs.Leak.Views
import TlsScan.Proofs.Leak.Isolation
import TlsScan.Proofs.Dependency.Calls
import TlsScan.Proofs.Scan.Timeline
import TlsScan.Proofs.Scan.Places
import TlsScan.Proofs.Scan.FirstCome
