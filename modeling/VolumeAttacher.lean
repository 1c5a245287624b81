import VolumeAttacher.Access
import VolumeAttacher.Attachment.Status
import VolumeAttacher.Binary64
import VolumeAttacher.Capability
import VolumeAttacher.Cluster.Client
import VolumeAttacher.Cluster.Exchange
import VolumeAttacher.Cluster.Object
import VolumeAttacher.Cluster.Resource
import VolumeAttacher.Cluster.Server
import VolumeAttacher.CommandLine
import VolumeAttacher.Controller
import VolumeAttacher.Dialogue
import VolumeAttacher.Discovery
import VolumeAttacher.Driver.Address
import VolumeAttacher.Driver.Call
import VolumeAttacher.Driver.Form
import VolumeAttacher.Driver.Message
import VolumeAttacher.Driver.Name
import VolumeAttacher.Driver.Service
import VolumeAttacher.Driver.StatusCode
import VolumeAttacher.Driver.Wire
import VolumeAttacher.Duration
import VolumeAttacher.Duration.Reader
import VolumeAttacher.Duration.Seconds
import VolumeAttacher.Election.Candidacy
import VolumeAttacher.Election.Entry
import VolumeAttacher.Election.Label
import VolumeAttacher.Election.Leadership
import VolumeAttacher.Election.Lock
import VolumeAttacher.Election.LockKind
import VolumeAttacher.Election.LockObject
import VolumeAttacher.Election.Record
import VolumeAttacher.Election.Supervision
import VolumeAttacher.Election.Timing
import VolumeAttacher.Endpoint
import VolumeAttacher.Fault
import VolumeAttacher.Json
import VolumeAttacher.Json.Member
import VolumeAttacher.Json.MergePatch
import VolumeAttacher.Json.Printer
import VolumeAttacher.Json.Reader
import VolumeAttacher.Kubeconfig
import VolumeAttacher.Log
import VolumeAttacher.Main
import VolumeAttacher.Metrics
import VolumeAttacher.Metrics.Exposition
import VolumeAttacher.Proofs.Binary64
import VolumeAttacher.Proofs.Cluster.Address
import VolumeAttacher.Proofs.Cluster.Edition
import VolumeAttacher.Proofs.Cluster.Finalizers
import VolumeAttacher.Proofs.Cluster.Metadata
import VolumeAttacher.Proofs.Cluster.Registry
import VolumeAttacher.Proofs.Cluster.Status
import VolumeAttacher.Proofs.Controller.Backoff
import VolumeAttacher.Proofs.Controller.Clock
import VolumeAttacher.Proofs.Controller.Custody
import VolumeAttacher.Proofs.Controller.DriverCalls
import VolumeAttacher.Proofs.Controller.Estate
import VolumeAttacher.Proofs.Controller.Gate
import VolumeAttacher.Proofs.Controller.Jobs
import VolumeAttacher.Proofs.Controller.Life
import VolumeAttacher.Proofs.Controller.Listing
import VolumeAttacher.Proofs.Controller.Marks
import VolumeAttacher.Proofs.Controller.Oversight
import VolumeAttacher.Proofs.Controller.Passage
import VolumeAttacher.Proofs.Controller.Retention
import VolumeAttacher.Proofs.Controller.Site
import VolumeAttacher.Proofs.Controller.Sojourn
import VolumeAttacher.Proofs.Controller.Withdrawal
import VolumeAttacher.Proofs.Discovery
import VolumeAttacher.Proofs.Driver.Declaration
import VolumeAttacher.Proofs.Driver.Folding
import VolumeAttacher.Proofs.Driver.Message
import VolumeAttacher.Proofs.Driver.Wire
import VolumeAttacher.Proofs.Duration.Seconds
import VolumeAttacher.Proofs.Election.Backends
import VolumeAttacher.Proofs.Election.Conclusion
import VolumeAttacher.Proofs.Election.Contest
import VolumeAttacher.Proofs.Election.Counters
import VolumeAttacher.Proofs.Election.Duty
import VolumeAttacher.Proofs.Election.Encoding
import VolumeAttacher.Proofs.Election.Entitlement
import VolumeAttacher.Proofs.Election.Exclusion
import VolumeAttacher.Proofs.Election.Holdings
import VolumeAttacher.Proofs.Election.Incumbency
import VolumeAttacher.Proofs.Election.Inheritance
import VolumeAttacher.Proofs.Election.Intrusion
import VolumeAttacher.Proofs.Election.Lawfulness
import VolumeAttacher.Proofs.Election.Lineage
import VolumeAttacher.Proofs.Election.Margin
import VolumeAttacher.Proofs.Election.Moves
import VolumeAttacher.Proofs.Election.Obedience
import VolumeAttacher.Proofs.Election.Outcome
import VolumeAttacher.Proofs.Election.Overlap
import VolumeAttacher.Proofs.Election.Publication
import VolumeAttacher.Proofs.Election.Succession
import VolumeAttacher.Proofs.Election.Surroundings
import VolumeAttacher.Proofs.Election.Takeover
import VolumeAttacher.Proofs.Election.Turn
import VolumeAttacher.Proofs.Json.Members
import VolumeAttacher.Proofs.Json.RoundTrip
import VolumeAttacher.Proofs.Json.TextMaps
import VolumeAttacher.Proofs.Reconciliation.Custody
import VolumeAttacher.Proofs.Reconciliation.Failure
import VolumeAttacher.Proofs.Reconciliation.Feed
import VolumeAttacher.Proofs.Reconciliation.Protocol
import VolumeAttacher.Proofs.Reconciliation.Report
import VolumeAttacher.Proofs.Reconciliation.Separation
import VolumeAttacher.Proofs.Reconciliation.Tenure
import VolumeAttacher.Proofs.Text.Utf8
import VolumeAttacher.Proofs.Timestamp.Calendar
import VolumeAttacher.Proofs.Timestamp.RoundTrip
import VolumeAttacher.Proofs.WorkQueue
import VolumeAttacher.Proofs.WorkQueue.Amplification
import VolumeAttacher.Proofs.WorkQueue.Interval
import VolumeAttacher.Proofs.WorkQueue.Ledger
import VolumeAttacher.Proofs.WorkQueue.Shifts
import VolumeAttacher.Proofs.WorkQueue.Wakeup
import VolumeAttacher.Reconciliation.Attachment
import VolumeAttacher.Reconciliation.Document
import VolumeAttacher.Reconciliation.Feed
import VolumeAttacher.Reconciliation.Request
import VolumeAttacher.Reconciliation.Routing
import VolumeAttacher.Reconciliation.Sending
import VolumeAttacher.Reconciliation.Volume
import VolumeAttacher.Rehearsal.Agenda
import VolumeAttacher.Rehearsal.Cluster
import VolumeAttacher.Rehearsal.Controller
import VolumeAttacher.Rehearsal.Discovering
import VolumeAttacher.Rehearsal.DriverScript
import VolumeAttacher.Rehearsal.Election
import VolumeAttacher.Rehearsal.Handling
import VolumeAttacher.Rehearsal.LockStore
import VolumeAttacher.Rehearsal.Queue
import VolumeAttacher.Rehearsal.Report
import VolumeAttacher.Rehearsal.Startup
import VolumeAttacher.Settings
import VolumeAttacher.Settings.Printer
import VolumeAttacher.Startup
import VolumeAttacher.Strategy
import VolumeAttacher.Text.Base64
import VolumeAttacher.Text.Blank
import VolumeAttacher.Text.Hex
import VolumeAttacher.Text.Quoted
import VolumeAttacher.Text.Unprintable
import VolumeAttacher.Text.Utf8
import VolumeAttacher.Timestamp
import VolumeAttacher.Timestamp.Reader
import VolumeAttacher.Volume
import VolumeAttacher.WorkQueue
import VolumeAttacher.WorkQueue.Waiting
