import ReferenceFeed.Catalogue
import ReferenceFeed.Channels
import ReferenceFeed.CompositeId
import ReferenceFeed.Conversion.Bindings
import ReferenceFeed.Conversion.Direct
import ReferenceFeed.Conversion.Schema
import ReferenceFeed.Conversion.Value
import ReferenceFeed.Delta
import ReferenceFeed.Entry
import ReferenceFeed.Event
import ReferenceFeed.Failure
import ReferenceFeed.Fanout
import ReferenceFeed.Feed
import ReferenceFeed.Flow
import ReferenceFeed.Header
import ReferenceFeed.Index.Key
import ReferenceFeed.Index.Many
import ReferenceFeed.Index.Single
import ReferenceFeed.Keyed
import ReferenceFeed.Membership
import ReferenceFeed.Notice
import ReferenceFeed.Origin
import ReferenceFeed.Origin.Claim
import ReferenceFeed.Origin.Commit
import ReferenceFeed.Origin.Stage
import ReferenceFeed.Outbox
import ReferenceFeed.Payload
import ReferenceFeed.Proofs.Accord
import ReferenceFeed.Proofs.Agreement
import ReferenceFeed.Proofs.Announcement
import ReferenceFeed.Proofs.Application
import ReferenceFeed.Proofs.Atomicity
import ReferenceFeed.Proofs.Attached
import ReferenceFeed.Proofs.Attendance
import ReferenceFeed.Proofs.Audience
import ReferenceFeed.Proofs.Bindings
import ReferenceFeed.Proofs.Catalogue
import ReferenceFeed.Proofs.Changes
import ReferenceFeed.Proofs.Claim
import ReferenceFeed.Proofs.Columns
import ReferenceFeed.Proofs.Commitment
import ReferenceFeed.Proofs.CompositeId
import ReferenceFeed.Proofs.Contents
import ReferenceFeed.Proofs.Convergence
import ReferenceFeed.Proofs.Conversion
import ReferenceFeed.Proofs.Course
import ReferenceFeed.Proofs.Delivery
import ReferenceFeed.Proofs.Departure
import ReferenceFeed.Proofs.Doubting
import ReferenceFeed.Proofs.Editing
import ReferenceFeed.Proofs.Effect
import ReferenceFeed.Proofs.Feeding
import ReferenceFeed.Proofs.Filing
import ReferenceFeed.Proofs.Following
import ReferenceFeed.Proofs.Grammar
import ReferenceFeed.Proofs.Hearing
import ReferenceFeed.Proofs.Holding
import ReferenceFeed.Proofs.Indexing
import ReferenceFeed.Proofs.Intake
import ReferenceFeed.Proofs.Joining
import ReferenceFeed.Proofs.Journal
import ReferenceFeed.Proofs.Keyed
import ReferenceFeed.Proofs.Keying
import ReferenceFeed.Proofs.Loading
import ReferenceFeed.Proofs.Membership
import ReferenceFeed.Proofs.Naming
import ReferenceFeed.Proofs.Newcomer
import ReferenceFeed.Proofs.Normalizing
import ReferenceFeed.Proofs.Notification
import ReferenceFeed.Proofs.Payload
import ReferenceFeed.Proofs.Playing
import ReferenceFeed.Proofs.Poisoning
import ReferenceFeed.Proofs.Producing
import ReferenceFeed.Proofs.Provenance
import ReferenceFeed.Proofs.Publication
import ReferenceFeed.Proofs.Quoting
import ReferenceFeed.Proofs.Reach
import ReferenceFeed.Proofs.Refresh
import ReferenceFeed.Proofs.Refusal
import ReferenceFeed.Proofs.Regrouping
import ReferenceFeed.Proofs.Regular
import ReferenceFeed.Proofs.Relay
import ReferenceFeed.Proofs.Reloading
import ReferenceFeed.Proofs.Remote
import ReferenceFeed.Proofs.Repair
import ReferenceFeed.Proofs.Republication
import ReferenceFeed.Proofs.Revision
import ReferenceFeed.Proofs.Row
import ReferenceFeed.Proofs.Scanning
import ReferenceFeed.Proofs.Section
import ReferenceFeed.Proofs.Segmentation
import ReferenceFeed.Proofs.Served
import ReferenceFeed.Proofs.Serving
import ReferenceFeed.Proofs.Session
import ReferenceFeed.Proofs.Settlement
import ReferenceFeed.Proofs.Site
import ReferenceFeed.Proofs.Sound
import ReferenceFeed.Proofs.Source
import ReferenceFeed.Proofs.Staged
import ReferenceFeed.Proofs.Station
import ReferenceFeed.Proofs.Supply
import ReferenceFeed.Proofs.Suppression
import ReferenceFeed.Proofs.Tenure
import ReferenceFeed.Proofs.Transaction
import ReferenceFeed.Proofs.Trusting
import ReferenceFeed.Proofs.Turn
import ReferenceFeed.Proofs.Underway
import ReferenceFeed.Proofs.Uniformity
import ReferenceFeed.Proofs.Width
import ReferenceFeed.Recorder
import ReferenceFeed.Replica
import ReferenceFeed.Row
import ReferenceFeed.Settings
import ReferenceFeed.Settings.Json
import ReferenceFeed.Settings.Reader
import ReferenceFeed.Store
import ReferenceFeed.Text.Binary
import ReferenceFeed.Text.Duration
import ReferenceFeed.Text.Hidden
import ReferenceFeed.Text.Integer
import ReferenceFeed.Text.Quoted
import ReferenceFeed.Workbench.Act
import ReferenceFeed.Workbench.Answer
import ReferenceFeed.Workbench.Call
import ReferenceFeed.Workbench.Operation
import ReferenceFeed.Workbench.Part
import ReferenceFeed.Workbench.Probe
import ReferenceFeed.Workbench.Run
import ReferenceFeed.Workbench.Snapshot
