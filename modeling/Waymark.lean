import Waymark.Analysis
import Waymark.Changelog.Checkpoint
import Waymark.Command.Basic
import Waymark.Deployment.Resolution
import Waymark.Document.Basic
import Waymark.Handoff.Synchronizer
import Waymark.Language.Builtin
import Waymark.Main
import Waymark.Proofs.Fallible
import Waymark.Proofs.Tree.Operation
import Waymark.Scan.Basic
import Waymark.Store.Basic
import Waymark.Summary.Measure
import Waymark.Tree.Basic
import Waymark.Proofs.Tree.Prior
import Waymark.Proofs.Disk.Effect
import Waymark.Proofs.Store.Transaction
import Waymark.Proofs.Store.Atomicity
import Waymark.Proofs.Path.Join
import Waymark.Proofs.Tree.Formed
import Waymark.Proofs.Tree.Reach
import Waymark.Proofs.Tree.Seat
import Waymark.Proofs.Store.House
import Waymark.Proofs.Store.Handoff
import Waymark.Proofs.Handoff.Attempt
import Waymark.Proofs.Changelog
import Waymark.Proofs.Handoff.Closing
import Waymark.Proofs.Handoff.Retry
import Waymark.Proofs.Json.Read
import Waymark.Proofs.Json.Shape
import Waymark.Proofs.SessionId
import Waymark.Proofs.Time.Reader
import Waymark.Proofs.Document.Restore
import Waymark.Proofs.Handoff.Continuity
import Waymark.Proofs.Document.Archive
import Waymark.Proofs.Store.Entries
import Waymark.Proofs.Analysis
import Waymark.Proofs.Handoff.Run
import Waymark.Proofs.Handoff.Conservation
import Waymark.Proofs.Rounding
import Waymark.Proofs.Summary.Coverage
import Waymark.Proofs.Document.Kinds
import Waymark.Proofs.Checkpoint
import Waymark.Proofs.Text.Lines
import Waymark.Proofs.CheckpointLog
import Waymark.Proofs.Handoff.Coherence
import Waymark.Proofs.Disk.Replace
import Waymark.Proofs.Store.History
import Waymark.Proofs.Command.Scan
import Waymark.Proofs.Language.Builtin
import Waymark.Proofs.Language.Window
import Waymark.Proofs.Analysis.Marking
import Waymark.Proofs.Tree.Proper
import Waymark.Proofs.Scan.Walk
import Waymark.Proofs.Path.Relative
import Waymark.Proofs.Scan.Entry
import Waymark.Proofs.Scan.Selection
import Waymark.Proofs.Scan.Account
import Waymark.Proofs.Scan.Likeness
import Waymark.Proofs.Store.Outputs
import Waymark.Proofs.Disk.Keeps
import Waymark.Proofs.Disk.Calm
import Waymark.Proofs.Summary.Measure
import Waymark.Proofs.Changelog.Course
import Waymark.Proofs.Document.Numbering
import Waymark.Proofs.Summary.Reordered
import Waymark.Proofs.Command.Settled
import Waymark.Proofs.Command.Rescan
import Waymark.Proofs.Handoff.Register
import Waymark.Proofs.Command.Unreadable
import Waymark.Proofs.Summary.Listing
import Waymark.Proofs.Store.Apart
import Waymark.Proofs.Command.Stored
import Waymark.Proofs.Summary.Groups
import Waymark.Proofs.Summary.Figures
import Waymark.Proofs.Summary.Series
import Waymark.Proofs.Handoff.Agreement
import Waymark.Proofs.Command.Consistent
import Waymark.Proofs.Command.Independence
import Waymark.Proofs.Path.Spelling
import Waymark.Proofs.Tree.Spelled
import Waymark.Proofs.Deployment.Nested
import Waymark.Proofs.Version.Grammar
import Waymark.Proofs.Ignore.Normal
import Waymark.Proofs.Ignore.Plain
import Waymark.Proofs.Language.EcmaScript
import Waymark.Proofs.Disk.Dates
import Waymark.Proofs.Store.Retention
import Waymark.Proofs.Store.Earlier
import Waymark.Proofs.Store.Preservation
import Waymark.Proofs.Handoff.Priorities
import Waymark.Proofs.Document.Breakdown
import Waymark.Proofs.Deployment.Host
import Waymark.Proofs.Language.Registry
import Waymark.Proofs.Disk.Attempts
import Waymark.Proofs.Disk.Bounded
