import SymbolCache.Command
import SymbolCache.CommandLine.Arguments
import SymbolCache.CommandLine.Exchange
import SymbolCache.CommandLine.Plan
import SymbolCache.CommandLine.Report
import SymbolCache.Config
import SymbolCache.Discovery
import SymbolCache.Disk.Basic
import SymbolCache.Documentation
import SymbolCache.Duration
import SymbolCache.Editor.Cursor
import SymbolCache.Editor.Imports
import SymbolCache.Extraction
import SymbolCache.Failure
import SymbolCache.Glob.Expression
import SymbolCache.Glob.Match
import SymbolCache.Glob.Pattern
import SymbolCache.Index.Basic
import SymbolCache.Index.Find
import SymbolCache.Job
import SymbolCache.Json.Syntax
import SymbolCache.Json.Value
import SymbolCache.Main
import SymbolCache.Module
import SymbolCache.Outcome
import SymbolCache.Package
import SymbolCache.Program.Digest
import SymbolCache.Program.Permission
import SymbolCache.Program.Quoting
import SymbolCache.Program.Record.Invocation
import SymbolCache.Program.Record.Memory
import SymbolCache.Program.Record.Run
import SymbolCache.Program.Record.Script
import SymbolCache.Program.Record.Search
import SymbolCache.Program.Record.Table
import SymbolCache.Program.Record.Token
import SymbolCache.Program.Record.Value
import SymbolCache.Program.Regular.Match
import SymbolCache.Program.Regular.Syntax
import SymbolCache.Program.Shell
import SymbolCache.Program.Shell.Arithmetic
import SymbolCache.Program.Shell.Arithmetic.Extended
import SymbolCache.Program.Shell.Builtin
import SymbolCache.Program.Shell.Builtin.Basic
import SymbolCache.Program.Shell.Builtin.Declaring
import SymbolCache.Program.Shell.Builtin.Extended
import SymbolCache.Program.Shell.Builtin.Meaning
import SymbolCache.Program.Shell.Builtin.Signals
import SymbolCache.Program.Shell.Builtin.Testing
import SymbolCache.Program.Shell.Builtin.Values
import SymbolCache.Program.Shell.Control
import SymbolCache.Program.Shell.Expansion
import SymbolCache.Program.Shell.Launcher
import SymbolCache.Program.Shell.Pattern
import SymbolCache.Program.Shell.Script
import SymbolCache.Program.Shell.State
import SymbolCache.Program.Shell.Token
import SymbolCache.Program.Shell.Word
import SymbolCache.Program.Start
import SymbolCache.Program.System
import SymbolCache.Program.Utility
import SymbolCache.Program.Utility.Arguments
import SymbolCache.Program.Utility.Basic
import SymbolCache.Program.Utility.Calculation
import SymbolCache.Program.Utility.Checksum
import SymbolCache.Program.Utility.Column
import SymbolCache.Program.Utility.Condition
import SymbolCache.Program.Utility.Copying
import SymbolCache.Program.Utility.Dump
import SymbolCache.Program.Utility.Edit
import SymbolCache.Program.Utility.Edit.Script
import SymbolCache.Program.Utility.Encoding
import SymbolCache.Program.Utility.Files
import SymbolCache.Program.Utility.Find
import SymbolCache.Program.Utility.Format
import SymbolCache.Program.Utility.Fraction
import SymbolCache.Program.Utility.Line
import SymbolCache.Program.Utility.Listing
import SymbolCache.Program.Utility.Order
import SymbolCache.Program.Utility.Print
import SymbolCache.Program.Utility.Replace
import SymbolCache.Program.Utility.Search
import SymbolCache.Program.Utility.Sequence
import SymbolCache.Program.Utility.Tree
import SymbolCache.Proofs.CommandLine.Reruns
import SymbolCache.Proofs.CommandLine.Roots
import SymbolCache.Proofs.Disk.Confinement
import SymbolCache.Proofs.Disk.Directories
import SymbolCache.Proofs.Disk.Interruption
import SymbolCache.Proofs.Disk.Links
import SymbolCache.Proofs.Disk.Preservation
import SymbolCache.Proofs.Disk.Replacement
import SymbolCache.Proofs.Disk.Ways
import SymbolCache.Proofs.Documentation.Declarations
import SymbolCache.Proofs.Documentation.Groups
import SymbolCache.Proofs.Documentation.Prose
import SymbolCache.Proofs.Documentation.Rendering
import SymbolCache.Proofs.Documentation.RoundTrip
import SymbolCache.Proofs.Documentation.Types
import SymbolCache.Proofs.Documentation.Values
import SymbolCache.Proofs.Duration
import SymbolCache.Proofs.Editor.Comments
import SymbolCache.Proofs.Editor.Cursor
import SymbolCache.Proofs.Editor.Identifiers
import SymbolCache.Proofs.Editor.Imports
import SymbolCache.Proofs.Editor.Lines
import SymbolCache.Proofs.Editor.Sections
import SymbolCache.Proofs.Entries
import SymbolCache.Proofs.Glob.Elements
import SymbolCache.Proofs.Glob.Matching
import SymbolCache.Proofs.Index.Agreement
import SymbolCache.Proofs.Index.Changes
import SymbolCache.Proofs.Index.Consistency
import SymbolCache.Proofs.Index.Names
import SymbolCache.Proofs.Index.Prefixes
import SymbolCache.Proofs.Index.Replacement
import SymbolCache.Proofs.Index.Search
import SymbolCache.Proofs.Job.Answers
import SymbolCache.Proofs.Job.Disturbance
import SymbolCache.Proofs.Job.Inquiry
import SymbolCache.Proofs.Job.Interleaving
import SymbolCache.Proofs.Job.Orders
import SymbolCache.Proofs.Job.Stretches
import SymbolCache.Proofs.Job.Suspensions
import SymbolCache.Proofs.Json.Literals
import SymbolCache.Proofs.Json.RoundTrip
import SymbolCache.Proofs.Module.Ownership
import SymbolCache.Proofs.Refresh.Additions
import SymbolCache.Proofs.Refresh.Application
import SymbolCache.Proofs.Refresh.CompletionOrder
import SymbolCache.Proofs.Refresh.Contents
import SymbolCache.Proofs.Refresh.Counters
import SymbolCache.Proofs.Refresh.Effects
import SymbolCache.Proofs.Refresh.Findings
import SymbolCache.Proofs.Refresh.Listings
import SymbolCache.Proofs.Refresh.Outcome
import SymbolCache.Proofs.Refresh.PathVersions
import SymbolCache.Proofs.Refresh.Removals
import SymbolCache.Proofs.Refresh.Sources
import SymbolCache.Proofs.Refresh.SyncAgreement
import SymbolCache.Proofs.Refresh.Targets
import SymbolCache.Proofs.Refresh.Totals
import SymbolCache.Proofs.Refresh.VersionMerge
import SymbolCache.Proofs.Snapshot.Acceptance
import SymbolCache.Proofs.Snapshot.Restoration
import SymbolCache.Proofs.Snapshot.RoundTrip
import SymbolCache.Proofs.StableOrder
import SymbolCache.Proofs.Store.Actions
import SymbolCache.Proofs.Store.Carrying
import SymbolCache.Proofs.Store.Completion
import SymbolCache.Proofs.Store.Disturbance
import SymbolCache.Proofs.Store.Exclusion
import SymbolCache.Proofs.Store.Failures
import SymbolCache.Proofs.Store.Generations
import SymbolCache.Proofs.Store.IdleSyncs
import SymbolCache.Proofs.Store.Interruptions
import SymbolCache.Proofs.Store.LoadAmid
import SymbolCache.Proofs.Store.Loading
import SymbolCache.Proofs.Store.Offering
import SymbolCache.Proofs.Store.Operations
import SymbolCache.Proofs.Store.Persistence
import SymbolCache.Proofs.Store.Readiness
import SymbolCache.Proofs.Store.ReadyRuns
import SymbolCache.Proofs.Store.Recording
import SymbolCache.Proofs.Store.Reports
import SymbolCache.Proofs.Store.Serving
import SymbolCache.Proofs.Store.Stamps
import SymbolCache.Proofs.Store.Starting
import SymbolCache.Proofs.Store.Stretches
import SymbolCache.Proofs.Text.Bytes
import SymbolCache.Proofs.Text.Fields
import SymbolCache.Proofs.Text.LowerCase
import SymbolCache.Proofs.Text.Parts
import SymbolCache.Proofs.Text.Trimming
import SymbolCache.Proofs.Workspace.Setup
import SymbolCache.Query
import SymbolCache.Resolution
import SymbolCache.Snapshot
import SymbolCache.Store.Basic
import SymbolCache.Store.Refresh
import SymbolCache.Symbol
import SymbolCache.Symbol.Record
import SymbolCache.Text.Character
import SymbolCache.Text.Cut
import SymbolCache.Text.Decimal
import SymbolCache.Text.Lossy
import SymbolCache.Text.LowerCase
import SymbolCache.Text.Natural
import SymbolCache.Text.Property
import SymbolCache.Toml.Document
import SymbolCache.Toml.Scalar
import SymbolCache.Toolchain
import SymbolCache.Workspace
