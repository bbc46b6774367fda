import CredoAssistant.Console.Arguments
import CredoAssistant.Console.Command
import CredoAssistant.Diagnostic.Basic
import CredoAssistant.Diagnostic.Mapping
import CredoAssistant.Display
import CredoAssistant.Document
import CredoAssistant.Entries
import CredoAssistant.FileTree
import CredoAssistant.Host
import CredoAssistant.Inspection
import CredoAssistant.Json.Reader
import CredoAssistant.Json.Writer
import CredoAssistant.Launch
import CredoAssistant.Log
import CredoAssistant.Main
import CredoAssistant.Moment
import CredoAssistant.Notification
import CredoAssistant.Number.Binary64
import CredoAssistant.Number.Decimal
import CredoAssistant.Number.Instances
import CredoAssistant.Number.Notation
import CredoAssistant.Path
import CredoAssistant.Process.Options
import CredoAssistant.Process.Run
import CredoAssistant.Proofs.Console.Arguments
import CredoAssistant.Proofs.Console.Config
import CredoAssistant.Proofs.Console.Inspect
import CredoAssistant.Proofs.Diagnostic.Listing
import CredoAssistant.Proofs.Diagnostic.Mapping
import CredoAssistant.Proofs.Diagnostic.Payload
import CredoAssistant.Proofs.Document
import CredoAssistant.Proofs.Entries
import CredoAssistant.Proofs.Entries.Replay
import CredoAssistant.Proofs.Inspection
import CredoAssistant.Proofs.Inspection.Classification
import CredoAssistant.Proofs.Inspection.Invocation
import CredoAssistant.Proofs.Json.Ascii
import CredoAssistant.Proofs.Json.Completeness
import CredoAssistant.Proofs.Json.Converted
import CredoAssistant.Proofs.Json.Grammar
import CredoAssistant.Proofs.Json.Literals
import CredoAssistant.Proofs.Json.Nesting
import CredoAssistant.Proofs.Json.Reader
import CredoAssistant.Proofs.Json.RoundTrip
import CredoAssistant.Proofs.Json.Text
import CredoAssistant.Proofs.Path
import CredoAssistant.Proofs.Process.Capture
import CredoAssistant.Proofs.Process.Options
import CredoAssistant.Proofs.Process.Overrides
import CredoAssistant.Proofs.Publisher
import CredoAssistant.Proofs.Publisher.Locality
import CredoAssistant.Proofs.Registry
import CredoAssistant.Proofs.Report.Acceptance
import CredoAssistant.Proofs.Report.Compatibility
import CredoAssistant.Proofs.Report.Items
import CredoAssistant.Proofs.Report.Priority
import CredoAssistant.Proofs.Report.Publishable
import CredoAssistant.Proofs.Report.RoundTrip
import CredoAssistant.Proofs.Session.Alike
import CredoAssistant.Proofs.Session.Bindings
import CredoAssistant.Proofs.Session.Escape
import CredoAssistant.Proofs.Session.Guard
import CredoAssistant.Proofs.Session.Isolation
import CredoAssistant.Proofs.Session.Moves
import CredoAssistant.Proofs.Session.Notices
import CredoAssistant.Proofs.Session.Orphans
import CredoAssistant.Proofs.Session.Publication
import CredoAssistant.Proofs.Session.Renumbering
import CredoAssistant.Proofs.Session.Storage
import CredoAssistant.Proofs.Settings.CommandLine
import CredoAssistant.Proofs.Settings.Fields
import CredoAssistant.Proofs.Settings.Files
import CredoAssistant.Proofs.Settings.Loading
import CredoAssistant.Proofs.Settings.Precedence
import CredoAssistant.Proofs.Settings.Reload
import CredoAssistant.Proofs.Settings.Scopes
import CredoAssistant.Proofs.Settings.Standard
import CredoAssistant.Proofs.Settings.TimeLimit
import CredoAssistant.Proofs.Settings.Validity
import CredoAssistant.Proofs.Shell.Words
import CredoAssistant.Proofs.Tally
import CredoAssistant.Proofs.Text.Replacement
import CredoAssistant.Proofs.Text.Utf8
import CredoAssistant.Proofs.Toml.Nesting
import CredoAssistant.Proofs.Toml.Reader
import CredoAssistant.Proofs.Toml.Scalar
import CredoAssistant.Proofs.Validation
import CredoAssistant.Publisher
import CredoAssistant.Registry
import CredoAssistant.Report.Issue
import CredoAssistant.Report.Reader
import CredoAssistant.Session
import CredoAssistant.Settings.Basic
import CredoAssistant.Settings.Layers
import CredoAssistant.Settings.Scopes
import CredoAssistant.Settings.Source
import CredoAssistant.Severity
import CredoAssistant.Shell.Arithmetic
import CredoAssistant.Shell.Awk.Cell
import CredoAssistant.Shell.Awk.Evaluation
import CredoAssistant.Shell.Awk.Grammar
import CredoAssistant.Shell.Awk.Numbers
import CredoAssistant.Shell.Awk.Records
import CredoAssistant.Shell.Awk.Regular
import CredoAssistant.Shell.Awk.Store
import CredoAssistant.Shell.Awk.Streams
import CredoAssistant.Shell.Awk.Syntax
import CredoAssistant.Shell.Awk.Token
import CredoAssistant.Shell.Builtin
import CredoAssistant.Shell.Calendar
import CredoAssistant.Shell.Condition
import CredoAssistant.Shell.DateText
import CredoAssistant.Shell.Difference
import CredoAssistant.Shell.Digest
import CredoAssistant.Shell.Disk
import CredoAssistant.Shell.Evaluation
import CredoAssistant.Shell.Expansion
import CredoAssistant.Shell.Files
import CredoAssistant.Shell.Format
import CredoAssistant.Shell.Grammar
import CredoAssistant.Shell.Installation
import CredoAssistant.Shell.Layout
import CredoAssistant.Shell.Lookup
import CredoAssistant.Shell.Machine
import CredoAssistant.Shell.Mode
import CredoAssistant.Shell.Octets
import CredoAssistant.Shell.Pattern
import CredoAssistant.Shell.Process
import CredoAssistant.Shell.Program.Amounts
import CredoAssistant.Shell.Program.Awk
import CredoAssistant.Shell.Program.Blocks
import CredoAssistant.Shell.Program.Characters
import CredoAssistant.Shell.Program.Checksums
import CredoAssistant.Shell.Program.Columns
import CredoAssistant.Shell.Program.Common
import CredoAssistant.Shell.Program.Comparing
import CredoAssistant.Shell.Program.Concatenation
import CredoAssistant.Shell.Program.Copying
import CredoAssistant.Shell.Program.Counting
import CredoAssistant.Shell.Program.Dump
import CredoAssistant.Shell.Program.Edit
import CredoAssistant.Shell.Program.EditScript
import CredoAssistant.Shell.Program.Encodings
import CredoAssistant.Shell.Program.Ends
import CredoAssistant.Shell.Program.Files
import CredoAssistant.Shell.Program.Filling
import CredoAssistant.Shell.Program.Find
import CredoAssistant.Shell.Program.Formatting
import CredoAssistant.Shell.Program.Launch
import CredoAssistant.Shell.Program.Listing
import CredoAssistant.Shell.Program.Merging
import CredoAssistant.Shell.Program.Numbering
import CredoAssistant.Shell.Program.Options
import CredoAssistant.Shell.Program.Order
import CredoAssistant.Shell.Program.Places
import CredoAssistant.Shell.Program.Precedence
import CredoAssistant.Shell.Program.Repetition
import CredoAssistant.Shell.Program.Sampling
import CredoAssistant.Shell.Program.Search
import CredoAssistant.Shell.Program.Sections
import CredoAssistant.Shell.Program.Sequence
import CredoAssistant.Shell.Program.Spacing
import CredoAssistant.Shell.Program.Splitting
import CredoAssistant.Shell.Program.Table
import CredoAssistant.Shell.Program.Testing
import CredoAssistant.Shell.Program.Values
import CredoAssistant.Shell.Program.Xargs
import CredoAssistant.Shell.Redirection
import CredoAssistant.Shell.Regex.Basic
import CredoAssistant.Shell.Regex.Notation
import CredoAssistant.Shell.Regex.Perl
import CredoAssistant.Shell.Schedule
import CredoAssistant.Shell.Script
import CredoAssistant.Shell.Spawn
import CredoAssistant.Shell.Start
import CredoAssistant.Shell.Token
import CredoAssistant.Shell.Transfer
import CredoAssistant.Shell.VersionOrder
import CredoAssistant.Shell.Waiting
import CredoAssistant.Shell.Words
import CredoAssistant.Stack
import CredoAssistant.SystemError
import CredoAssistant.Tally
import CredoAssistant.Terminal.Segment
import CredoAssistant.Terminal.Table
import CredoAssistant.Terminal.Width
import CredoAssistant.Terminal.Wrap
import CredoAssistant.Text.Blank
import CredoAssistant.Text.Letters
import CredoAssistant.Text.Printable
import CredoAssistant.Text.Quoted
import CredoAssistant.Text.Utf8
import CredoAssistant.Toml.Reader
import CredoAssistant.Toml.Scalar
import CredoAssistant.Validation.Echo
import CredoAssistant.Validation.Fault
import CredoAssistant.Validation.Rules
import CredoAssistant.Value
