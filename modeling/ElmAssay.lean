import ElmAssay.Batch
import ElmAssay.Candidate
import ElmAssay.CompileUnit
import ElmAssay.Config
import ElmAssay.DecoderTest
import ElmAssay.Disk
import ElmAssay.Disk.SystemError
import ElmAssay.Disk.Tree
import ElmAssay.Elm.Header
import ElmAssay.Elm.Name
import ElmAssay.Engine
import ElmAssay.Failure
import ElmAssay.Isolation
import ElmAssay.Json.Reader
import ElmAssay.Json.Schema
import ElmAssay.Json.Value
import ElmAssay.Json.Writer
import ElmAssay.Machine
import ElmAssay.Machine.Calendar
import ElmAssay.Machine.Calendar.Reader
import ElmAssay.Machine.Call
import ElmAssay.Machine.Columns
import ElmAssay.Machine.Difference
import ElmAssay.Machine.Difference.Hunk
import ElmAssay.Machine.Difference.Layout
import ElmAssay.Machine.Difference.Merging
import ElmAssay.Machine.Digest
import ElmAssay.Machine.Directive
import ElmAssay.Machine.Edit
import ElmAssay.Machine.Edit.Reader
import ElmAssay.Machine.Escape
import ElmAssay.Machine.Ground
import ElmAssay.Machine.Kernel
import ElmAssay.Machine.Numeral
import ElmAssay.Machine.Octets
import ElmAssay.Machine.Pieces
import ElmAssay.Machine.Quantity
import ElmAssay.Machine.Quest
import ElmAssay.Machine.Quest.Reader
import ElmAssay.Machine.Question
import ElmAssay.Machine.Regex
import ElmAssay.Machine.Regex.Reader
import ElmAssay.Machine.Regex.Rich
import ElmAssay.Machine.Rights
import ElmAssay.Machine.Rules
import ElmAssay.Machine.Rules.Associations
import ElmAssay.Machine.Rules.Chance
import ElmAssay.Machine.Rules.Course
import ElmAssay.Machine.Rules.Evaluation
import ElmAssay.Machine.Rules.Pattern
import ElmAssay.Machine.Rules.Reader
import ElmAssay.Machine.Rules.Reader.Basic
import ElmAssay.Machine.Rules.Reader.Expr
import ElmAssay.Machine.Rules.State
import ElmAssay.Machine.Rules.Streams
import ElmAssay.Machine.Rules.Token
import ElmAssay.Machine.Rules.Value
import ElmAssay.Machine.Scale
import ElmAssay.Machine.Script
import ElmAssay.Machine.Script.Grammar
import ElmAssay.Machine.Script.Quoting
import ElmAssay.Machine.Script.Reader
import ElmAssay.Machine.Shell.Arithmetic
import ElmAssay.Machine.Shell.Builtin
import ElmAssay.Machine.Shell.Condition
import ElmAssay.Machine.Shell.Evaluation
import ElmAssay.Machine.Shell.Expansion
import ElmAssay.Machine.Shell.Fields
import ElmAssay.Machine.Shell.Input
import ElmAssay.Machine.Shell.Jobs
import ElmAssay.Machine.Shell.Lookup
import ElmAssay.Machine.Shell.Printing
import ElmAssay.Machine.Shell.Redirection
import ElmAssay.Machine.Shell.Settings
import ElmAssay.Machine.Shell.State
import ElmAssay.Machine.Shell.Surroundings
import ElmAssay.Machine.Shell.Variables
import ElmAssay.Machine.Signal
import ElmAssay.Machine.Start
import ElmAssay.Machine.Utility.Arrangement
import ElmAssay.Machine.Utility.Basic
import ElmAssay.Machine.Utility.Blocks
import ElmAssay.Machine.Utility.Comparing
import ElmAssay.Machine.Utility.Copying
import ElmAssay.Machine.Utility.Counting
import ElmAssay.Machine.Utility.Cutting
import ElmAssay.Machine.Utility.Difference
import ElmAssay.Machine.Utility.Drawing
import ElmAssay.Machine.Utility.Dump
import ElmAssay.Machine.Utility.Editing
import ElmAssay.Machine.Utility.Encoding
import ElmAssay.Machine.Utility.Filling
import ElmAssay.Machine.Utility.Finding
import ElmAssay.Machine.Utility.Judging
import ElmAssay.Machine.Utility.Lines
import ElmAssay.Machine.Utility.Linking
import ElmAssay.Machine.Utility.Listing
import ElmAssay.Machine.Utility.Making
import ElmAssay.Machine.Utility.Merging
import ElmAssay.Machine.Utility.Output
import ElmAssay.Machine.Utility.Parts
import ElmAssay.Machine.Utility.Paths
import ElmAssay.Machine.Utility.Reading
import ElmAssay.Machine.Utility.Removal
import ElmAssay.Machine.Utility.Ruling
import ElmAssay.Machine.Utility.Running
import ElmAssay.Machine.Utility.Scaling
import ElmAssay.Machine.Utility.Searching
import ElmAssay.Machine.Utility.Sectioning
import ElmAssay.Machine.Utility.Sorting
import ElmAssay.Machine.Utility.Status
import ElmAssay.Machine.Utility.Summing
import ElmAssay.Machine.Utility.Tabs
import ElmAssay.Machine.Utility.Translation
import ElmAssay.Machine.Version
import ElmAssay.Machine.Wildcard
import ElmAssay.Machine.World
import ElmAssay.Manifest
import ElmAssay.Number.Binary64
import ElmAssay.Number.Decimal
import ElmAssay.Number.Reading
import ElmAssay.Oracle
import ElmAssay.Oracle.Mock
import ElmAssay.Oracle.Toolchain
import ElmAssay.Outcome
import ElmAssay.Path
import ElmAssay.Payload
import ElmAssay.Program
import ElmAssay.Proofs.Batch
import ElmAssay.Proofs.Candidate
import ElmAssay.Proofs.Candidate.Masked
import ElmAssay.Proofs.CompileUnit
import ElmAssay.Proofs.CompileUnit.Splice
import ElmAssay.Proofs.Config
import ElmAssay.Proofs.DecoderTest
import ElmAssay.Proofs.Disk.Clear
import ElmAssay.Proofs.Disk.Exact
import ElmAssay.Proofs.Disk.Fresh
import ElmAssay.Proofs.Disk.Grow
import ElmAssay.Proofs.Disk.Outside
import ElmAssay.Proofs.Disk.Puts
import ElmAssay.Proofs.Disk.Resolve
import ElmAssay.Proofs.Disk.Store
import ElmAssay.Proofs.Disk.Update
import ElmAssay.Proofs.Disk.Walk
import ElmAssay.Proofs.Disk.Write
import ElmAssay.Proofs.Effect
import ElmAssay.Proofs.Elm.Grammar
import ElmAssay.Proofs.Elm.Header
import ElmAssay.Proofs.Elm.Literal
import ElmAssay.Proofs.Elm.Name
import ElmAssay.Proofs.Engine
import ElmAssay.Proofs.Engine.Completion
import ElmAssay.Proofs.Engine.Confined
import ElmAssay.Proofs.Engine.Flows
import ElmAssay.Proofs.Engine.Manifest
import ElmAssay.Proofs.Engine.Once
import ElmAssay.Proofs.Engine.Phases
import ElmAssay.Proofs.Engine.Refinement
import ElmAssay.Proofs.Engine.Refusal
import ElmAssay.Proofs.Engine.Sound
import ElmAssay.Proofs.Engine.Stale
import ElmAssay.Proofs.Engine.Untouched
import ElmAssay.Proofs.Engine.Watched
import ElmAssay.Proofs.Engine.Work
import ElmAssay.Proofs.Isolation.Completeness
import ElmAssay.Proofs.Isolation.Noninterference
import ElmAssay.Proofs.Isolation.Run
import ElmAssay.Proofs.Json.Reader
import ElmAssay.Proofs.Json.Refusal
import ElmAssay.Proofs.Json.RoundTrip
import ElmAssay.Proofs.Json.Value
import ElmAssay.Proofs.Json.Writer
import ElmAssay.Proofs.Manifest.Derive
import ElmAssay.Proofs.Manifest.Frame
import ElmAssay.Proofs.Manifest.InForce
import ElmAssay.Proofs.Manifest.RoundTrip
import ElmAssay.Proofs.ModuleFile
import ElmAssay.Proofs.Number.Numeral
import ElmAssay.Proofs.Oracle.Mock
import ElmAssay.Proofs.Oracle.Toolchain
import ElmAssay.Proofs.Outcome
import ElmAssay.Proofs.Path
import ElmAssay.Proofs.Payload
import ElmAssay.Proofs.Text.Indentation
import ElmAssay.Proofs.Text.Lines
import ElmAssay.Proofs.Text.Trim
import ElmAssay.Proofs.Text.Utf8
import ElmAssay.Proofs.Workspace.Twins
import ElmAssay.Text.Classes
import ElmAssay.Text.Lines
import ElmAssay.Text.Quoted
import ElmAssay.Text.Upper
import ElmAssay.Text.Utf8
import ElmAssay.Tool
import ElmAssay.Workspace
