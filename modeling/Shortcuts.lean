import Shortcuts.Configuration.Basic
import Shortcuts.Configuration.Loading
import Shortcuts.Entry.Basic
import Shortcuts.Entry.Parser
import Shortcuts.Entry.Printer
import Shortcuts.Entry.Schema
import Shortcuts.Event.Basic
import Shortcuts.Event.Recording
import Shortcuts.Event.Rendering
import Shortcuts.Failure
import Shortcuts.Host.Basic
import Shortcuts.Host.MountTable
import Shortcuts.Invocation.Basic
import Shortcuts.Invocation.Reading
import Shortcuts.Kind.Basic
import Shortcuts.Kind.Program
import Shortcuts.Kind.Registry
import Shortcuts.Kind.Transfer
import Shortcuts.Launch.Basic
import Shortcuts.Launch.Environment
import Shortcuts.Machine.Basic
import Shortcuts.Machine.Errno
import Shortcuts.Machine.Execution
import Shortcuts.Machine.Files
import Shortcuts.Machine.Launching
import Shortcuts.Machine.Mode
import Shortcuts.Machine.Opening
import Shortcuts.Machine.Process
import Shortcuts.Machine.Programs
import Shortcuts.Machine.Script.Basic
import Shortcuts.Machine.Script.Parser
import Shortcuts.Machine.Script.Reader
import Shortcuts.Machine.Shell.Arithmetic
import Shortcuts.Machine.Shell.Builtin
import Shortcuts.Machine.Shell.Evaluator
import Shortcuts.Machine.Shell.Fields
import Shortcuts.Machine.Shell.Pattern
import Shortcuts.Machine.Shell.Program
import Shortcuts.Machine.Shell.State
import Shortcuts.Machine.Signal
import Shortcuts.Machine.Standard
import Shortcuts.Machine.Utility.Basic
import Shortcuts.Machine.Utility.Condition
import Shortcuts.Machine.Utility.Filters.Characters
import Shortcuts.Machine.Utility.Filters.Columns
import Shortcuts.Machine.Utility.Filters.Lines
import Shortcuts.Machine.Utility.Filters.Sorting
import Shortcuts.Machine.Utility.Filters.Streams
import Shortcuts.Machine.Utility.Fraction
import Shortcuts.Machine.Utility.Inspection
import Shortcuts.Machine.Utility.Numbers
import Shortcuts.Machine.Utility.Options
import Shortcuts.Machine.Utility.PathNames
import Shortcuts.Machine.Utility.Printing
import Shortcuts.Machine.Utility.Regex
import Shortcuts.Machine.Utility.Search
import Shortcuts.Machine.Utility.Surroundings
import Shortcuts.Machine.Utility.Tree
import Shortcuts.Main
import Shortcuts.Proofs.Configuration.Acts
import Shortcuts.Proofs.Configuration.Duplicates
import Shortcuts.Proofs.Configuration.FirstFailure
import Shortcuts.Proofs.Configuration.Hosts
import Shortcuts.Proofs.Configuration.OneLine
import Shortcuts.Proofs.Entry.FirstFault
import Shortcuts.Proofs.Entry.Forms
import Shortcuts.Proofs.Entry.Grammar
import Shortcuts.Proofs.Entry.Headings
import Shortcuts.Proofs.Entry.Joining
import Shortcuts.Proofs.Entry.Layout
import Shortcuts.Proofs.Entry.RoundTrip
import Shortcuts.Proofs.Entry.Segments
import Shortcuts.Proofs.Entry.WellFormed
import Shortcuts.Proofs.Event.ReadBack
import Shortcuts.Proofs.Event.Recording
import Shortcuts.Proofs.Host.Lookups
import Shortcuts.Proofs.Host.MountPoints
import Shortcuts.Proofs.Invocation.Quoting
import Shortcuts.Proofs.Kind.Bases
import Shortcuts.Proofs.Kind.ParameterOrder
import Shortcuts.Proofs.Kind.Refusals
import Shortcuts.Proofs.Kind.Schemas
import Shortcuts.Proofs.Kind.Transfer
import Shortcuts.Proofs.Launch.NamedLog
import Shortcuts.Proofs.Launch.Verbosity
import Shortcuts.Proofs.Machine.CommandLine
import Shortcuts.Proofs.Machine.Expansion
import Shortcuts.Proofs.Machine.Files
import Shortcuts.Proofs.Machine.Logging
import Shortcuts.Proofs.Machine.Matching
import Shortcuts.Proofs.Machine.Opening
import Shortcuts.Proofs.Machine.Replay
import Shortcuts.Proofs.Machine.Sorted
import Shortcuts.Proofs.Machine.Starting
import Shortcuts.Proofs.Release.Stamp
import Shortcuts.Proofs.Running.Accounting
import Shortcuts.Proofs.Running.Announcements
import Shortcuts.Proofs.Running.Blind
import Shortcuts.Proofs.Running.Calls
import Shortcuts.Proofs.Running.Fates
import Shortcuts.Proofs.Selection.FirstFit
import Shortcuts.Proofs.Selection.Hidden
import Shortcuts.Proofs.Selection.LeastFit
import Shortcuts.Proofs.Selection.Prompt
import Shortcuts.Proofs.Selection.Refusal
import Shortcuts.Proofs.Selection.TypedKeys
import Shortcuts.Proofs.Session.Arguments
import Shortcuts.Proofs.Session.Calls
import Shortcuts.Proofs.Session.Chronicle
import Shortcuts.Proofs.Session.Emitted
import Shortcuts.Proofs.Session.Interleaving
import Shortcuts.Proofs.Session.LogLines
import Shortcuts.Proofs.Session.Preview
import Shortcuts.Proofs.Session.Prompted
import Shortcuts.Proofs.Session.Stages
import Shortcuts.Proofs.Session.Summary
import Shortcuts.Proofs.Text.Encoding
import Shortcuts.Proofs.Text.Escapes
import Shortcuts.Proofs.Text.Fields
import Shortcuts.Proofs.Text.Octets
import Shortcuts.Proofs.Text.Quoted
import Shortcuts.Proofs.Text.Splitting
import Shortcuts.Proofs.Text.Trimming
import Shortcuts.Proofs.Traced
import Shortcuts.Release.Stamp
import Shortcuts.Release.WorkingCopy
import Shortcuts.Running.Executor
import Shortcuts.Running.Journal
import Shortcuts.Selection.Basic
import Shortcuts.Selection.Input
import Shortcuts.Session.Basic
import Shortcuts.Session.Options
import Shortcuts.Text.Blank
import Shortcuts.Text.Bytes
import Shortcuts.Text.Octal
import Shortcuts.Text.Octets
import Shortcuts.Text.Path
import Shortcuts.Text.Printable
import Shortcuts.Text.Quoted
import Shortcuts.Text.Split
import Shortcuts.Trace
