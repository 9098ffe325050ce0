import SnippetLab.Artifact
import SnippetLab.Cleanup
import SnippetLab.CommandLine.Arguments
import SnippetLab.CommandLine.Run
import SnippetLab.Errno
import SnippetLab.Failure
import SnippetLab.FileTree.Basic
import SnippetLab.FileTree.Operations
import SnippetLab.FileTree.Resolve
import SnippetLab.Json.Basic
import SnippetLab.Json.Cursor
import SnippetLab.Json.Literal
import SnippetLab.Json.Number
import SnippetLab.Json.Reader
import SnippetLab.Json.Writer
import SnippetLab.Lab.Analyze
import SnippetLab.Lab.Basic
import SnippetLab.Lab.Compile
import SnippetLab.Lab.Run
import SnippetLab.Lab.Service
import SnippetLab.Lexer.Patterns
import SnippetLab.Lexer.Columns
import SnippetLab.Lexer.Tokens
import SnippetLab.Machine.Files
import SnippetLab.Machine.Kernel
import SnippetLab.Machine.Launch
import SnippetLab.Machine.Program
import SnippetLab.Machine.Routine
import SnippetLab.Machine.Signal
import SnippetLab.Machine.Standard
import SnippetLab.Main
import SnippetLab.Orphans
import SnippetLab.Outcome
import SnippetLab.Path
import SnippetLab.Process.Child
import SnippetLab.Process.Drain
import SnippetLab.Process.Registry
import SnippetLab.Program.Amount
import SnippetLab.Program.Awk
import SnippetLab.Program.Columns
import SnippetLab.Program.Compare
import SnippetLab.Program.Condition
import SnippetLab.Program.Console
import SnippetLab.Program.Copy
import SnippetLab.Program.Directory
import SnippetLab.Program.Expr
import SnippetLab.Program.Find
import SnippetLab.Program.Grep
import SnippetLab.Program.Listing
import SnippetLab.Program.Mode
import SnippetLab.Program.Options
import SnippetLab.Program.Print
import SnippetLab.Program.Sed
import SnippetLab.Program.Show
import SnippetLab.Program.Sort
import SnippetLab.Program.Start
import SnippetLab.Program.Tr
import SnippetLab.Shell.Pattern
import SnippetLab.Regex.Basic
import SnippetLab.Regex.Reader
import SnippetLab.Regex.Search
import SnippetLab.Settings.Basic
import SnippetLab.Settings.Document
import SnippetLab.Settings.Environment
import SnippetLab.Settings.Load
import SnippetLab.Shell.Action
import SnippetLab.Shell.Arithmetic
import SnippetLab.Shell.Builtin.Arguments
import SnippetLab.Shell.Builtin.Condition
import SnippetLab.Shell.Builtin.Directory
import SnippetLab.Shell.Builtin.Names
import SnippetLab.Shell.Builtin.Output
import SnippetLab.Shell.Builtin.Processes
import SnippetLab.Shell.Builtin.Variables
import SnippetLab.Shell.Command
import SnippetLab.Shell.Expand
import SnippetLab.Shell.Field
import SnippetLab.Shell.Grammar
import SnippetLab.Shell.Job
import SnippetLab.Shell.Reading
import SnippetLab.Shell.Redirection
import SnippetLab.Shell.Run
import SnippetLab.Shell.Script
import SnippetLab.Shell.Start
import SnippetLab.Shell.State
import SnippetLab.Shell.WordReader
import SnippetLab.Shell.Words
import SnippetLab.Source
import SnippetLab.Symbol.Map
import SnippetLab.Symbol.Merge
import SnippetLab.Symbol.Mine
import SnippetLab.Symbol.Rule
import SnippetLab.SystemError
import SnippetLab.Text.Ranges
import SnippetLab.Text.Decimal
import SnippetLab.Text.Escaped
import SnippetLab.Text.Offset
import SnippetLab.Text.Real
import SnippetLab.Text.Pattern
import SnippetLab.Text.Search
import SnippetLab.Text.Shortest
import SnippetLab.Text.Utf8
import SnippetLab.Text.Truncate
import SnippetLab.Text.Wide
import SnippetLab.Token.Basic
import SnippetLab.Token.Wire
import SnippetLab.Vocabulary
import SnippetLab.Workspace
import SnippetLab.Proofs.Artifact
import SnippetLab.Proofs.Symbol.Priority
import SnippetLab.Proofs.Lexer.Spans
import SnippetLab.Proofs.Lab.Run
import SnippetLab.Proofs.Lab.Analyze
import SnippetLab.Proofs.Lab.Compile
import SnippetLab.Proofs.Lab.Refusal
import SnippetLab.Proofs.FileTree.View
import SnippetLab.Proofs.FileTree.Walk
import SnippetLab.Proofs.FileTree.Directories
import SnippetLab.Proofs.Cleanup
import SnippetLab.Proofs.Workspace
import SnippetLab.Proofs.Lab.Frame
import SnippetLab.Proofs.Process.Steps
import SnippetLab.Proofs.Process.History
import SnippetLab.Proofs.Process.Alone
import SnippetLab.Proofs.Process.Reader
import SnippetLab.Proofs.Process.Course
import SnippetLab.Proofs.Lab.Await
import SnippetLab.Proofs.Lab.Answer
import SnippetLab.Proofs.Symbol.Merge
import SnippetLab.Proofs.Shared.Settled
import SnippetLab.Proofs.Shared.Isolation
import SnippetLab.Proofs.Shared.Reclaim
import SnippetLab.Proofs.Shared.Sole
import SnippetLab.Proofs.Process.Children
import SnippetLab.Proofs.Process.Signals
import SnippetLab.Proofs.Process.Shutdown
import SnippetLab.Proofs.Except
import SnippetLab.Proofs.Json.Grammar
import SnippetLab.Proofs.Json.Natural
import SnippetLab.Proofs.Json.Write
import SnippetLab.Proofs.Settings.Document
import SnippetLab.Proofs.Settings.Load
import SnippetLab.Proofs.Settings.Validation
import SnippetLab.Proofs.Lexer.Category
import SnippetLab.Proofs.Lexer.Columns
import SnippetLab.Proofs.Lexer.Overlap
import SnippetLab.Proofs.Lexer.Scope
import SnippetLab.Proofs.Lexer.Names
import SnippetLab.Proofs.Lexer.Lines
import SnippetLab.Proofs.Lexer.Comment
import SnippetLab.Proofs.Lexer.Literals
import SnippetLab.Proofs.Symbol.Locate
import SnippetLab.Proofs.Symbol.Definition
import SnippetLab.Proofs.Symbol.Flag
import SnippetLab.Proofs.Symbol.Passes
import SnippetLab.Proofs.Process.Sweep
import SnippetLab.Proofs.Process.Wait
import SnippetLab.Proofs.Text.Decimal
import SnippetLab.Proofs.Text.Offset
import SnippetLab.Proofs.Settings.Environment
import SnippetLab.Proofs.Purge
import SnippetLab.Proofs.Workspace.Reclaim
import SnippetLab.Proofs.Shared.Lifecycle
import SnippetLab.Proofs.Regex
import SnippetLab.Proofs.Orphans
import SnippetLab.Proofs.Token
