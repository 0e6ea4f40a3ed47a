import GradleMigration.Backup.Basic
import GradleMigration.Backup.Name
import GradleMigration.Command.Arguments
import GradleMigration.Command.Result
import GradleMigration.Command.Run
import GradleMigration.Config
import GradleMigration.Data.Datum
import GradleMigration.Data.Decimal
import GradleMigration.Data.Schema
import GradleMigration.File.Fault
import GradleMigration.File.Glob
import GradleMigration.File.Path
import GradleMigration.File.Reading
import GradleMigration.File.Tree
import GradleMigration.Fix.Basic
import GradleMigration.Fix.Pool
import GradleMigration.JsonText.Printer
import GradleMigration.JsonText.Reader
import GradleMigration.Main
import GradleMigration.Pattern.Basic
import GradleMigration.Pattern.Fault
import GradleMigration.Pattern.Mode
import GradleMigration.Pattern.Reader
import GradleMigration.Pattern.Run
import GradleMigration.Pattern.Search
import GradleMigration.Pattern.Template
import GradleMigration.Pattern.Token
import GradleMigration.Project.Layout
import GradleMigration.Project.Metadata
import GradleMigration.Project.Root
import GradleMigration.Proofs.Backup.Found
import GradleMigration.Proofs.Backup.Names
import GradleMigration.Proofs.Backup.Owners
import GradleMigration.Proofs.Backup.Restore
import GradleMigration.Proofs.Backup.Search
import GradleMigration.Proofs.Backup.Snapshot
import GradleMigration.Proofs.Backup.Stamps
import GradleMigration.Proofs.Backup.Undo
import GradleMigration.Proofs.Command.Failure
import GradleMigration.Proofs.Command.Fix
import GradleMigration.Proofs.Command.Saved
import GradleMigration.Proofs.Config.Settings
import GradleMigration.Proofs.Data.Outcome
import GradleMigration.Proofs.Data.Schema
import GradleMigration.Proofs.File.Change
import GradleMigration.Proofs.File.Locate
import GradleMigration.Proofs.File.Order
import GradleMigration.Proofs.File.Print
import GradleMigration.Proofs.File.WellFormed
import GradleMigration.Proofs.Fix.Batch
import GradleMigration.Proofs.Fix.Block
import GradleMigration.Proofs.Fix.Exits
import GradleMigration.Proofs.Fix.Local
import GradleMigration.Proofs.Fix.Pool
import GradleMigration.Proofs.Fix.Project
import GradleMigration.Proofs.Fix.Promise
import GradleMigration.Proofs.Fix.Steady
import GradleMigration.Proofs.Fix.Step
import GradleMigration.Proofs.JsonText.Limits
import GradleMigration.Proofs.JsonText.RoundTrip
import GradleMigration.Proofs.Pattern.Contents
import GradleMigration.Proofs.Pattern.Covering
import GradleMigration.Proofs.Pattern.Enclosed
import GradleMigration.Proofs.Pattern.Hits
import GradleMigration.Proofs.Pattern.LineByLine
import GradleMigration.Proofs.Pattern.Pieces
import GradleMigration.Proofs.Pattern.Replacing
import GradleMigration.Proofs.Pattern.Rewriting
import GradleMigration.Proofs.Pattern.Spelling
import GradleMigration.Proofs.Pattern.Succession
import GradleMigration.Proofs.Pattern.Taking
import GradleMigration.Proofs.Pattern.Transport
import GradleMigration.Proofs.Pattern.Ways
import GradleMigration.Proofs.Pattern.WholeLines
import GradleMigration.Proofs.Project.Includes
import GradleMigration.Proofs.Project.Wrapper
import GradleMigration.Proofs.Report.Named
import GradleMigration.Proofs.Report.Saved
import GradleMigration.Proofs.Rule.Acceptance
import GradleMigration.Proofs.Rule.Assignments
import GradleMigration.Proofs.Rule.Catalog
import GradleMigration.Proofs.Rule.Clearing
import GradleMigration.Proofs.Rule.Constructs
import GradleMigration.Proofs.Rule.Evaluation
import GradleMigration.Proofs.Rule.Fixable
import GradleMigration.Proofs.Rule.FreeTexts
import GradleMigration.Proofs.Rule.LineEnds
import GradleMigration.Proofs.Rule.LineLocal
import GradleMigration.Proofs.Rule.Loading
import GradleMigration.Proofs.Rule.Names
import GradleMigration.Proofs.Rule.OnePerLine
import GradleMigration.Proofs.Rule.Releases
import GradleMigration.Proofs.Rule.Renaming
import GradleMigration.Proofs.Rule.Selection
import GradleMigration.Proofs.Rule.Templates
import GradleMigration.Proofs.Rule.Transform
import GradleMigration.Proofs.Rule.Values
import GradleMigration.Proofs.Rule.Verdicts
import GradleMigration.Proofs.Scan.Calls
import GradleMigration.Proofs.Scan.Context
import GradleMigration.Proofs.Scan.Exact
import GradleMigration.Proofs.Scan.Faults
import GradleMigration.Proofs.Scan.Filter
import GradleMigration.Proofs.Scan.Listing
import GradleMigration.Proofs.Scan.Origin
import GradleMigration.Proofs.Scan.Pool
import GradleMigration.Proofs.Scan.Same
import GradleMigration.Proofs.Script.Blocks
import GradleMigration.Proofs.Script.Depth
import GradleMigration.Proofs.Script.Edits
import GradleMigration.Proofs.Script.Headers
import GradleMigration.Proofs.Script.Lexemes
import GradleMigration.Proofs.Script.LineEnds
import GradleMigration.Proofs.Script.Settling
import GradleMigration.Proofs.Script.Starts
import GradleMigration.Proofs.Script.Sweep
import GradleMigration.Proofs.Script.TaskTree
import GradleMigration.Proofs.Script.Turns
import GradleMigration.Proofs.Session.Run
import GradleMigration.Proofs.Text.Blank
import GradleMigration.Proofs.Text.Decoded
import GradleMigration.Proofs.Text.Digits
import GradleMigration.Proofs.Text.LineEnds
import GradleMigration.Proofs.Text.Lines
import GradleMigration.Proofs.Text.Marks
import GradleMigration.Proofs.Text.Upper
import GradleMigration.Proofs.Text.Utf8
import GradleMigration.Proofs.Text.Words
import GradleMigration.Report.Basic
import GradleMigration.Report.ModuleSet
import GradleMigration.Report.Outcome
import GradleMigration.Report.Saved
import GradleMigration.Rule.Basic
import GradleMigration.Rule.Builtin
import GradleMigration.Rule.Entry
import GradleMigration.Rule.Registry
import GradleMigration.Rule.Severity
import GradleMigration.Scan.Pool
import GradleMigration.Scan.Scanner
import GradleMigration.Scan.Script
import GradleMigration.Script.Lexeme
import GradleMigration.Script.TaskClosure
import GradleMigration.Session
import GradleMigration.Text.Blank
import GradleMigration.Text.Case
import GradleMigration.Text.Digit
import GradleMigration.Text.Identifier
import GradleMigration.Text.Integer
import GradleMigration.Text.Lines
import GradleMigration.Text.Printable
import GradleMigration.Text.Quoted
import GradleMigration.Text.Ranges
import GradleMigration.Text.Replace
import GradleMigration.Text.Utf8
import GradleMigration.Text.Word
import GradleMigration.Toml.Reader
import GradleMigration.Toml.Scalar
import GradleMigration.Workspace
