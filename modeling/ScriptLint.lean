import ScriptLint.Json.Reader
import ScriptLint.Syntax.Outline
import ScriptLint.Diff.Unified
import ScriptLint.Diagnostic.Listing
import ScriptLint.Diagnostic.Record
import ScriptLint.Config.Discovery
import ScriptLint.Config.Schema
import ScriptLint.Execution
import ScriptLint.Rules.Builtin
import ScriptLint.Rules.Scripted
import ScriptLint.Proofs.Syntax.Descent
import ScriptLint.Proofs.Text.Stretch
import ScriptLint.Proofs.Text.Lines
import ScriptLint.Proofs.Text.Returns
import ScriptLint.Proofs.Syntax.Lexing
import ScriptLint.Proofs.Syntax.Leaves
import ScriptLint.Proofs.Syntax.Reading
import ScriptLint.Proofs.Syntax.Following
import ScriptLint.Proofs.Syntax.Agreement.Expression
import ScriptLint.Proofs.Syntax.Agreement.Statement
import ScriptLint.Proofs.Syntax.Lossless
import ScriptLint.Proofs.Syntax.Neatness
import ScriptLint.Proofs.Syntax.Neat.Expression
import ScriptLint.Proofs.Syntax.Neat.Statement
import ScriptLint.Proofs.Syntax.Mirrors
import ScriptLint.Proofs.Syntax.Mirrored.Expression
import ScriptLint.Proofs.Syntax.Mirrored.Statement
import ScriptLint.Proofs.Syntax.Relexing
import ScriptLint.Proofs.Syntax.Plain
import ScriptLint.Proofs.Syntax.Breaks
import ScriptLint.Proofs.Syntax.Content
import ScriptLint.Proofs.Syntax.Derivation
import ScriptLint.Proofs.Syntax.Derivation.Expression
import ScriptLint.Proofs.Syntax.Derivation.Statement
import ScriptLint.Proofs.Syntax.Opening
import ScriptLint.Proofs.Syntax.Opening.Expression
import ScriptLint.Proofs.Syntax.Opening.Statement
import ScriptLint.Proofs.Source.Tokens
import ScriptLint.Proofs.Source.Stream
import ScriptLint.Proofs.Source.Nodes
import ScriptLint.Proofs.Source.Boundaries
import ScriptLint.Proofs.Source.Neighbours
import ScriptLint.Proofs.Dispatch
import ScriptLint.Proofs.Dispatch.InOrder
import ScriptLint.Proofs.Dispatch.Isolation
import ScriptLint.Proofs.Dispatch.Reporting
import ScriptLint.Proofs.Linter.Accounting
import ScriptLint.Proofs.Linter.Refixing
import ScriptLint.Proofs.Linter.BrokenOutput
import ScriptLint.Proofs.Linter.Remaining
import ScriptLint.Proofs.Linter.Texts
import ScriptLint.Proofs.Linter.Settling
import ScriptLint.Proofs.Linter.Crashing
import ScriptLint.Proofs.Linter.MorePasses
import ScriptLint.Proofs.Linter.TwoPasses
import ScriptLint.Proofs.Source.Unspaced
import ScriptLint.Proofs.Patch
import ScriptLint.Proofs.Rules.Zeroed
import ScriptLint.Proofs.Syntax.Relexing.Continued
import ScriptLint.Proofs.Syntax.Relexing.Returns
import ScriptLint.Proofs.Source.LineEnds
import ScriptLint.Proofs.Rules.Gaps
import ScriptLint.Proofs.Rules.Rows
import ScriptLint.Proofs.Rules.MendedText
import ScriptLint.Proofs.Rules.Places
import ScriptLint.Proofs.Rules.Sites
import ScriptLint.Proofs.Rules.Words
import ScriptLint.Proofs.Rules.Running
import ScriptLint.Proofs.Rules.Mending
import ScriptLint.Proofs.Rules.Builtin
import ScriptLint.Proofs.Rules.Numbers
import ScriptLint.Proofs.Rules.Spaced
import ScriptLint.Proofs.Rules.Spacing
import ScriptLint.Proofs.Execution.Turns
import ScriptLint.Proofs.Registry
import ScriptLint.Proofs.FileSystem
import ScriptLint.Proofs.Config.Inheritance
import ScriptLint.Proofs.Config.Discovery
import ScriptLint.Proofs.Config.Merging
import ScriptLint.Proofs.Splice.Sequential
import ScriptLint.Proofs.Splice.Merging
import ScriptLint.Proofs.Splice.Order
import ScriptLint.Proofs.Syntax.Precedence.Statement
import ScriptLint.Proofs.Syntax.Formula.Parsing
import ScriptLint.Proofs.Linter.Verifying
import ScriptLint.Proofs.Text.LineEnds
import ScriptLint.Proofs.Text.Positions
import ScriptLint.Proofs.Rule.Locations
import ScriptLint.Proofs.Rule.Options
import ScriptLint.Proofs.Source.Between
import ScriptLint.Proofs.Config.Paths
import ScriptLint.Proofs.Pragma
import ScriptLint.Proofs.Source.Walk
import ScriptLint.Proofs.Rules.Redeclared
import ScriptLint.Proofs.Rule.Template
import ScriptLint.Proofs.Source.Partition
import ScriptLint.Proofs.Syntax.Scanner
import ScriptLint.Proofs.Syntax.Scanning
import ScriptLint.Proofs.Syntax.Templates
import ScriptLint.Proofs.Diff.Listing
import ScriptLint.Proofs.Syntax.Spaces
import ScriptLint.Proofs.Splice.Inert
import ScriptLint.Proofs.Linter.Progress
