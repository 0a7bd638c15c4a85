import VixStyle.Text.CodeTable
import VixStyle.Text.Letter
import VixStyle.Text.LetterCase
import VixStyle.Text.CaseMap
import VixStyle.Text.Printable
import VixStyle.Text.Space
import VixStyle.Text.Line
import VixStyle.Text.Position
import VixStyle.Keyword
import VixStyle.Operator
import VixStyle.Token
import VixStyle.Token.Scan
import VixStyle.Token.Lexer
import VixStyle.Line
import VixStyle.Text.Quoted
import VixStyle.Text.Columns
import VixStyle.Name
import VixStyle.Declaration
import VixStyle.Source
import VixStyle.Source.Dump
import VixStyle.Bracket
import VixStyle.Block
import VixStyle.Operand
import VixStyle.Statement
import VixStyle.Json
import VixStyle.Diagnostic
import VixStyle.Diagnostic.Catalogue
import VixStyle.Report
import VixStyle.Report.Text
import VixStyle.Text.Order
import VixStyle.Machine
import VixStyle.Options
import VixStyle.Rule
import VixStyle.Rule.Naming
import VixStyle.Rule.Spacing
import VixStyle.Rule.OneLineIf
import VixStyle.Rule.Indentation
import VixStyle.Rule.Registry
import VixStyle.Lint
import VixStyle.Decimal.Binary
import VixStyle.Decimal.Shortest
import VixStyle.Setting.Limit
import VixStyle.Setting.Value
import VixStyle.Config.Mapping
import VixStyle.Toml.Quote
import VixStyle.Toml.Number
import VixStyle.Toml.Moment
import VixStyle.Toml.Document
import VixStyle.Toml.Reader
import VixStyle.Text.Utf8
import VixStyle.Path
import VixStyle.FileTree
import VixStyle.Log
import VixStyle.FileLint
import VixStyle.Text.Search
import VixStyle.Config.File
import VixStyle.Config.Discovery
import VixStyle.Text.Whole
import VixStyle.Command.Grammar
import VixStyle.Command.Arguments
import VixStyle.Report.Document
import VixStyle.FileLint.Output
import VixStyle.Command.Run
import VixStyle.Throughput
import VixStyle.Session
import VixStyle.Main
import VixStyle.Proofs.Token.Grammar
import VixStyle.Proofs.Token.Tiling
import VixStyle.Proofs.Token.Respacing
import VixStyle.Proofs.Token.Lexemes
import VixStyle.Proofs.Block.Matching
import VixStyle.Proofs.Indentation.Stack
import VixStyle.Proofs.Indentation.Matching
import VixStyle.Proofs.Indentation.Moved
import VixStyle.Proofs.Indentation.Relined
import VixStyle.Proofs.Indentation.Outline
import VixStyle.Proofs.Indentation.Silence
import VixStyle.Proofs.Indentation.Detection
import VixStyle.Proofs.Config.Surfacing
import VixStyle.Proofs.Report.Sorting
import VixStyle.Proofs.Indentation.Citation
import VixStyle.Proofs.Declaration.Renaming
import VixStyle.Proofs.Source.Later
import VixStyle.Proofs.Indentation.Later
import VixStyle.Proofs.Lint.Composition
import VixStyle.Proofs.Lint.Sites
import VixStyle.Proofs.Indentation.Sites
import VixStyle.Proofs.Lint.Outcome
import VixStyle.Proofs.Lint.Selection
import VixStyle.Proofs.Lint.Insertion
import VixStyle.Proofs.Block.Pending
import VixStyle.Proofs.Lint.Causality
import VixStyle.Proofs.Source.Alike
import VixStyle.Proofs.Indentation.Alike
import VixStyle.Proofs.Token.Uncommented
import VixStyle.Proofs.Spacing.Sides
import VixStyle.Proofs.Lint.Alike
import VixStyle.Proofs.Lint.Uncommented
import VixStyle.Proofs.Token.Replacing
import VixStyle.Proofs.Token.Opaque
import VixStyle.Proofs.Text.Place
import VixStyle.Proofs.Source.Place
import VixStyle.Proofs.Lint.Opaque
import VixStyle.Proofs.Lint.Distinct
import VixStyle.Proofs.Lint.Order
import VixStyle.Proofs.Lint.Position
import VixStyle.Proofs.Strict.Lexer
import VixStyle.Proofs.Strict.Row
import VixStyle.Proofs.Lint.Totality
import VixStyle.Proofs.Lint.Severity
import VixStyle.Proofs.FileLint.Outcome
import VixStyle.Proofs.FileLint.Agreement
import VixStyle.Proofs.FileLint.Reading
import VixStyle.Proofs.Spacing.Gaps
import VixStyle.Proofs.Spacing.Repair
import VixStyle.Proofs.Statement.Junction
import VixStyle.Proofs.Declaration.Outcome
import VixStyle.Proofs.Indentation.Closing
import VixStyle.Proofs.Source.Indented
import VixStyle.Proofs.Indentation.Misplaced
import VixStyle.Proofs.Text.LetterCase
import VixStyle.Proofs.Name.Style
import VixStyle.Proofs.Naming.Violation
import VixStyle.Proofs.Block.Height
import VixStyle.Proofs.Source.Standing
import VixStyle.Proofs.OneLineIf.Verdict
import VixStyle.Proofs.Spacing.Verdict
import VixStyle.Proofs.Token.Renaming
import VixStyle.Proofs.Name.Snake
import VixStyle.Proofs.Declaration.Site
import VixStyle.Proofs.Naming.Proposal
import VixStyle.Proofs.Token.Trailing
import VixStyle.Proofs.Lint.Trailing
import VixStyle.Proofs.Spacing.Continued
import VixStyle.Proofs.Name.Words
import VixStyle.Proofs.Text.WordSet
import VixStyle.Proofs.Config.Mapping
import VixStyle.Proofs.Report.Collecting
import VixStyle.Proofs.FileTree.Walk
import VixStyle.Proofs.Config.Nearest
import VixStyle.Proofs.FileLint.Expansion
import VixStyle.Proofs.Text.Unbroken
import VixStyle.Proofs.Report.Rendering
import VixStyle.Proofs.Lint.Wording
import VixStyle.Proofs.Rule.Validation
import VixStyle.Proofs.Declaration.Static
import VixStyle.Proofs.Indentation.Reached
import VixStyle.Proofs.Strict.Reuse
