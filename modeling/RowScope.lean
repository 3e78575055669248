import RowScope.Access.Cache
import RowScope.Access.Directory
import RowScope.Access.Enforcer
import RowScope.Access.Grant
import RowScope.Access.Resolver
import RowScope.Access.Session
import RowScope.Access.User
import RowScope.Ascending
import RowScope.Command.Error
import RowScope.Command.Explanation
import RowScope.Command.Request
import RowScope.Command.Summary
import RowScope.Filter.Basic
import RowScope.Filter.Codec
import RowScope.Filter.Meaning
import RowScope.Filter.Pattern
import RowScope.Filter.Sql
import RowScope.Fragment.Lexeme
import RowScope.Fragment.Lookahead
import RowScope.Fragment.Reader
import RowScope.Fragment.Token
import RowScope.Json.Basic
import RowScope.Json.Parser
import RowScope.Json.Printer
import RowScope.KeyMap
import RowScope.Main
import RowScope.Number.Decimal
import RowScope.Number.Numeral
import RowScope.Policy.Error
import RowScope.Policy.Rule
import RowScope.Policy.RuleBook
import RowScope.Policy.Table
import RowScope.Proofs.Access.Caching
import RowScope.Proofs.Access.Calls
import RowScope.Proofs.Access.Columns
import RowScope.Proofs.Access.Descendants
import RowScope.Proofs.Access.EmptySets
import RowScope.Proofs.Access.Enforcement
import RowScope.Proofs.Access.EveryRow
import RowScope.Proofs.Access.Gaining
import RowScope.Proofs.Access.History
import RowScope.Proofs.Access.Inquiry
import RowScope.Proofs.Access.Meaning
import RowScope.Proofs.Access.Missing
import RowScope.Proofs.Access.Narrowing
import RowScope.Proofs.Access.Nesting
import RowScope.Proofs.Access.Ordering
import RowScope.Proofs.Access.Reading
import RowScope.Proofs.Access.Reapplying
import RowScope.Proofs.Access.Simulation
import RowScope.Proofs.Access.Supplied
import RowScope.Proofs.Access.Templates
import RowScope.Proofs.Access.Writing
import RowScope.Proofs.Command.Explaining
import RowScope.Proofs.Connectives
import RowScope.Proofs.Filter.Canonical
import RowScope.Proofs.Filter.Encoding
import RowScope.Proofs.Filter.Leaves
import RowScope.Proofs.Filter.Matching
import RowScope.Proofs.Filter.Rereading
import RowScope.Proofs.Filter.Sameness
import RowScope.Proofs.Filter.Sets
import RowScope.Proofs.Filter.Unknowns
import RowScope.Proofs.Fragment.Acceptor
import RowScope.Proofs.Fragment.Derivation
import RowScope.Proofs.Fragment.Faults
import RowScope.Proofs.Fragment.Grammar
import RowScope.Proofs.Fragment.Identifiers
import RowScope.Proofs.Fragment.Insertion
import RowScope.Proofs.Fragment.Language
import RowScope.Proofs.Fragment.Outline
import RowScope.Proofs.Fragment.Parallel
import RowScope.Proofs.Fragment.Peeking
import RowScope.Proofs.Fragment.Phrases
import RowScope.Proofs.Fragment.Pieces
import RowScope.Proofs.Fragment.References
import RowScope.Proofs.Fragment.Tiling
import RowScope.Proofs.Fragment.Words
import RowScope.Proofs.Number.Doubles
import RowScope.Proofs.Policy.Columns
import RowScope.Proofs.Policy.Registration
import RowScope.Proofs.Sequences
import RowScope.Proofs.Template.Columns
import RowScope.Proofs.Template.Decimals
import RowScope.Proofs.Template.Filling
import RowScope.Proofs.Template.Quoting
import RowScope.Proofs.Template.Scanning
import RowScope.Proofs.Template.Scopes
import RowScope.Proofs.Text.Names
import RowScope.Proofs.Text.Offsets
import RowScope.Proofs.Text.Places
import RowScope.Proofs.Text.Snippets
import RowScope.Report.Grid
import RowScope.Report.Width
import RowScope.Scope
import RowScope.Settings
import RowScope.Statement
import RowScope.Template.Basic
import RowScope.Template.Binding
import RowScope.Template.Scoped
import RowScope.Text.Blank
import RowScope.Text.Diagnostic
import RowScope.Text.Emoji
import RowScope.Text.Ligature
import RowScope.Text.Name
import RowScope.Text.Position
import RowScope.Text.Quoted
import RowScope.Text.Ranges
import RowScope.Text.Wide
import RowScope.Text.ZeroWidth
import RowScope.Truth
import RowScope.Value
