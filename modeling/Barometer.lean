import Barometer.CommandLine.Arguments
import Barometer.CommandLine.Program
import Barometer.Compilation
import Barometer.Decimal.Binary
import Barometer.Decimal.Layout
import Barometer.Decimal.Numeral
import Barometer.Decimal.Reading
import Barometer.Decimal.Shortest
import Barometer.Dictionary
import Barometer.Imports.Register
import Barometer.Imports.Timestamp
import Barometer.Indicator.Basic
import Barometer.Indicator.Defect
import Barometer.Indicator.Names
import Barometer.Indicator.Operator
import Barometer.Indicator.Reader
import Barometer.Indicator.Scalar
import Barometer.Json.Basic
import Barometer.Json.Decoder
import Barometer.Json.Parser
import Barometer.Json.Printer
import Barometer.Main
import Barometer.Naming.Catalog
import Barometer.Naming.Configuration
import Barometer.Naming.Resolution
import Barometer.Proofs.Compilation.Conditions
import Barometer.Proofs.Compilation.Links
import Barometer.Proofs.Compilation.Statements
import Barometer.Proofs.Decimal.Binary
import Barometer.Proofs.Decimal.Digits
import Barometer.Proofs.Dictionary
import Barometer.Proofs.Indicator.References
import Barometer.Proofs.Indicator.Scalar
import Barometer.Proofs.Indicator.WellFormed
import Barometer.Proofs.Naming.Compilation
import Barometer.Proofs.Naming.Resolution
import Barometer.Proofs.Outcome
import Barometer.Proofs.Sql.Characters
import Barometer.Proofs.Sql.Phrase
import Barometer.Proofs.Sql.Renaming
import Barometer.Proofs.Sql.Scanner
import Barometer.Proofs.Sql.Vocabulary
import Barometer.Proofs.Store.Rows
import Barometer.Proofs.Store.Truth
import Barometer.Proofs.Text.Canonical
import Barometer.Report.Basic
import Barometer.Report.Definition
import Barometer.Results.Csv
import Barometer.Results.ResultSet
import Barometer.Results.Writer
import Barometer.Session
import Barometer.Settings.Basic
import Barometer.Settings.Expansion
import Barometer.Settings.Reader
import Barometer.Sql.Identifier
import Barometer.Sql.Query
import Barometer.Sql.Token
import Barometer.Store.Admission
import Barometer.Store.Affinity
import Barometer.Store.Arithmetic
import Barometer.Store.Document
import Barometer.Store.Evaluation
import Barometer.Store.Fault
import Barometer.Store.Header
import Barometer.Store.Name
import Barometer.Store.Pattern
import Barometer.Store.Statistics
import Barometer.Store.Table
import Barometer.Store.Value
import Barometer.Text.Alphanumeric
import Barometer.Text.Base64
import Barometer.Text.Blank
import Barometer.Text.Canonical
import Barometer.Text.Case
import Barometer.Text.CaseTable
import Barometer.Text.Compatibility
import Barometer.Text.CompositionTable
import Barometer.Text.DecompositionTable
import Barometer.Text.Printable
import Barometer.Text.Quoted
import Barometer.Text.Table
import Barometer.Text.Utf8
import Barometer.Toml.Basic
import Barometer.Toml.Document
import Barometer.Toml.Parser
import Barometer.Toml.Scalar
import Barometer.Proofs.Compilation.Completeness
import Barometer.Proofs.Sql.Grammar
import Barometer.Proofs.Sql.Readability
import Barometer.Proofs.Compilation.Readability
import Barometer.Proofs.Results.Csv
import Barometer.Proofs.Results.Export
import Barometer.Proofs.Naming.Leftovers
import Barometer.Proofs.Naming.Nesting
import Barometer.Proofs.Compilation.Joins
import Barometer.Proofs.Naming.Joins
import Barometer.Proofs.Text.Case
import Barometer.Proofs.Text.Signs
import Barometer.Proofs.Text.Fixpoints
import Barometer.Proofs.Store.Pattern
import Barometer.Proofs.Store.Statistics
import Barometer.Proofs.Store.Contexts
import Barometer.Proofs.Store.Aggregates
import Barometer.Proofs.Store.Columns
import Barometer.Proofs.Compilation.Conditional
import Barometer.Proofs.Compilation.StoredTexts
import Barometer.Proofs.Results.Blocks
import Barometer.Proofs.Imports.Calendar
import Barometer.Proofs.Imports.Timestamp
import Barometer.Proofs.Imports.Register
import Barometer.Proofs.Json.Numbers
import Barometer.Proofs.Json.Strings
import Barometer.Proofs.Json.Members
import Barometer.Proofs.Json.Pretty
import Barometer.Proofs.Json.Decoder
import Barometer.Proofs.Results.Report
import Barometer.Proofs.Results.Writer
import Barometer.Proofs.Results.Slots
import Barometer.Proofs.Sql.Mentions
import Barometer.Proofs.Compilation.Mentions
import Barometer.Proofs.Sql.Comparisons
import Barometer.Proofs.Compilation.Wildcards
import Barometer.Proofs.Sql.Derivation
import Barometer.Proofs.Compilation.Derivation
import Barometer.Proofs.Sql.Lexer
import Barometer.Proofs.Sql.Places
import Barometer.Proofs.Naming.Identifiers
import Barometer.Proofs.Compilation.Sides
import Barometer.Proofs.Text.Letters
import Barometer.Proofs.Store.Matches
import Barometer.Proofs.Store.Numerals
import Barometer.Proofs.Store.Recasing
import Barometer.Proofs.Store.Outcomes
import Barometer.Proofs.Compilation.Capitals
import Barometer.Proofs.Text.Blanks
import Barometer.Proofs.Sql.Texts
import Barometer.Proofs.Compilation.Literals
import Barometer.Proofs.Decimal.Whole
import Barometer.Proofs.Store.Numbers
import Barometer.Proofs.Compilation.NumberPatterns
import Barometer.Proofs.Naming.Newest
import Barometer.Proofs.Naming.Columns
import Barometer.Proofs.Imports.Undated
import Barometer.Proofs.Compilation.Orientation
import Barometer.Proofs.Sql.Groupings
import Barometer.Proofs.Compilation.Groupings
import Barometer.Proofs.Store.Order
import Barometer.Proofs.Store.Groups
import Barometer.Proofs.Compilation.Keys
import Barometer.Proofs.Settings.Expansion
import Barometer.Proofs.Indicator.Blanks
import Barometer.Proofs.Sql.Dialects
import Barometer.Proofs.Compilation.Dialects
import Barometer.Proofs.Indicator.Layout
import Barometer.Proofs.Indicator.Renaming
import Barometer.Proofs.Naming.Domain
