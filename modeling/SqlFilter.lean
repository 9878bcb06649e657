import SqlFilter.Command.Arguments
import SqlFilter.Command.Host
import SqlFilter.Command.Ink
import SqlFilter.Command.Run
import SqlFilter.DataType
import SqlFilter.Decimal.Binary
import SqlFilter.Decimal.Layout
import SqlFilter.Decimal.Numeral
import SqlFilter.Decimal.Shortest
import SqlFilter.Error
import SqlFilter.Filter
import SqlFilter.Json.Basic
import SqlFilter.Json.Canonical
import SqlFilter.Json.Literal
import SqlFilter.Json.Number
import SqlFilter.Json.Printer
import SqlFilter.Json.Reader
import SqlFilter.Json.Token
import SqlFilter.Logic
import SqlFilter.Main
import SqlFilter.Mismatch
import SqlFilter.Node.Basic
import SqlFilter.Node.Build
import SqlFilter.Node.Json
import SqlFilter.Operator
import SqlFilter.Proofs.Command.Checking
import SqlFilter.Proofs.Command.Joining
import SqlFilter.Proofs.Command.Listing
import SqlFilter.Proofs.Command.Presenting
import SqlFilter.Proofs.Command.Resolving
import SqlFilter.Proofs.Command.Stages
import SqlFilter.Proofs.Command.Words
import SqlFilter.Proofs.Decimal.Shortest
import SqlFilter.Proofs.Digits
import SqlFilter.Proofs.Filter.History
import SqlFilter.Proofs.Json.Compact
import SqlFilter.Proofs.Json.Decoding
import SqlFilter.Proofs.Json.Doubles
import SqlFilter.Proofs.Json.Kinds
import SqlFilter.Proofs.Json.Lexemes
import SqlFilter.Proofs.Json.Narrowing
import SqlFilter.Proofs.Json.Nesting
import SqlFilter.Proofs.Json.Numbers
import SqlFilter.Proofs.Json.Phrase
import SqlFilter.Proofs.Json.Printed
import SqlFilter.Proofs.Json.Reading
import SqlFilter.Proofs.Json.Rearrangement
import SqlFilter.Proofs.Json.Recognition
import SqlFilter.Proofs.Json.RoundTrip
import SqlFilter.Proofs.Json.Scanners
import SqlFilter.Proofs.Json.Soundness
import SqlFilter.Proofs.Json.Spacing
import SqlFilter.Proofs.Json.Stability
import SqlFilter.Proofs.Settings.Entries
import SqlFilter.Proofs.Settings.Loading
import SqlFilter.Proofs.Sql.Binding
import SqlFilter.Proofs.Sql.Blocks
import SqlFilter.Proofs.Sql.Fragment
import SqlFilter.Proofs.Sql.Identifiers
import SqlFilter.Proofs.Sql.Indentation
import SqlFilter.Proofs.Sql.Independence
import SqlFilter.Proofs.Sql.Joining
import SqlFilter.Proofs.Sql.LeftTokens
import SqlFilter.Proofs.Sql.Modes
import SqlFilter.Proofs.Sql.Normal
import SqlFilter.Proofs.Sql.Numbering
import SqlFilter.Proofs.Sql.Outline
import SqlFilter.Proofs.Sql.Parentheses
import SqlFilter.Proofs.Sql.Punctuation
import SqlFilter.Proofs.Sql.Quotation
import SqlFilter.Proofs.Sql.Quoting
import SqlFilter.Proofs.Sql.Rows
import SqlFilter.Proofs.Sql.Shapes
import SqlFilter.Proofs.Sql.Spelling
import SqlFilter.Proofs.Sql.Tree
import SqlFilter.Proofs.Sql.Uniqueness
import SqlFilter.Proofs.Sql.Words
import SqlFilter.Proofs.Value.CalendarTexts
import SqlFilter.Proofs.Value.Chronology
import SqlFilter.Proofs.Value.Integers
import SqlFilter.Settings.Basic
import SqlFilter.Settings.Reader
import SqlFilter.Sql.Bindings
import SqlFilter.Sql.Condition
import SqlFilter.Sql.Encoding
import SqlFilter.Sql.Layout
import SqlFilter.Sql.Left
import SqlFilter.Sql.Render
import SqlFilter.Text.Blank
import SqlFilter.Text.Hex
import SqlFilter.Text.Quoted
import SqlFilter.Text.Unprintable
import SqlFilter.Toml.Basic
import SqlFilter.Toml.Reader
import SqlFilter.Toml.Scalar
import SqlFilter.Toml.Text
import SqlFilter.Value.Basic
import SqlFilter.Value.Calendar
import SqlFilter.Value.Json
import SqlFilter.Vocabulary
