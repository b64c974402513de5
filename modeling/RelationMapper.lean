import RelationMapper.Calendar.Date
import RelationMapper.Calendar.Reading
import RelationMapper.Catalog
import RelationMapper.Client
import RelationMapper.Client.Rows
import RelationMapper.ColumnType
import RelationMapper.Connection
import RelationMapper.Dialect
import RelationMapper.Engine
import RelationMapper.Entry
import RelationMapper.Fault
import RelationMapper.Filter
import RelationMapper.Loading
import RelationMapper.Number.Binary64
import RelationMapper.Number.Numeral
import RelationMapper.Number.Shortest
import RelationMapper.Options
import RelationMapper.Options.Environment
import RelationMapper.Plan
import RelationMapper.Reconstruction
import RelationMapper.Registry
import RelationMapper.Registry.Validated
import RelationMapper.Retry
import RelationMapper.Statement
import RelationMapper.Table
import RelationMapper.Text.Blank
import RelationMapper.Text.Cased
import RelationMapper.Text.CharSet
import RelationMapper.Text.Digit
import RelationMapper.Text.Lower
import RelationMapper.Text.Percent
import RelationMapper.Text.Printable
import RelationMapper.Text.Quoted
import RelationMapper.Text.Utf8
import RelationMapper.TypeSpec
import RelationMapper.TypeSpec.Parser
import RelationMapper.TypeSpec.Token
import RelationMapper.Url
import RelationMapper.Validation
import RelationMapper.Validation.Consistency
import RelationMapper.Validation.Report
import RelationMapper.Validation.Structure
import RelationMapper.Value
import RelationMapper.Value.Decoding
import RelationMapper.Value.Display
import RelationMapper.Value.Keyed
import RelationMapper.Value.Kind
import RelationMapper.Value.Literal
import RelationMapper.Value.Writable
import RelationMapper.Proofs.Text.Percent
import RelationMapper.Proofs.Text.Quotation
import RelationMapper.Proofs.Value.TextLiteral
import RelationMapper.Proofs.Act
import RelationMapper.Proofs.Except
import RelationMapper.Proofs.Schema.WellFormed
import RelationMapper.Proofs.Schema.Structure
import RelationMapper.Proofs.Validation
import RelationMapper.Proofs.Plan
import RelationMapper.Proofs.Value.Keyed
import RelationMapper.Proofs.Reconstruction
import RelationMapper.Proofs.Connection
import RelationMapper.Proofs.Client
import RelationMapper.Proofs.Client.Insert
import RelationMapper.Proofs.Client.Delete
import RelationMapper.Proofs.Client.Update
import RelationMapper.Proofs.Client.Rendering
import RelationMapper.Proofs.Client.Select
import RelationMapper.Proofs.Client.Refusal
import RelationMapper.Proofs.Client.Keys
import RelationMapper.Proofs.Client.Keeping
import RelationMapper.Proofs.Client.StoredPlans
import RelationMapper.Proofs.Exchange
import RelationMapper.Proofs.Client.Sending
import RelationMapper.Proofs.Client.Insertion
import RelationMapper.Proofs.Client.Clearing
import RelationMapper.Proofs.Client.Replacement
import RelationMapper.Proofs.Client.Ways
import RelationMapper.Proofs.Client.ChildRows
import RelationMapper.Proofs.Client.Children
import RelationMapper.Proofs.Client.SharedTable
import RelationMapper.Proofs.Registry
import RelationMapper.Proofs.Registry.Interleaving
import RelationMapper.Proofs.Registry.Concurrency
import RelationMapper.Proofs.Registry.Following
import RelationMapper.Proofs.Registry.Waiting
import RelationMapper.Proofs.Registry.Returning
import RelationMapper.Proofs.Client.Cascade
import RelationMapper.Proofs.Client.Tree
import RelationMapper.Proofs.Client.InsertedTree
import RelationMapper.Proofs.Filter
import RelationMapper.Proofs.Naming
import RelationMapper.Proofs.Client.RowWork
import RelationMapper.Proofs.Client.SentOnly
import RelationMapper.Proofs.Client.Restricted
import RelationMapper.Proofs.Client.Unambiguous
import RelationMapper.Proofs.Client.Descent
import RelationMapper.Proofs.Lexing.Lexer
import RelationMapper.Proofs.Lexing.Literal
import RelationMapper.Proofs.Lexing.Placement
import RelationMapper.Proofs.Lexing.Structure
import RelationMapper.Proofs.Lexing.PlainNames
import RelationMapper.Proofs.Lexing.Values
import RelationMapper.Proofs.Client.History
import RelationMapper.Proofs.Client.FreshPlans
import RelationMapper.Proofs.Client.Gate
import RelationMapper.Proofs.Client.QuietMode
import RelationMapper.Proofs.TypeSpec.Tokens
import RelationMapper.Proofs.TypeSpec.Declared
import RelationMapper.Proofs.Schema.Created
import RelationMapper.Proofs.Schema.Leniency
import RelationMapper.Proofs.Client.CreatedTables
import RelationMapper.Proofs.Number.Numeral
import RelationMapper.Proofs.Url
import RelationMapper.Proofs.Engine
import RelationMapper.Proofs.TypeSpec.Reading
import RelationMapper.Proofs.TypeSpec.Grammar
import RelationMapper.Proofs.Malformed
import RelationMapper.Proofs.Entry.WellTyped
import RelationMapper.Proofs.Grouping
import RelationMapper.Proofs.GroupedRows
import RelationMapper.Proofs.Filter.Refused
import RelationMapper.Proofs.Value.NumericText
import RelationMapper.Proofs.Schema.Agreement
import RelationMapper.Proofs.Text.Digit
import RelationMapper.Proofs.TypeSpec.Printed
import RelationMapper.Proofs.Calendar.Reading
import RelationMapper.Proofs.TypeSpec.Offence
import RelationMapper.Proofs.Value.StoredMoment
import RelationMapper.Proofs.Connection.Lifecycle
import RelationMapper.Proofs.Client.Nesting
import RelationMapper.Proofs.Options.Objects
import RelationMapper.Proofs.TypeSpec.Lossless
import RelationMapper.Proofs.Value.Bit
import RelationMapper.Proofs.TypeSpec.Lossless
import RelationMapper.Proofs.Value.Bit
