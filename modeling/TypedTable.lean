import TypedTable.Proofs.Storage.Paging
import TypedTable.Proofs.Table
import TypedTable.Record.Shape
import TypedTable.Proofs.Memory.Plain
import TypedTable.Proofs.Query.Accepted
import TypedTable.Proofs.Instant.Text
import TypedTable.Proofs.Record.Codec
import TypedTable.Proofs.Record.Shape
import TypedTable.Proofs.Record.RoundTrip
import TypedTable.Proofs.Record.ReadBack
import TypedTable.Proofs.Table.Writes
import TypedTable.Proofs.Grammar.Exact
import TypedTable.Proofs.Instant.Fixed
import TypedTable.Proofs.Grammar.Columns
import TypedTable.Proofs.Expr.Written
import TypedTable.Proofs.Lexing.Names
import TypedTable.Proofs.Expr.Spelling
import TypedTable.Proofs.Expr.Local
import TypedTable.Proofs.Record.Range
import TypedTable.Proofs.Table.Found
import TypedTable.Proofs.Filter.Printed
import TypedTable.Proofs.Storage.Invariant
import TypedTable.Proofs.Expr.Accepted
import TypedTable.Proofs.Record.Restamped
import TypedTable.Proofs.Table.WrittenBack
import TypedTable.Proofs.Storage.Segments
import TypedTable.Proofs.Backend
import TypedTable.Proofs.Expr.Folded
import TypedTable.Proofs.Query.Folded
import TypedTable.Proofs.Schema.Valid
import TypedTable.Proofs.Schema.Columns
import TypedTable.Proofs.Record.Columns
import TypedTable.Proofs.Record.Kept
import TypedTable.Proofs.Record.Legible
import TypedTable.Proofs.Record.Overlaid
import TypedTable.Proofs.Query.OwnPart
import TypedTable.Proofs.Value.Order
import TypedTable.Proofs.Filter.Flipped
import TypedTable.Proofs.Filter.Composed
import TypedTable.Proofs.Lexing.ReadBack
import TypedTable.Proofs.Grammar.Faults
import TypedTable.Proofs.Lexing.Unterminated
import TypedTable.Proofs.Lexing.Cased
import TypedTable.Proofs.Lexing.Rendered
import TypedTable.Proofs.Expr.Sliced
import TypedTable.Proofs.Lexing.Integer
import TypedTable.Proofs.Schema.TypeName
