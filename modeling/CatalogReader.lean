import CatalogReader.Catalog.Conversion
import CatalogReader.Catalog.Row
import CatalogReader.Catalog.TableName
import CatalogReader.Catalog.TypeName
import CatalogReader.ColumnType
import CatalogReader.CommandLine.Arguments
import CatalogReader.CommandLine.Run
import CatalogReader.Console
import CatalogReader.Database.Fault
import CatalogReader.Database.Server
import CatalogReader.Failure
import CatalogReader.Files.Path
import CatalogReader.Files.Tree
import CatalogReader.Json
import CatalogReader.Layout.Grid
import CatalogReader.Layout.Line
import CatalogReader.Layout.Paragraph
import CatalogReader.Layout.Spans
import CatalogReader.Layout.Widths
import CatalogReader.Log
import CatalogReader.Main
import CatalogReader.Markup.Basic
import CatalogReader.Markup.Block
import CatalogReader.Markup.Color
import CatalogReader.Markup.Literal.Number
import CatalogReader.Markup.Literal.Quoted
import CatalogReader.Markup.Literal.Reading
import CatalogReader.Markup.Literal.Token
import CatalogReader.Markup.Style
import CatalogReader.Reader
import CatalogReader.Rounding
import CatalogReader.SchemaError
import CatalogReader.SelectList
import CatalogReader.Session
import CatalogReader.Settings.Basic
import CatalogReader.Settings.EnvFile
import CatalogReader.Settings.Number
import CatalogReader.Summary
import CatalogReader.Table
import CatalogReader.Text.Blank
import CatalogReader.Text.Cased
import CatalogReader.Text.Cells
import CatalogReader.Text.Cut
import CatalogReader.Text.Hex
import CatalogReader.Text.LetterCase
import CatalogReader.Text.LetterForm
import CatalogReader.Text.Printable
import CatalogReader.Text.Quoted
import CatalogReader.Text.Ranges
import CatalogReader.Text.Span
import CatalogReader.Text.TerminalSequence
import CatalogReader.Text.Utf8
import CatalogReader.Text.WordCharacter
import CatalogReader.Url.Basic
import CatalogReader.Url.Host
import CatalogReader.Url.Query
import CatalogReader.Url.Redaction
import CatalogReader.Proofs.Connections.Course
import CatalogReader.Proofs.Connections.Moves
import CatalogReader.Proofs.Connections.Accounting
import CatalogReader.Proofs.Connections.Recovery
import CatalogReader.Proofs.Connections.Release
import CatalogReader.Proofs.Fetching.Contract
import CatalogReader.Proofs.Fetching.RowOrder
import CatalogReader.Proofs.Credentials.Alike
import CatalogReader.Proofs.Credentials.Arguments
import CatalogReader.Proofs.Credentials.Readers
import CatalogReader.Proofs.Credentials.Runs
import CatalogReader.Proofs.Fetching.FullRows
import CatalogReader.Proofs.Layout.Wrapping
import CatalogReader.Proofs.Markup.Interpolation
import CatalogReader.Proofs.Markup.Summaries
import CatalogReader.Proofs.Runs.CleanFailure
import CatalogReader.Proofs.Runs.Escapes
import CatalogReader.Proofs.Runs.Presentation
import CatalogReader.Proofs.Url.Decoding
import CatalogReader.Proofs.Credentials.WrittenUrls
import CatalogReader.Proofs.Fetching.Independence
import CatalogReader.Proofs.Runs.SchemaNaming
import CatalogReader.Proofs.Files.Writing
import CatalogReader.Proofs.Runs.Files
import CatalogReader.Proofs.Exports.PlainForms
import CatalogReader.Proofs.Runs.LibraryAgreement
import CatalogReader.Proofs.Url.Encoding
import CatalogReader.Proofs.Url.Writing
import CatalogReader.Proofs.Credentials.ShownUrls
import CatalogReader.Proofs.Credentials.UserInfo
import CatalogReader.Proofs.Credentials.Refusals
import CatalogReader.Proofs.Credentials.DriverReading
import CatalogReader.Proofs.Fetching.Assembly
import CatalogReader.Proofs.Exports.QuotedNames
import CatalogReader.Proofs.Exports.Streaming
import CatalogReader.Proofs.Exports.JsonReading
import CatalogReader.Proofs.Exports.JsonRoundTrip
import CatalogReader.Proofs.Types.CanonicalText
import CatalogReader.Proofs.Types.Normalization
import CatalogReader.Proofs.Layout.Fitting
import CatalogReader.Proofs.Layout.GridRows
import CatalogReader.Proofs.Markup.Verbatim
import CatalogReader.Proofs.Markup.ShownColumns
import CatalogReader.Proofs.Url.Characters
import CatalogReader.Proofs.Runs.Configuration
import CatalogReader.Proofs.Text.Unquoting
import CatalogReader.Proofs.Errors.Messages
import CatalogReader.Proofs.Errors.Annotation
import CatalogReader.Proofs.Fetching.Lookup
import CatalogReader.Proofs.Connections.Acceptance
import CatalogReader.Proofs.Settings.EnvFiles
