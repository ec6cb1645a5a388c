/-
How an operation fails. An error of reading a schema is one among several failures: a fault of the
driver that is no database error, a URL that is refused, and values without the parts that an
operation needs are failures of their own, which nothing turns into an error of reading a schema.
-/

import CatalogReader.SchemaError
import CatalogReader.Summary
import CatalogReader.Url.Basic

namespace CatalogReader

/-- Why an operation failed. -/
inductive Failure where
  /-- An error of reading a schema. -/
  | schema (error : SchemaError)
  /-- A fault of the driver, as it was raised. -/
  | driver (fault : DriverFault)
  /-- A URL was refused. -/
  | url (fault : Url.Fault)
  /-- A record of the catalog is no row. -/
  | malformedRecord
  /-- A text has unsound markup. -/
  | markup (fault : Markup.Fault)
  /-- The type of a column has no text. -/
  | namelessType
  /-- A column has no name. -/
  | namelessColumn
  /-- A list of columns was asked for and no table has been read. -/
  | noColumns
  /-- A table was asked for and no table has been read. -/
  | noTable

namespace Failure

/-- A failure to show a summary. -/
def ofSummary : Summary.Fault → Failure
  | .namelessType => .namelessType
  | .markup fault => .markup fault

/-- What a failure says of itself. -/
def message : Failure → String
  | schema error => error.text
  | driver fault => fault.message
  | url fault => fault.message
  | malformedRecord => "a record of the catalog is no row"
  | markup .nothingToClose => "a closing tag closes nothing"
  | markup .argumentNotLiteral => "the argument of a handler is no literal"
  | markup .emptyComponent => "a colour has an empty component"
  | namelessType => "the type of a column has no text"
  | namelessColumn => "a column has no name"
  | noColumns => "there are no columns"
  | noTable => "there is no table"

end Failure

/-- The canonical text of a type, or the failure of a type that has none. -/
def ColumnType.text (type : ColumnType) : Except Failure String :=
  match type.text? with
  | none => .error .namelessType
  | some text => .ok text

end CatalogReader
