/-
Tables as they are shown: a name and the columns in their order, with `to_dict` for their objects
and `get_column` for a column of a name.
-/

import CatalogReader.ColumnType
import CatalogReader.Json

namespace CatalogReader

/-- A column of a table. -/
structure Column where
  name : Option String
  type : ColumnType
  isNullable : Bool
  comment : Option String := none
  deriving DecidableEq, Repr

/-- A table. -/
structure Table where
  name : String
  columns : List Column
  deriving DecidableEq, Repr

/-- The first column with a name. -/
def Table.column? (table : Table) (name : String) : Option Column :=
  table.columns.find? fun column => column.name == some name

/-- A column as an object, unless its type has no text. -/
def Column.toJson? (column : Column) : Option Json :=
  column.type.text?.map fun type =>
    .object [("name", Json.ofOption column.name), ("data_type", .text type),
      ("is_nullable", .bool column.isNullable), ("comment", Json.ofOption column.comment)]

/-- A table as an object, unless a type in it has no text. -/
def Table.toJson? (table : Table) : Option Json :=
  (table.columns.mapM Column.toJson?).map fun columns =>
    .object [("name", .text table.name), ("columns", .array columns)]

end CatalogReader
