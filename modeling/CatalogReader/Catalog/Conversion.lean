/-
Tables from the rows of the catalog: the sorting in `fetch_table`, and `column_from_row`. Rows are
taken by ascending position, rows of one position in their order of arrival, and the first row that
is no column decides the error.
-/

import CatalogReader.Catalog.Row
import CatalogReader.Catalog.TypeName
import CatalogReader.Table

namespace CatalogReader.Catalog

/-- Whether columns may hold nulls, from the word that says so. -/
def nullabilityOf? (word : Option String) : Option Bool :=
  if word = some "YES" then some true
  else if word = some "NO" then some false
  else none

/-- The column of a row. The nullability is looked at first; an error of the type is annotated with
the name of the column. -/
def columnOfRow (row : CatalogRow) : Except SchemaError Column :=
  match nullabilityOf? row.nullability with
  | none => .error (.invalidNullability row.nullability row.columnName)
  | some isNullable =>
    match normalizeType row.dataType row.typeName with
    | .error error => .error (error.annotate row.columnName)
    | .ok type => .ok { name := row.columnName, type, isNullable }

/-- Rows by ascending position; rows of one position stay in their order. -/
def sortRows (rows : List CatalogRow) : List CatalogRow :=
  rows.mergeSort fun left right => left.ordinalPosition ≤ right.ordinalPosition

/-- The columns of rows in their order, or the error of the first row that is no column. -/
def columnsOfRows : List CatalogRow → Except SchemaError (List Column)
  | [] => .ok []
  | row :: rest =>
    match columnOfRow row with
    | .error error => .error error
    | .ok column => (columnsOfRows rest).map (column :: ·)

/-- The table of a name and of rows in any order. -/
def tableOfRows (name : String) (rows : List CatalogRow) : Except SchemaError Table :=
  (columnsOfRows (sortRows rows)).map fun columns => { name, columns }

end CatalogReader.Catalog
