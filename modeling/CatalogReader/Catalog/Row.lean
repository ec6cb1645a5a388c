/-
Rows of a database's column catalog, which are called `CatalogRow`. A query returns records, which
are lists of cells. The columns of the query have fixed sorts, names being texts and a position a
number, so a record of six cells is a row; a record of any other count of cells is none.
-/

namespace CatalogReader

/-- The view of the catalog that tells the rows. -/
def Catalog.columnsView : String := "information_schema.columns"

/-- What the catalog says about one column. -/
structure CatalogRow where
  columnName : Option String
  ordinalPosition : Int
  nullability : Option String
  dataType : Option String
  typeSchema : Option String
  typeName : Option String
  deriving DecidableEq, Repr

/-- The cells of a row. -/
def CatalogRow.length : Nat := 6

/-- What a query returns for one column. -/
inductive CatalogRecord where
  /-- The cells of a row. -/
  | row (row : CatalogRow)
  /-- Another count of cells. -/
  | misshapen (cells : Nat) (other : cells ≠ CatalogRow.length)
  deriving DecidableEq, Repr

namespace CatalogRecord

/-- The count of the cells of a record. -/
def length : CatalogRecord → Nat
  | row _ => CatalogRow.length
  | misshapen cells _ => cells

end CatalogRecord

namespace CatalogRow

/-- The row that a record stands for. -/
def ofRecord? : CatalogRecord → Option CatalogRow
  | .row row => some row
  | .misshapen _ _ => none

/-- The record of a row. -/
def toRecord (row : CatalogRow) : CatalogRecord := .row row

/-- A record made from a row is read as that row. -/
theorem ofRecord?_toRecord (row : CatalogRow) : ofRecord? row.toRecord = some row := rfl

end CatalogRow

end CatalogReader
