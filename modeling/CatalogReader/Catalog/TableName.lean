/-
References to tables, as `parse_full_table_name` splits them. The first dot of a reference ends the
schema, so that a table's name may hold dots and a schema's may not; a reference without a dot
belongs to the default schema.
-/

import CatalogReader.Text.Cut

namespace CatalogReader

open CatalogReader.Text

/-- A table and the schema it is in. -/
structure TableName where
  schema : String
  table : String
  deriving DecidableEq, Repr

namespace TableName

/-- The table that a reference stands for. -/
def ofReference (defaultSchema reference : String) : TableName :=
  match cutFirst? '.' reference.toList with
  | none => ⟨defaultSchema, reference⟩
  | some (schema, table) => ⟨String.ofList schema, String.ofList table⟩

/-- The schema and the table with a dot between them. -/
def dotted (name : TableName) : String :=
  name.schema ++ "." ++ name.table

/-- A schema that was chosen and is not empty, or else the fallback. -/
def schemaOr (fallback : String) : Option String → String
  | none => fallback
  | some schema => if schema.isEmpty then fallback else schema

end TableName

end CatalogReader
