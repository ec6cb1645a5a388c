/-
Column types from the three texts by which the catalog describes them:
`PostgresTypeMapper.to_data_type`, with `DataType.parse`. A declared type is the sentinel of arrays,
whose element is known by the tag of the underlying type; the sentinel of types that users define,
which keep their name; a built-in type without a portable equivalent; or a canonical spelling.
-/

import CatalogReader.ColumnType
import CatalogReader.SchemaError

namespace CatalogReader.Catalog

/-- The declared type of every array. -/
def arraySentinel : String := "ARRAY"

/-- The declared type of every type that a user defined. -/
def userDefinedSentinel : String := "USER-DEFINED"

/-- The element types of arrays by the tag of the underlying type. -/
def arrayElements : List (String × PortableType) :=
  [("_bool", .boolean), ("_float8", .doublePrecision), ("_int4", .integer), ("_text", .text),
    ("_uuid", .uuid)]

/-- The built-in types that have no portable equivalent. -/
def opaqueBuiltins : List String :=
  ["interval", "name", "oid", "regclass", "regtype"]

/-- The element type that a tag stands for. -/
def elementOfTag? (tag : String) : Option PortableType :=
  (arrayElements.find? fun entry => entry.1 == tag).map Prod.snd

/-- The column type of a declared type and the name of its underlying type. -/
def normalizeType (dataType typeName : Option String) : Except SchemaError ColumnType :=
  match dataType with
  | none => .error (.unrecognizedType none)
  | some declared =>
    if declared = arraySentinel then
      match typeName.bind elementOfTag? with
      | none => .error (.unknownArrayElement typeName)
      | some element => .ok (.array (.portable element))
    else if declared = userDefinedSentinel then .ok (.other typeName)
    else if declared ∈ opaqueBuiltins then .ok (.other declared)
    else
      match PortableType.ofSpelling? declared with
      | none => .error (.unrecognizedType declared)
      | some type => .ok (.portable type)

/-- The portable type of a canonical spelling. -/
def parseType (word : Option String) : Except SchemaError PortableType :=
  match word.bind PortableType.ofSpelling? with
  | none => .error (.unrecognizedType word)
  | some type => .ok type

end CatalogReader.Catalog
