/-
The errors that reading a schema reports: `SchemaConvError` and the classes below it. An error has a
kind, a message, a code and details; the kinds form a tree, and the special ones carry what they
blame. An error of type normalization names no column when it arises; the reader of the row
annotates it with the column, once.
-/

import CatalogReader.Database.Fault
import CatalogReader.Json
import CatalogReader.Text.Quoted

namespace CatalogReader

open CatalogReader.Text

/-! ### The tree of kinds -/

/-- The kinds of errors, from the root of the tree on. -/
inductive ErrorKind where
  | general
  | connection
  | database
  | unsupportedDatabase
  | introspection
  | invalidNullability
  | typeNormalization
  | unknownArrayElement
  | unrecognizedType
  deriving DecidableEq, Repr

namespace ErrorKind

/-- All kinds, from the root of the tree on. -/
def all : List ErrorKind :=
  [general, connection, database, unsupportedDatabase, introspection, invalidNullability,
    typeNormalization, unknownArrayElement, unrecognizedType]

/-- A kind and the kinds it is a case of, the most special one first. -/
def lineage : ErrorKind → List ErrorKind
  | general => [general]
  | connection => [connection, general]
  | database => [database, general]
  | unsupportedDatabase => [unsupportedDatabase, general]
  | introspection => [introspection, general]
  | invalidNullability => [invalidNullability, introspection, general]
  | typeNormalization => [typeNormalization, introspection, general]
  | unknownArrayElement => [unknownArrayElement, typeNormalization, introspection, general]
  | unrecognizedType => [unrecognizedType, typeNormalization, introspection, general]

/-- The kinds that an error of this kind is a case of, from the root of the tree on. -/
def classes (kind : ErrorKind) : List ErrorKind :=
  all.filter kind.lineage.contains

end ErrorKind

/-! ### Errors -/

/-- What an error blames, by its kind. -/
inductive Cause where
  | general
  | connection (fault : Option DriverFault)
  | database (fault : Option DriverFault)
  | unsupportedDatabase (scheme : Option String)
  | introspection
  | invalidNullability (value columnName : Option String)
  | typeNormalization (columnName : Option String)
  | unknownArrayElement (typeName columnName : Option String)
  | unrecognizedType (typeName columnName : Option String)
  deriving DecidableEq, Repr

/-- The kind of a cause. -/
def Cause.kind : Cause → ErrorKind
  | general => .general
  | connection _ => .connection
  | database _ => .database
  | unsupportedDatabase _ => .unsupportedDatabase
  | introspection => .introspection
  | invalidNullability .. => .invalidNullability
  | typeNormalization _ => .typeNormalization
  | unknownArrayElement .. => .unknownArrayElement
  | unrecognizedType .. => .unrecognizedType

/-- The driver's fault behind a cause. -/
def Cause.fault? : Cause → Option DriverFault
  | connection fault => fault
  | database fault => fault
  | _ => none

/-- The column that a cause names. -/
def Cause.columnName? : Cause → Option String
  | invalidNullability _ columnName => columnName
  | typeNormalization columnName => columnName
  | unknownArrayElement _ columnName => columnName
  | unrecognizedType _ columnName => columnName
  | _ => none

/-- A type normalization that names no column yet, with the column named. -/
def Cause.named? (columnName : Option String) : Cause → Option Cause
  | typeNormalization none => some (typeNormalization columnName)
  | unknownArrayElement typeName none => some (unknownArrayElement typeName columnName)
  | unrecognizedType typeName none => some (unrecognizedType typeName columnName)
  | _ => none

/-- Details of an error by name. -/
abbrev Details := List (String × Json)

/-- Details with one entry set; an entry of that name keeps its place. -/
def Details.set (details : Details) (name : String) (value : Json) : Details :=
  match details with
  | [] => [(name, value)]
  | (other, old) :: rest =>
    if other = name then (other, value) :: rest else (other, old) :: Details.set rest name value

/-- The entry of a name. -/
def Details.get? (details : Details) (name : String) : Option Json :=
  (details.find? fun entry => entry.1 == name).map Prod.snd

/-- An error of reading a schema. It may be made with no message and with no code. What it displays
as a whole is kept beside its message; an error is made with one text for both. -/
structure SchemaError where
  cause : Cause
  message : Option String
  code : Option String
  details : Details
  displayed : Option String := message
  deriving Repr

namespace SchemaError

/-- The kind of an error. -/
def kind (error : SchemaError) : ErrorKind := error.cause.kind

/-- What an error says: its message, or the bare word `None` if it has none. -/
def text (error : SchemaError) : String := error.message.getD (quoteOption none)

/-- What an error displays as a whole. -/
def display (error : SchemaError) : String := error.displayed.getD (quoteOption none)

/-- An error as an object with its code, message and details. -/
def toJson (error : SchemaError) : Json :=
  .object [("code", Json.ofOption error.code), ("message", Json.ofOption error.message),
    ("details", .object error.details)]

/-- The code of an error whose maker says nothing of a code. -/
def usualCode : ErrorKind → String
  | .general => "SCHEMACONV_ERROR"
  | .connection => "CONNECTION_ERROR"
  | .database => "DATABASE_ERROR"
  | .unsupportedDatabase => "UNSUPPORTED_DATABASE"
  | .introspection => "INTROSPECTION_ERROR"
  | .invalidNullability => "INVALID_NULLABILITY"
  | .typeNormalization => "TYPE_NORMALIZATION_ERROR"
  | .unknownArrayElement => "UNKNOWN_ARRAY_ELEMENT_TYPE"
  | .unrecognizedType => "UNRECOGNIZED_DATA_TYPE"

/-- An error with the usual code of its kind. -/
def ofCause (cause : Cause) (message : Option String) (details : Details) : SchemaError :=
  { cause, message, code := usualCode cause.kind, details }

/-! ### The kinds that any message may have -/

/-- An error of no special kind. -/
def ofGeneral (message code : Option String) (details : Details) : SchemaError :=
  { cause := .general, message, code, details }

/-- The database cannot be reached. -/
def ofConnection (message : Option String) (details : Details) (fault : Option DriverFault) :
    SchemaError :=
  ofCause (.connection fault) message details

/-- A query of the catalog failed. -/
def ofDatabase (message : Option String) (details : Details) (fault : Option DriverFault) :
    SchemaError :=
  ofCause (.database fault) message details

/-- The rows of the catalog are no table. -/
def ofIntrospection (message code : Option String) (details : Details) : SchemaError :=
  { cause := .introspection, message, code, details }

/-- A type of the catalog is no column type. -/
def ofTypeNormalization (message code : Option String) (details : Details) : SchemaError :=
  { cause := .typeNormalization none, message, code, details }

/-! ### The kinds that make their own message -/

/-- The end of a message that names a column. -/
def columnSuffix (columnName : Option String) : String :=
  " (column " ++ quoteOption columnName ++ ")"

/-- No reader handles the scheme of a URL. -/
def unsupportedDatabase (scheme : Option String) : SchemaError :=
  ofCause (.unsupportedDatabase scheme)
    ("Unsupported database URL scheme: " ++ quoteOption scheme)
    [("scheme", Json.ofOption scheme)]

/-- The nullability of a column is neither of the two words. -/
def invalidNullability (value columnName : Option String) : SchemaError :=
  let message := "Unexpected is_nullable value: " ++ quoteOption value
  ofCause (.invalidNullability value columnName)
    (if columnName.isSome then message ++ columnSuffix columnName else message)
    [("value", Json.ofOption value), ("column_name", Json.ofOption columnName)]

/-- The tag of an array names no known element type. -/
def unknownArrayElement (typeName : Option String) : SchemaError :=
  ofCause (.unknownArrayElement typeName none)
    ("Unknown array element type: " ++ quoteOption typeName)
    [("udt_name", Json.ofOption typeName)]

/-- A declared type is no canonical spelling. -/
def unrecognizedType (typeName : Option String) : SchemaError :=
  ofCause (.unrecognizedType typeName none)
    ("Unrecognized data type: " ++ quoteOption typeName)
    [("data_type", Json.ofOption typeName)]

/-! ### The column of an error -/

/-- The error with its column named in the cause, the message, the text it displays and the details.
Only an error of type normalization that names no column yet is changed. -/
def annotate (columnName : Option String) (error : SchemaError) : SchemaError :=
  match error.cause.named? columnName with
  | none => error
  | some cause =>
    let message := error.text ++ columnSuffix columnName
    { error with
      cause
      message
      displayed := message
      details := error.details.set "column_name" (Json.ofOption columnName) }

end SchemaError

end CatalogReader
