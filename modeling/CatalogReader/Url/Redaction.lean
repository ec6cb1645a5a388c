/-
URLs without their passwords: `redact_database_url`. A database URL may carry a password in its user
information and in the fields of its query that are named `password`; both give way to three
asterisks. A query without such a field is kept as it was written.
-/

import CatalogReader.Url.Basic
import CatalogReader.Url.Query

namespace CatalogReader.Url

open CatalogReader.Text

/-- What stands in place of a password. -/
def mask : List Char := ['*', '*', '*']

/-- The name of the query fields that hold a password. -/
def passwordName : List Char := ['p', 'a', 's', 's', 'w', 'o', 'r', 'd']

/-- An authority whose password, if it has one, is masked. -/
def maskAuthority (authority : List Char) : List Char :=
  match cutLast? '@' authority with
  | none => authority
  | some (userInfo, place) =>
    match cutFirst? ':' userInfo with
    | none => authority
    | some (user, _) => user ++ ':' :: mask ++ '@' :: place

/-- A field whose value is masked if the field holds a password. -/
def maskField (field : Field) : Field :=
  if field.name = passwordName then { field with value := mask } else field

/-- A query whose passwords are masked. -/
def maskQuery (query : List Char) : List Char :=
  let fields := fieldsOfQuery query
  if fields.any fun field => field.name == passwordName then queryOfFields (fields.map maskField)
  else query

/-- A URL whose passwords are masked. -/
def masked (url : Url) : Url :=
  { url with authority := maskAuthority url.authority, query := maskQuery url.query }

/-- The text of a URL without its passwords, unless the text is refused. -/
def redactText (text : List Char) : Except Fault (List Char) :=
  (ofText text).map fun url => url.masked.toText

/-- The text of a URL without its passwords, unless the text is refused. -/
def redact (text : String) : Except Fault String :=
  (redactText text.toList).map String.ofList

/-- The scheme of a URL, in small letters, unless the text is refused. -/
def schemeOf (text : String) : Except Fault String :=
  (ofText text.toList).map fun url => String.ofList url.scheme

end CatalogReader.Url
