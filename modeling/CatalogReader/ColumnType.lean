/-
Column types that do not depend on one database: `DataType`, `ArrayType` and `OtherType`. A type is
portable, an array of another type, or another type that is kept under the name its database gives
it. The canonical text of an array is that of its element and a pair of brackets.
-/

namespace CatalogReader

/-! ### Portable types -/

/-- The types that every database knows. -/
inductive PortableType where
  | bigint
  | boolean
  | characterVarying
  | date
  | doublePrecision
  | integer
  | json
  | jsonb
  | numeric
  | real
  | smallint
  | text
  | timestampWithoutTimeZone
  | uuid
  deriving DecidableEq, Repr

namespace PortableType

/-- The portable types in the order of their spellings. -/
def all : List PortableType :=
  [bigint, boolean, characterVarying, date, doublePrecision, integer, json, jsonb, numeric, real,
    smallint, text, timestampWithoutTimeZone, uuid]

/-- The canonical spelling. -/
def spelling : PortableType → String
  | bigint => "bigint"
  | boolean => "boolean"
  | characterVarying => "character varying"
  | date => "date"
  | doublePrecision => "double precision"
  | integer => "integer"
  | json => "json"
  | jsonb => "jsonb"
  | numeric => "numeric"
  | real => "real"
  | smallint => "smallint"
  | text => "text"
  | timestampWithoutTimeZone => "timestamp without time zone"
  | uuid => "uuid"

/-- The type with a canonical spelling. -/
def ofSpelling? (word : String) : Option PortableType :=
  all.find? fun type => type.spelling == word

theorem mem_all (type : PortableType) : type ∈ all := by
  cases type <;> decide

theorem spelling_of_ofSpelling? (word : String) (type : PortableType)
    (found : ofSpelling? word = some type) : type.spelling = word := by
  simpa using List.find?_some found

theorem ofSpelling?_spelling (type : PortableType) : ofSpelling? type.spelling = some type := by
  cases type <;> decide

/-- No two portable types share a spelling. -/
theorem spelling_injective (left right : PortableType) (same : left.spelling = right.spelling) :
    left = right := by
  have found := ofSpelling?_spelling left
  rw [same, ofSpelling?_spelling right] at found
  exact (Option.some.inj found).symm

end PortableType

/-! ### Column types -/

/-- The type of a column. The catalog may leave out the name of another type. -/
inductive ColumnType where
  | portable (type : PortableType)
  | array (element : ColumnType)
  | other (name : Option String)
  deriving DecidableEq, Repr, Inhabited

/-- The canonical text, which a type has unless the name at its core is missing. -/
def ColumnType.text? : ColumnType → Option String
  | portable type => some type.spelling
  | array element => element.text?.map (· ++ "[]")
  | other name => name

end CatalogReader
