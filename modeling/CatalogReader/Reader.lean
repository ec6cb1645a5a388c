/-
Readers of a database's catalog: `TableIntrospector`, as `PostgresIntrospector` fills it in. A
reader holds at most one connection; each operation says how it ended, what the reader is
afterwards, what the driver was asked and what was logged. A fetch gives its connection back
whatever happens, and a fault in giving it back hides how the fetch ended.
-/

import CatalogReader.Catalog.Conversion
import CatalogReader.Database.Server
import CatalogReader.Failure
import CatalogReader.Log
import CatalogReader.SelectList
import CatalogReader.Url.Redaction

namespace CatalogReader

open CatalogReader.Text

/-- A reader: the database, how to connect to it, and whether a connection is held. -/
structure Reader where
  url : String
  defaultSchema : String
  connectTimeout : Option Int
  connected : Bool
  deriving DecidableEq, Repr

/-- How an operation of a reader went. -/
structure Outcome (Value : Type) where
  result : Except Failure Value
  reader : Reader
  events : List Event
  entries : List LogRecord

namespace Outcome

variable {Value Next : Type}

/-- An operation that asks nothing of the driver. -/
def quiet (result : Except Failure Value) (reader : Reader) : Outcome Value :=
  ⟨result, reader, [], []⟩

/-- An operation and, if it succeeds, the next one. -/
def andThen (first : Outcome Value) (next : Value → Reader → Outcome Next) : Outcome Next :=
  match first.result with
  | .error failure => ⟨.error failure, first.reader, first.events, first.entries⟩
  | .ok value =>
    let second := next value first.reader
    ⟨second.result, second.reader, first.events ++ second.events,
      first.entries ++ second.entries⟩

/-- An operation and, however it ends, a last one, whose failure counts more. -/
def closing (first : Outcome Value) (last : Reader → Outcome Unit) : Outcome Value :=
  let second := last first.reader
  let result :=
    match second.result with
    | .error failure => .error failure
    | .ok () => first.result
  ⟨result, second.reader, first.events ++ second.events, first.entries ++ second.entries⟩

end Outcome

namespace Reader

/-! ### New readers -/

/-- The schema of tables that are given without one, unless another is chosen. -/
def publicSchema : String := "public"

/-- A reader without a connection. -/
def make (url : String) (defaultSchema : Option String) (connectTimeout : Option Int) : Reader :=
  ⟨url, TableName.schemaOr publicSchema defaultSchema, connectTimeout, false⟩

/-- The schemes of the databases that can be read. -/
def schemes : List String := ["postgres", "postgresql"]

/-- A reader without a connection, if its database is one that can be read. -/
def ofUrl (url : String) (defaultSchema : Option String) (connectTimeout : Option Int) :
    Except Failure Reader :=
  match Url.schemeOf url with
  | .error fault => .error (.url fault)
  | .ok scheme =>
    if scheme ∈ schemes then .ok (make url defaultSchema connectTimeout)
    else .error (.schema (.unsupportedDatabase (some scheme)))

/-- The table that a reference stands for. -/
def resolve (reader : Reader) (reference : String) : TableName :=
  TableName.ofReference reader.defaultSchema reference

/-! ### Connections -/

/-- How a connection came about. -/
inductive Connected where
  /-- It was opened. -/
  | opened
  /-- It was held already. -/
  | reused
  deriving DecidableEq, Repr

/-- A message and the text of a fault, without blanks at both ends. -/
def messageOf (lead : String) (fault : DriverFault) : String :=
  String.ofList (trim (lead ++ ": " ++ fault.message).toList)

/-- The failure to connect to a target, by its URL without passwords. -/
def connectFailure (target : String) (fault : DriverFault) : Failure :=
  if fault.isDatabaseError then
    .schema (.ofConnection (messageOf "Error connecting to PostgreSQL" fault)
      [("target", .text target)] fault)
  else .driver fault

/-- Opens a connection, unless one is held. -/
def connect (server : Server) (reader : Reader) : Outcome Connected :=
  if reader.connected then .quiet (.ok .reused) reader
  else
    match Url.redact reader.url with
    | .error fault => .quiet (.error (.url fault)) reader
    | .ok target =>
      let entries := [⟨.debug, .connection, "Connecting to " ++ target⟩]
      match server.fault .connect with
      | some fault =>
        ⟨.error (connectFailure target fault), reader,
          [.connect reader.url reader.connectTimeout false], entries⟩
      | none =>
        ⟨.ok .opened, { reader with connected := true },
          [.connect reader.url reader.connectTimeout true], entries⟩

/-- Closes the connection, if one is held. A connection that cannot be closed stays held. -/
def close (server : Server) (reader : Reader) : Outcome Unit :=
  if reader.connected then
    match server.fault .close with
    | some fault => ⟨.error (.driver fault), reader, [.close false], []⟩
    | none => ⟨.ok (), { reader with connected := false }, [.close true], []⟩
  else .quiet (.ok ()) reader

/-! ### Queries -/

/-- The failure of a query for a table. -/
def queryFailure (name : TableName) (fault : DriverFault) : Failure :=
  if fault.isDatabaseError then
    .schema (.ofDatabase (messageOf ("Error querying columns of " ++ name.dotted) fault)
      [("schema", .text name.schema), ("table", .text name.table)] fault)
  else .driver fault

/-- The rows that records stand for, all of them or none. -/
def rowsOfRecords (records : List CatalogRecord) : Except Failure (List CatalogRow) :=
  match records.mapM CatalogRow.ofRecord? with
  | none => .error .malformedRecord
  | some rows => .ok rows

/-- The column that one record stands for. -/
def columnOfRecord (record : CatalogRecord) : Except Failure Column :=
  match CatalogRow.ofRecord? record with
  | none => .error .malformedRecord
  | some row => (Catalog.columnOfRow row).mapError .schema

/-- How a query for a table ends once it has a cursor. -/
def answer (server : Server) (name : TableName) : Except Failure (List CatalogRow) :=
  match server.fault .execute with
  | some fault => .error (queryFailure name fault)
  | none =>
    match server.fault .fetch with
    | some fault => .error (queryFailure name fault)
    | none => rowsOfRecords (server.records name)

/-- Queries the catalog for a table over the connection that is held. The cursor is given back
however the query ends. -/
def query (server : Server) (name : TableName) (reader : Reader) : Outcome (List CatalogRow) :=
  let entries :=
    [⟨.debug, .connection, "Querying " ++ Catalog.columnsView ++ " for " ++ name.dotted⟩]
  match server.fault .cursor with
  | some fault => ⟨.error (queryFailure name fault), reader, [], entries⟩
  | none => ⟨answer server name, reader, [.execute name, .cursorClosed], entries⟩

/-- The rows of a table. A connection is opened if none is held, and stays held. -/
def rows (server : Server) (name : TableName) (reader : Reader) : Outcome (List CatalogRow) :=
  (reader.connect server).andThen fun _ connected => connected.query server name

/-! ### Tables -/

/-- The table made from rows, with a warning if there are none. -/
def assemble (name : TableName) (rows : List CatalogRow) (reader : Reader) : Outcome Table :=
  let warnings :=
    if rows.isEmpty then [⟨.warning, .table, "No columns found for " ++ name.dotted⟩] else []
  match Catalog.tableOfRows name.table rows with
  | .error error => ⟨.error (.schema error), reader, [], warnings⟩
  | .ok table =>
    let count := toString table.columns.length
    ⟨.ok table, reader, [],
      warnings ++ [⟨.debug, .table, "Fetched " ++ count ++ " columns for " ++ name.dotted⟩]⟩

/-- Fetches a table. The connection is closed before any row is looked at. -/
def fetch (server : Server) (reference : String) (reader : Reader) : Outcome Table :=
  let name := reader.resolve reference
  (reader.connect server).andThen fun _ connected =>
    ((connected.rows server name).closing (close server)).andThen (assemble name)

/-- Fetches a table and leaves no connection behind. -/
def fetchOnce (server : Server) (reference : String) (reader : Reader) : Outcome Table :=
  (reader.fetch server reference).closing (close server)

end Reader

/-! ### Views of a table -/

/-- The names of a table's columns as the arguments of a `SELECT`. -/
def Table.selectList (table : Table) : Except Failure String :=
  match table.columns.mapM Column.name with
  | none => .error .namelessColumn
  | some names => .ok (SelectList.render names)

/-- The text of a table in the JSON format. -/
def Table.renderJson (table : Table) : Except Failure String :=
  match table.toJson? with
  | none => .error .namelessType
  | some value => .ok value.render

end CatalogReader
