/-
Which fault of a fetch counts. Several calls of the driver may fail at once, and the URL and the
records may be bad besides; what the caller sees is decided by a list of rules, of which the first
one that applies has the say. A fault in closing stands before every fault of the query, since the
connection is closed however the query ends, and before every bad record, since no record is looked
at while the connection is held.
-/

import CatalogReader.Proofs.Connections.Course
import CatalogReader.Proofs.Fetching.Rows

namespace CatalogReader

open CatalogReader.Text

/-! ### The rules -/

/-- What becomes of a fetch: how it ends, whether its reader holds a connection afterwards, and what
the driver was asked. -/
structure Verdict where
  result : Except Failure Table
  held : Bool
  events : List Event

/-- A fault of the driver as the caller sees it: a database error is the cause of an error of
reading a schema, and any other fault stays what it is. -/
def seenAs (error : SchemaError) (fault : DriverFault) : Failure :=
  if fault.isDatabaseError then .schema error else .driver fault

/-- The error of a connection that was refused. It tells the target without its passwords. -/
def connectionError (target : String) (fault : DriverFault) : SchemaError where
  cause := .connection fault
  message := String.ofList (trim ("Error connecting to PostgreSQL: " ++ fault.message).toList)
  code := "CONNECTION_ERROR"
  details := [("target", .text target)]

/-- The error of a query that failed. It tells the table. -/
def queryError (name : TableName) (fault : DriverFault) : SchemaError where
  cause := .database fault
  message := String.ofList (trim
    ("Error querying columns of " ++ name.dotted ++ ": " ++ fault.message).toList)
  code := "DATABASE_ERROR"
  details := [("schema", .text name.schema), ("table", .text name.table)]

section Rules

variable (server : Server) (name : TableName) (reader : Reader) (asked : List Event)

/-- What is asked of the driver to open a connection, when none is held. -/
def openingEvents : List Event :=
  if reader.connected then [] else [.connect reader.url reader.connectTimeout true]

/-- What is asked of the driver by a query, which needs a cursor first. -/
def queryEvents : List Event :=
  match server.fault .cursor with
  | some _ => []
  | none => [.execute name, .cursorClosed]

/-- No connection is held and the URL is refused: that is the failure, and nothing is asked. -/
def urlRule : Option Verdict :=
  if reader.connected then none
  else
    match Url.ofText reader.url.toList with
    | .error fault => some ⟨.error (.url fault), false, []⟩
    | .ok _ => none

/-- No connection is held and none can be had: none is held afterwards, and none is closed. -/
def connectRule : Option Verdict :=
  if reader.connected then none
  else
    match Url.redact reader.url, server.fault .connect with
    | .ok target, some fault =>
      some ⟨.error (seenAs (connectionError target fault) fault), false,
        [.connect reader.url reader.connectTimeout false]⟩
    | _, _ => none

/-- The connection cannot be closed: that fault is seen as it is, and the connection stays held. -/
def closeRule : Option Verdict :=
  (server.fault .close).map fun fault => ⟨.error (.driver fault), true, asked ++ [.close false]⟩

/-- The first fault of the query: getting a cursor, or else executing, or else fetching. -/
def queryRule : Option Verdict :=
  ((server.fault .cursor).or ((server.fault .execute).or (server.fault .fetch))).map fun fault =>
    ⟨.error (seenAs (queryError name fault) fault), false, asked ++ [.close true]⟩

/-- A record has more or fewer than six cells. -/
def shapeRule : Option Verdict :=
  if (server.records name).any fun record => record.length != 6 then
    some ⟨.error .malformedRecord, false, asked ++ [.close true]⟩
  else none

/-- The table of the rows that the records are, or the error of the first row that is no column. -/
def tableRule : Verdict where
  result := (Reader.rowsOfRecords (server.records name)).bind fun rows =>
    (Catalog.tableOfRows name.table rows).mapError .schema
  held := false
  events := asked ++ [.close true]

/-- The rules while a connection is held, after some events. -/
def heldRules : List (Option Verdict) :=
  [closeRule server asked, queryRule server name asked, shapeRule server name asked,
    some (tableRule server name asked)]

/-- The rules of a fetch in their order. -/
def fetchRules : List (Option Verdict) :=
  urlRule reader :: connectRule server reader ::
    heldRules server name (openingEvents reader ++ queryEvents server name)

end Rules

/-- What becomes of an operation that follows some events. -/
def Outcome.verdict (earlier : List Event) (outcome : Outcome Table) : Verdict :=
  ⟨outcome.result, outcome.reader.connected, earlier ++ outcome.events⟩

/-! ### The parts of a fetch -/

theorem mapM_ofRecord?_eq_none {records : List CatalogRecord}
    (misshapen : (records.any fun record => record.length != 6) = true) :
    records.mapM CatalogRow.ofRecord? = none := by
  induction records with
  | nil => cases misshapen
  | cons record rest inductionHypothesis =>
    rw [List.mapM_cons]
    cases record with
    | misshapen cells other => rfl
    | row row =>
      rw [inductionHypothesis misshapen]
      rfl

/-- One record of another length spoils all rows. -/
theorem rowsOfRecords_of_misshapen {records : List CatalogRecord}
    (misshapen : (records.any fun record => record.length != 6) = true) :
    Reader.rowsOfRecords records = .error .malformedRecord := by
  unfold Reader.rowsOfRecords
  rw [mapM_ofRecord?_eq_none misshapen]

/-- Records of the length of rows are rows. -/
theorem exists_rows_of_shape {records : List CatalogRecord}
    (shaped : (records.any fun record => record.length != 6) = false) :
    ∃ rows : List CatalogRow, records = rows.map CatalogRow.toRecord := by
  induction records with
  | nil => exact ⟨[], rfl⟩
  | cons record rest inductionHypothesis =>
    rw [List.any_cons, Bool.or_eq_false_iff] at shaped
    cases record with
    | misshapen cells other => exact absurd (bne_eq_false_iff_eq.mp shaped.1) other
    | row row =>
      obtain ⟨rows, rfl⟩ := inductionHypothesis shaped.2
      exact ⟨row :: rows, rfl⟩

theorem Reader.rowsOfRecords_map_toRecord (rows : List CatalogRow) :
    rowsOfRecords (rows.map CatalogRow.toRecord) = .ok rows := by
  have read : (rows.map CatalogRow.toRecord).mapM CatalogRow.ofRecord? = some rows := by
    induction rows with
    | nil => rfl
    | cons row rest inductionHypothesis =>
      rw [List.map_cons, List.mapM_cons, inductionHypothesis]
      rfl
  unfold rowsOfRecords
  rw [read]

namespace Reader

variable {server : Server} {reader : Reader} {reference : String}

theorem connect_of_held (held : reader.connected = true) :
    reader.connect server = .quiet (.ok .reused) reader :=
  if_pos held

theorem connect_of_refused {fault : DriverFault} {target : String}
    (free : reader.connected = false) (accepted : Url.redact reader.url = .ok target)
    (refused : server.fault .connect = some fault) :
    reader.connect server =
      ⟨.error (seenAs (connectionError target fault) fault), reader,
        [.connect reader.url reader.connectTimeout false],
        [⟨.debug, .connection, "Connecting to " ++ target⟩]⟩ := by
  unfold connect
  rw [if_neg (Bool.eq_false_iff.mp free), accepted, refused]
  rfl

theorem connect_of_opened {target : String} (free : reader.connected = false)
    (accepted : Url.redact reader.url = .ok target) (opened : server.fault .connect = none) :
    reader.connect server =
      ⟨.ok .opened, { reader with connected := true },
        [.connect reader.url reader.connectTimeout true],
        [⟨.debug, .connection, "Connecting to " ++ target⟩]⟩ := by
  unfold connect
  rw [if_neg (Bool.eq_false_iff.mp free), accepted, opened]

theorem connect_of_badUrl {fault : Url.Fault} (free : reader.connected = false)
    (bad : Url.redact reader.url = .error fault) :
    reader.connect server = .quiet (.error (.url fault)) reader := by
  unfold connect
  rw [if_neg (Bool.eq_false_iff.mp free), bad]

/-- A fetch over a connection that is held: the query, the closing, and then the table. -/
theorem fetch_of_held (held : reader.connected = true) :
    reader.fetch server reference =
      ((reader.query server (reader.resolve reference)).closing (close server)).andThen
        (assemble (reader.resolve reference)) := by
  have connected : reader.connect server = .quiet (.ok .reused) reader := connect_of_held held
  unfold fetch rows
  rw [connected]
  show (((reader.connect server).andThen fun _ connected => _).closing _).andThen _ = _
  rw [connected]
  rfl

/-- A query and the closing after it, by the faults of both. A fault in closing hides the query. -/
theorem query_closing (name : TableName) (held : reader.connected = true) :
    ((reader.query server name).closing (close server)).result =
        (match server.fault .close with
        | some fault => .error (.driver fault)
        | none => (reader.query server name).result) ∧
      ((reader.query server name).closing (close server)).reader.connected =
        (server.fault .close).isSome ∧
      ((reader.query server name).closing (close server)).events =
        queryEvents server name ++ [.close (server.fault .close).isNone] := by
  have kept : (reader.query server name).reader = reader := by
    unfold query
    cases server.fault .cursor <;> rfl
  have asked : (reader.query server name).events = queryEvents server name := by
    unfold query queryEvents
    cases server.fault .cursor <;> rfl
  unfold Outcome.closing
  rw [kept, asked]
  unfold close
  rw [if_pos held]
  cases server.fault .close with
  | some fault => exact ⟨rfl, held, rfl⟩
  | none => exact ⟨rfl, rfl, rfl⟩

/-- How a query ends: by the first of its three faults, or else by the shape of the records. -/
theorem query_result (name : TableName) :
    (reader.query server name).result =
      match (server.fault .cursor).or ((server.fault .execute).or (server.fault .fetch)) with
      | some fault => .error (seenAs (queryError name fault) fault)
      | none => rowsOfRecords (server.records name) := by
  unfold query answer
  cases server.fault .cursor with
  | some fault => rfl
  | none =>
    cases server.fault .execute with
    | some fault => rfl
    | none => cases server.fault .fetch <;> rfl

theorem assemble_result (name : TableName) (rows : List CatalogRow) :
    (assemble name rows reader).result =
      (Catalog.tableOfRows name.table rows).mapError .schema := by
  unfold assemble
  cases Catalog.tableOfRows name.table rows <;> rfl

theorem assemble_reader (name : TableName) (rows : List CatalogRow) :
    (assemble name rows reader).reader = reader := by
  unfold assemble
  cases Catalog.tableOfRows name.table rows <;> rfl

theorem assemble_events (name : TableName) (rows : List CatalogRow) :
    (assemble name rows reader).events = [] := by
  unfold assemble
  cases Catalog.tableOfRows name.table rows <;> rfl

end Reader

/-- An operation and the making of a table after it: the operation decides all but a table. -/
theorem verdict_andThen_assemble (earlier : List Event) (name : TableName)
    (outcome : Outcome (List CatalogRow)) :
    (outcome.andThen (Reader.assemble name)).verdict earlier =
      ⟨outcome.result.bind fun rows => (Catalog.tableOfRows name.table rows).mapError .schema,
        outcome.reader.connected, earlier ++ outcome.events⟩ := by
  unfold Outcome.andThen Outcome.verdict
  cases outcome.result with
  | error failure => rfl
  | ok rows =>
    simp only [Reader.assemble_result, Reader.assemble_reader, Reader.assemble_events,
      List.append_nil]
    rfl

/-- While a connection is held, the first of the four rules decides. -/
theorem findSome?_heldRules (server : Server) (reader : Reader) (reference : String)
    (earlier : List Event) (held : reader.connected = true) :
    (heldRules server (reader.resolve reference)
        (earlier ++ queryEvents server (reader.resolve reference))).findSome? id =
      some ((reader.fetch server reference).verdict earlier) := by
  obtain ⟨result, connected, events⟩ :=
    @Reader.query_closing server reader (reader.resolve reference) held
  rw [Reader.fetch_of_held held, verdict_andThen_assemble, result, connected, events,
    Reader.query_result, ← List.append_assoc]
  unfold heldRules closeRule queryRule shapeRule tableRule
  cases server.fault .close with
  | some fault => rfl
  | none =>
    cases (server.fault .cursor).or ((server.fault .execute).or (server.fault .fetch)) with
    | some fault => rfl
    | none =>
      by_cases misshapen :
          (server.records (reader.resolve reference)).any (fun record => record.length != 6) = true
      · rw [if_pos misshapen, rowsOfRecords_of_misshapen misshapen]
        rfl
      · rw [if_neg misshapen]
        rfl

/-- A fetch that has to connect first goes on as one over the connection that it opened. -/
theorem verdict_of_opened {server : Server} {reader : Reader} {target : String}
    (reference : String) (free : reader.connected = false)
    (accepted : Url.redact reader.url = .ok target) (opened : server.fault .connect = none) :
    (reader.fetch server reference).verdict [] =
      ({ reader with connected := true }.fetch server reference).verdict
        [.connect reader.url reader.connectTimeout true] := by
  have first := Reader.connect_of_opened free accepted opened
  have second : Reader.connect server { reader with connected := true } =
      .quiet (.ok .reused) { reader with connected := true } := rfl
  unfold Reader.fetch
  rw [first, second]
  rfl

/-- The rule that decides a fetch is the first that applies. -/
theorem findSome?_fetchRules (server : Server) (reader : Reader) (reference : String) :
    (fetchRules server (reader.resolve reference) reader).findSome? id =
      some ((reader.fetch server reference).verdict []) := by
  unfold fetchRules urlRule connectRule openingEvents
  cases held : reader.connected with
  | true => exact findSome?_heldRules server reader reference [] held
  | false =>
    cases read : Url.ofText reader.url.toList with
    | error fault =>
      have bad : Url.redact reader.url = .error fault := by
        unfold Url.redact Url.redactText
        rw [read]
        rfl
      unfold Reader.fetch
      rw [Reader.connect_of_badUrl held bad]
      show some _ = some (Verdict.mk _ reader.connected _)
      rw [held]
      rfl
    | ok url =>
      have accepted : Url.redact reader.url = .ok (String.ofList url.masked.toText) := by
        unfold Url.redact Url.redactText
        rw [read]
        rfl
      rw [accepted]
      cases refused : server.fault .connect with
      | some fault =>
        unfold Reader.fetch
        rw [Reader.connect_of_refused held accepted refused]
        show some _ = some (Verdict.mk _ reader.connected _)
        rw [held]
        rfl
      | none =>
        rw [verdict_of_opened reference held accepted refused]
        exact findSome?_heldRules server { reader with connected := true } reference
          [.connect reader.url reader.connectTimeout true] rfl

/-- The last rule applies to records that are rows, and says what these assemble to. -/
theorem assembles_tableRule {server : Server} {name : TableName} {asked : List Event}
    (shaped : shapeRule server name asked = none) :
    ∃ rows, server.records name = rows.map CatalogRow.toRecord ∧
      Catalog.Assembles name.table rows (tableRule server name asked).result := by
  unfold shapeRule at shaped
  split at shaped
  case isTrue => cases shaped
  case isFalse whole =>
    obtain ⟨rows, told⟩ := exists_rows_of_shape (Bool.eq_false_iff.mpr whole)
    refine ⟨rows, told, ?_⟩
    unfold tableRule
    rw [told, Reader.rowsOfRecords_map_toRecord]
    exact Catalog.assembles_tableOfRows name.table rows

/-- Whatever the URL, the table, the catalog and the faults of the driver are, and whether a
connection is held before or not: how a fetch ends, what it asks of the driver and whether its
reader holds a connection afterwards is what the first rule says that applies, and nothing else of
the reader changes. Where the last rule comes up, the records are rows, and what it says is the
table of all these rows in the order of their positions, or the error of the first of them that is
no column. -/
theorem fetch_follows_first_rule (server : Server) (reader : Reader) (reference : String) :
    (∃ verdict, (fetchRules server (reader.resolve reference) reader).findSome? id = some verdict ∧
      (reader.fetch server reference).result = verdict.result ∧
      (reader.fetch server reference).events = verdict.events ∧
      (reader.fetch server reference).reader = { reader with connected := verdict.held }) ∧
    ∀ asked, shapeRule server (reader.resolve reference) asked = none →
      ∃ rows, server.records (reader.resolve reference) = rows.map CatalogRow.toRecord ∧
        Catalog.Assembles (reader.resolve reference).table rows
          (tableRule server (reader.resolve reference) asked).result :=
  ⟨⟨_, findSome?_fetchRules server reader reference, rfl, rfl,
      (Reader.sound_fetch server reader reference).same⟩,
    fun _ shaped => assembles_tableRule shaped⟩

end CatalogReader
