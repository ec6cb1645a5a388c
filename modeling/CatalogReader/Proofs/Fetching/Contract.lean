/-
The errors that a fetch promises: a connection that cannot be had, a query that fails, and rows that
are no table. The driver's faults in connecting and querying become such errors; the one call that
stands outside is the closing of the connection. With a driver that raises database errors only, and
a catalog whose records are rows, a fetch keeps its promise unless it comes to close a connection
and the closing fails, and then the driver's own fault gets out.
-/

import CatalogReader.Proofs.Fetching.Precedence
import CatalogReader.Session

namespace CatalogReader

/-! ### The promise -/

/-- The kinds of errors that a fetch promises. -/
def ErrorKind.IsPromised (kind : ErrorKind) : Prop :=
  kind = .connection ∨ kind = .database ∨ .introspection ∈ kind.lineage

/-- An ending that a fetch promises: a table, or an error of a promised kind. -/
def KeepsPromise : Except Failure Table → Prop
  | .ok _ => True
  | .error (.schema error) => error.kind.IsPromised
  | .error _ => False

/-- A server whose faults are database errors, all of them. -/
def Server.RaisesDatabaseErrors (server : Server) : Prop :=
  ∀ call fault, server.fault call = some fault → fault.isDatabaseError = true

/-- A server whose records of a table are rows, each with its six cells. -/
def Server.HasRows (server : Server) (name : TableName) : Prop :=
  ∀ record ∈ server.records name, ∃ row : CatalogRow, record = row.toRecord

/-! ### Errors of rows -/

theorem lineage_annotate (columnName : Option String) (error : SchemaError) :
    (error.annotate columnName).kind.lineage = error.kind.lineage := by
  obtain ⟨cause, message, code, details⟩ := error
  unfold SchemaError.annotate SchemaError.kind
  cases cause with
  | typeNormalization column => cases column <;> rfl
  | unknownArrayElement typeName column => cases column <;> rfl
  | unrecognizedType typeName column => cases column <;> rfl
  | _ => rfl

theorem introspection_of_normalizeType {dataType typeName : Option String} {error : SchemaError}
    (failed : Catalog.normalizeType dataType typeName = .error error) :
    .introspection ∈ error.kind.lineage := by
  have unknown : ErrorKind.introspection ∈ ErrorKind.lineage .unknownArrayElement := by decide
  have unrecognized : ErrorKind.introspection ∈ ErrorKind.lineage .unrecognizedType := by decide
  cases dataType with
  | none =>
    cases failed
    exact unrecognized
  | some declared =>
    unfold Catalog.normalizeType at failed
    by_cases array : declared = Catalog.arraySentinel
    · simp only [if_pos array] at failed
      cases element : typeName.bind Catalog.elementOfTag? with
      | none =>
        rw [element] at failed
        cases failed
        exact unknown
      | some type =>
        rw [element] at failed
        cases failed
    · simp only [if_neg array] at failed
      by_cases userDefined : declared = Catalog.userDefinedSentinel
      · rw [if_pos userDefined] at failed
        cases failed
      · rw [if_neg userDefined] at failed
        by_cases builtin : declared ∈ Catalog.opaqueBuiltins
        · rw [if_pos builtin] at failed
          cases failed
        · rw [if_neg builtin] at failed
          cases spelled : PortableType.ofSpelling? declared with
          | none =>
            rw [spelled] at failed
            cases failed
            exact unrecognized
          | some type =>
            rw [spelled] at failed
            cases failed

theorem introspection_of_columnOfRow {row : CatalogRow} {error : SchemaError}
    (failed : Catalog.columnOfRow row = .error error) : .introspection ∈ error.kind.lineage := by
  unfold Catalog.columnOfRow at failed
  split at failed
  · cases failed
    show ErrorKind.introspection ∈ ErrorKind.lineage .invalidNullability
    decide
  · split at failed
    case h_1 reason found =>
      cases failed
      rw [lineage_annotate]
      exact introspection_of_normalizeType found
    case h_2 => cases failed

theorem introspection_of_columnsOfRows {rows : List CatalogRow} {error : SchemaError}
    (failed : Catalog.columnsOfRows rows = .error error) : .introspection ∈ error.kind.lineage := by
  induction rows with
  | nil => cases failed
  | cons row rest inductionHypothesis =>
    unfold Catalog.columnsOfRows at failed
    cases converted : Catalog.columnOfRow row with
    | error reason =>
      rw [converted] at failed
      cases failed
      exact introspection_of_columnOfRow converted
    | ok column =>
      rw [converted] at failed
      cases others : Catalog.columnsOfRows rest with
      | error reason =>
        rw [others] at failed
        cases failed
        exact inductionHypothesis others
      | ok columns =>
        rw [others] at failed
        cases failed

/-- Rows that are no table are an error of introspection. -/
theorem keepsPromise_tableOfRows (name : String) (rows : List CatalogRow) :
    KeepsPromise ((Catalog.tableOfRows name rows).mapError .schema) := by
  unfold Catalog.tableOfRows
  cases converted : Catalog.columnsOfRows (Catalog.sortRows rows) with
  | error error => exact Or.inr (Or.inr (introspection_of_columnsOfRows converted))
  | ok columns => trivial

/-! ### Records that are rows -/

theorem mapM_ofRecord?_eq_some {records : List CatalogRecord}
    (whole : ∀ record ∈ records, ∃ row : CatalogRow, record = row.toRecord) :
    ∃ rows, records.mapM CatalogRow.ofRecord? = some rows := by
  induction records with
  | nil => exact ⟨[], rfl⟩
  | cons record rest inductionHypothesis =>
    obtain ⟨row, rfl⟩ := whole record List.mem_cons_self
    obtain ⟨rows, read⟩ :=
      inductionHypothesis fun other member => whole other (List.mem_cons_of_mem _ member)
    refine ⟨row :: rows, ?_⟩
    rw [List.mapM_cons, CatalogRow.ofRecord?_toRecord, read]
    rfl

theorem length_toRecord (row : CatalogRow) : row.toRecord.length = 6 := rfl

theorem shapeRule_of_hasRows {server : Server} {name : TableName} (asked : List Event)
    (whole : server.HasRows name) : shapeRule server name asked = none := by
  refine if_neg fun misshapen => ?_
  obtain ⟨record, member, cells⟩ := List.any_eq_true.mp misshapen
  obtain ⟨row, rfl⟩ := whole record member
  exact bne_iff_ne.mp cells (length_toRecord row)

theorem keepsPromise_tableRule {server : Server} {name : TableName} (asked : List Event)
    (whole : server.HasRows name) : KeepsPromise (tableRule server name asked).result := by
  obtain ⟨rows, read⟩ := mapM_ofRecord?_eq_some whole
  unfold tableRule Reader.rowsOfRecords
  rw [read]
  exact keepsPromise_tableOfRows name.table rows

/-! ### The exact condition -/

theorem seenAs_of_databaseError {error : SchemaError} {fault : DriverFault}
    (raised : fault.isDatabaseError = true) : seenAs error fault = .schema error :=
  if_pos raised

/-- While a connection is held, all depends on whether it can be closed. -/
theorem heldRules_verdict {server : Server} {name : TableName} (asked : List Event)
    (raised : server.RaisesDatabaseErrors) (whole : server.HasRows name) :
    ∃ verdict, (heldRules server name asked).findSome? id = some verdict ∧
      match server.fault .close with
      | some fault => verdict.result = .error (.driver fault)
      | none => KeepsPromise verdict.result := by
  unfold heldRules closeRule
  rw [shapeRule_of_hasRows asked whole]
  cases server.fault .close with
  | some fault => exact ⟨_, rfl, rfl⟩
  | none =>
    unfold queryRule
    cases query : (server.fault .cursor).or ((server.fault .execute).or (server.fault .fetch)) with
    | none => exact ⟨_, rfl, keepsPromise_tableRule asked whole⟩
    | some fault =>
      have wrapped : fault.isDatabaseError = true := by
        rcases Option.or_eq_some_iff.mp query with cursor | ⟨_, later⟩
        · exact raised _ _ cursor
        · rcases Option.or_eq_some_iff.mp later with execute | ⟨_, fetch⟩
          · exact raised _ _ execute
          · exact raised _ _ fetch
      refine ⟨_, rfl, ?_⟩
      show KeepsPromise (.error (seenAs (queryError name fault) fault))
      rw [seenAs_of_databaseError wrapped]
      exact Or.inr (Or.inl rfl)

/-- A URL for which a reader was made can be shown without its passwords. -/
theorem redact_of_ofUrl {url : String} {defaultSchema : Option String} {timeout : Option Int}
    {reader : Reader} (made : Reader.ofUrl url defaultSchema timeout = .ok reader) :
    ∃ target, Url.redact reader.url = .ok target := by
  unfold Reader.ofUrl Url.schemeOf at made
  cases read : Url.ofText url.toList with
  | error fault =>
    rw [read] at made
    cases made
  | ok parts =>
    rw [read] at made
    by_cases known : String.ofList parts.scheme ∈ Reader.schemes
    · simp only [Except.map, if_pos known] at made
      cases made
      refine ⟨String.ofList parts.masked.toText, ?_⟩
      show (Url.redactText url.toList).map String.ofList = _
      unfold Url.redactText
      rw [read]
      rfl
    · simp only [Except.map, if_neg known] at made
      cases made

/-- How a fetch over a connection ends: all depends on whether the connection can be closed. -/
theorem result_of_held (server : Server) (reader : Reader) (reference : String)
    (held : reader.connected = true) (raised : server.RaisesDatabaseErrors)
    (whole : server.HasRows (reader.resolve reference)) :
    match server.fault .close with
    | some fault => (reader.fetch server reference).result = .error (.driver fault)
    | none => KeepsPromise (reader.fetch server reference).result := by
  obtain ⟨verdict, found, ending⟩ :=
    heldRules_verdict ([] ++ queryEvents server (reader.resolve reference)) raised whole
  rw [findSome?_heldRules server reader reference [] held] at found
  cases found
  exact ending

/-- A fetch that has to connect first ends like one over the connection that it opened. -/
theorem result_of_opened {server : Server} {reader : Reader} {target : String} (reference : String)
    (free : reader.connected = false) (accepted : Url.redact reader.url = .ok target)
    (opened : server.fault .connect = none) :
    (reader.fetch server reference).result =
      ({ reader with connected := true }.fetch server reference).result :=
  congrArg Verdict.result (verdict_of_opened reference free accepted opened)

/-- A fetch that is refused a connection fails with an error of that. -/
theorem keepsPromise_of_refused {server : Server} {reader : Reader} {target : String}
    {fault : DriverFault} (reference : String) (free : reader.connected = false)
    (accepted : Url.redact reader.url = .ok target) (refused : server.fault .connect = some fault)
    (raised : server.RaisesDatabaseErrors) :
    KeepsPromise (reader.fetch server reference).result := by
  unfold Reader.fetch
  rw [Reader.connect_of_refused free accepted refused]
  show KeepsPromise (.error (seenAs (connectionError target fault) fault))
  rw [seenAs_of_databaseError (raised _ _ refused)]
  exact Or.inl rfl

/-- A reader that was made for a URL, with a connection or without one, keeps the promise of a fetch
exactly if it comes to no closing or the closing does not fail. It comes to one if a connection is
held already or can be opened. Where the closing fails, the driver's own fault gets out. -/
theorem fetch_keepsPromise_iff (server : Server) (url : String) (defaultSchema : Option String)
    (timeout : Option Int) (reader : Reader) (held : Bool) (reference : String)
    (made : Reader.ofUrl url defaultSchema timeout = .ok reader)
    (raised : server.RaisesDatabaseErrors) (whole : server.HasRows (reader.resolve reference)) :
    (KeepsPromise ({ reader with connected := held }.fetch server reference).result ↔
        ¬((held = true ∨ server.fault .connect = none) ∧ (server.fault .close).isSome = true)) ∧
      ∀ fault, server.fault .close = some fault → held = true ∨ server.fault .connect = none →
        ({ reader with connected := held }.fetch server reference).result =
          .error (.driver fault) := by
  obtain ⟨target, accepted⟩ := redact_of_ofUrl made
  have closing := result_of_held server { reader with connected := true } reference rfl raised whole
  have reached (connection : held = true ∨ server.fault .connect = none) :
      ({ reader with connected := held }.fetch server reference).result =
        ({ reader with connected := true }.fetch server reference).result := by
    cases held with
    | true => rfl
    | false =>
      rcases connection with contrary | opened
      · cases contrary
      · exact result_of_opened reference rfl accepted opened
  constructor
  · by_cases connection : held = true ∨ server.fault .connect = none
    · rw [reached connection]
      cases closed : server.fault .close with
      | none =>
        rw [closed] at closing
        exact ⟨fun _ failing => Bool.false_ne_true failing.2, fun _ => closing⟩
      | some fault =>
        simp only [closed] at closing
        rw [closing]
        exact ⟨fun kept => kept.elim, fun sound => (sound ⟨connection, rfl⟩).elim⟩
    · obtain ⟨free, refused⟩ := not_or.mp connection
      obtain ⟨fault, refused⟩ := Option.ne_none_iff_exists'.mp refused
      exact ⟨fun _ failing => connection failing.1, fun _ =>
        keepsPromise_of_refused reference (Bool.eq_false_iff.mpr free) accepted refused raised⟩
  · intro fault closed connection
    rw [reached connection]
    simp only [closed] at closing
    exact closing

/-- What a connection that is lost raises when it is to be closed. -/
def lostConnection : DriverFault := ⟨.operational, "server closed the connection unexpectedly"⟩

/-- The row of a column of numbers. -/
def numberRow : CatalogRow where
  columnName := "id"
  ordinalPosition := 1
  nullability := "NO"
  dataType := "bigint"
  typeSchema := "pg_catalog"
  typeName := "int8"

/-- A server with one sound table whose connections cannot be closed. -/
def unclosable : Server :=
  Server.empty.changes [.tables [⟨⟨"public", "users"⟩, [numberRow.toRecord]⟩],
    .fault .close (some lostConnection)]

theorem raisesDatabaseErrors_unclosable : unclosable.RaisesDatabaseErrors := by
  intro call fault raised
  cases call with
  | close =>
    cases raised
    rfl
  | connect | cursor | execute | fetch => cases raised

theorem hasRows_unclosable : unclosable.HasRows (Session.localReader.resolve "users") := by
  intro record member
  exact ⟨numberRow, List.mem_singleton.mp member⟩

/-- A reader that holds a connection, and the fault that gets out when that cannot be closed. -/
theorem fetch_keepsPromise_iff_unclosable :
    Reader.ofUrl "postgres://localhost/db" none none = .ok Session.localReader ∧
      unclosable.RaisesDatabaseErrors ∧ unclosable.HasRows (Session.localReader.resolve "users") ∧
      ({ Session.localReader with connected := true }.fetch unclosable "users").result =
        .error (.driver lostConnection) :=
  ⟨rfl, raisesDatabaseErrors_unclosable, hasRows_unclosable,
    (fetch_keepsPromise_iff unclosable "postgres://localhost/db" none none _ true "users" rfl
      raisesDatabaseErrors_unclosable hasRows_unclosable).2 lostConnection rfl (Or.inl rfl)⟩

/-- The promise is broken: all faults are database errors, the catalog is sound, and the fetch of a
new reader fails with what the driver raised in closing. -/
theorem fetch_breaks_promise :
    Reader.ofUrl "postgres://localhost/db" none none = .ok Session.localReader ∧
      unclosable.RaisesDatabaseErrors ∧ unclosable.HasRows (Session.localReader.resolve "users") ∧
      ¬KeepsPromise (Session.localReader.fetch unclosable "users").result :=
  ⟨rfl, raisesDatabaseErrors_unclosable, hasRows_unclosable, id⟩

end CatalogReader
