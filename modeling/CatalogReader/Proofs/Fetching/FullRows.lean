/-
Catalogs without nulls. When every record of a catalog is a row whose texts are all there, each
column of a table that is fetched has a name and a type with a text, so there is nothing in it that
a form could fail to show.
-/

import CatalogReader.Proofs.Fetching.Precedence
import CatalogReader.Proofs.Fetching.RowOrder

namespace CatalogReader

/-! ### Full rows -/

/-- A row that leaves nothing out. -/
structure CatalogRow.IsFull (row : CatalogRow) : Prop where
  columnName : row.columnName.isSome = true
  nullability : row.nullability.isSome = true
  dataType : row.dataType.isSome = true
  typeSchema : row.typeSchema.isSome = true
  typeName : row.typeName.isSome = true

/-- A server whose records are rows that leave nothing out. -/
def Server.HasFullRows (server : Server) : Prop :=
  ∀ table ∈ server.tables, ∀ record ∈ table.records,
    ∃ row : CatalogRow, record = row.toRecord ∧ row.IsFull

theorem Server.HasFullRows.records {server : Server} (full : server.HasFullRows)
    (name : TableName) {record : CatalogRecord} (member : record ∈ server.records name) :
    ∃ row : CatalogRow, record = row.toRecord ∧ row.IsFull := by
  unfold Server.records at member
  cases found : server.tables.find? fun table => table.name == name with
  | none =>
    rw [found] at member
    cases member
  | some table =>
    rw [found] at member
    exact full table (List.mem_of_find?_eq_some found) record member

/-! ### Columns that can be shown -/

/-- A column that has a name and a type with a text. -/
structure Column.IsShowable (column : Column) : Prop where
  name : column.name.isSome = true
  type : column.type.text?.isSome = true

namespace Catalog

/-- The type of a full row has a text. -/
theorem text?_of_normalizeType {dataType typeName : Option String} {type : ColumnType}
    (given : typeName.isSome = true) (normalized : normalizeType dataType typeName = .ok type) :
    type.text?.isSome = true := by
  cases dataType with
  | none => cases normalized
  | some declared =>
    unfold normalizeType at normalized
    dsimp only at normalized
    split at normalized
    · split at normalized
      · cases normalized
      · cases normalized
        rfl
    · split at normalized
      · cases normalized
        exact given
      · split at normalized
        · cases normalized
          rfl
        · split at normalized
          · cases normalized
          · cases normalized
            rfl

theorem isShowable_of_columnOfRow {row : CatalogRow} {column : Column} (full : row.IsFull)
    (made : columnOfRow row = .ok column) : column.IsShowable := by
  unfold columnOfRow at made
  split at made
  · cases made
  · split at made
    · cases made
    case h_2 type normalized =>
      cases made
      exact ⟨full.columnName, text?_of_normalizeType full.typeName normalized⟩

theorem exists_row_of_columnsOfRows {rows : List CatalogRow} {columns : List Column}
    (made : columnsOfRows rows = .ok columns) {column : Column} (member : column ∈ columns) :
    ∃ row ∈ rows, columnOfRow row = .ok column := by
  induction rows generalizing columns with
  | nil =>
    cases made
    cases member
  | cons row rest inductionHypothesis =>
    unfold columnsOfRows at made
    cases first : columnOfRow row with
    | error error =>
      rw [first] at made
      cases made
    | ok own =>
      rw [first] at made
      cases later : columnsOfRows rest with
      | error error =>
        rw [later] at made
        cases made
      | ok others =>
        rw [later] at made
        cases made
        rcases List.mem_cons.mp member with rfl | inRest
        · exact ⟨row, List.mem_cons_self, first⟩
        · obtain ⟨found, inRows, same⟩ := inductionHypothesis later inRest
          exact ⟨found, List.mem_cons_of_mem row inRows, same⟩

theorem exists_row_of_tableOfRows {name : String} {rows : List CatalogRow} {table : Table}
    (made : tableOfRows name rows = .ok table) {column : Column} (member : column ∈ table.columns) :
    ∃ row ∈ rows, columnOfRow row = .ok column := by
  unfold tableOfRows at made
  cases columns : columnsOfRows (sortRows rows) with
  | error error =>
    rw [columns] at made
    cases made
  | ok found =>
    rw [columns] at made
    cases made
    obtain ⟨row, inSorted, same⟩ := exists_row_of_columnsOfRows columns member
    exact ⟨row, (sortRows_perm rows).mem_iff.mp inSorted, same⟩

end Catalog

/-! ### Fetched tables -/

theorem Outcome.result_of_andThen {Value Next : Type} {first : Outcome Value}
    {next : Value → Reader → Outcome Next} {value : Next}
    (ended : (first.andThen next).result = .ok value) :
    ∃ found, first.result = .ok found ∧ (next found first.reader).result = .ok value := by
  unfold andThen at ended
  cases own : first.result with
  | error failure =>
    rw [own] at ended
    cases ended
  | ok found =>
    rw [own] at ended
    exact ⟨found, rfl, ended⟩

theorem Outcome.result_of_closing {Value : Type} {first : Outcome Value}
    {last : Reader → Outcome Unit} {value : Value}
    (ended : (first.closing last).result = .ok value) : first.result = .ok value := by
  unfold closing at ended
  dsimp only at ended
  split at ended
  · cases ended
  · exact ended

namespace Reader

variable {server : Server} {reader : Reader} {reference : String}

/-- A table that is fetched is made from the records of the catalog, and all of them are rows. -/
theorem tableOfRows_of_fetch {table : Table}
    (fetched : (reader.fetch server reference).result = .ok table) :
    ∃ rows, rowsOfRecords (server.records (reader.resolve reference)) = .ok rows ∧
      Catalog.tableOfRows (reader.resolve reference).table rows = .ok table := by
  obtain ⟨_, -, fetched⟩ := Outcome.result_of_andThen fetched
  obtain ⟨rows, closed, assembled⟩ := Outcome.result_of_andThen fetched
  obtain ⟨_, -, queried⟩ := Outcome.result_of_andThen (Outcome.result_of_closing closed)
  rw [query_result] at queried
  rw [assemble_result] at assembled
  refine ⟨rows, ?_, ?_⟩
  · split at queried
    · cases queried
    · exact queried
  · cases made : Catalog.tableOfRows (reader.resolve reference).table rows with
    | error error =>
      rw [made] at assembled
      cases assembled
    | ok found =>
      rw [made] at assembled
      exact congrArg Except.ok (Except.ok.inj assembled)

/-- All columns of a table that is fetched from a catalog without nulls can be shown. -/
theorem isShowable_of_fetch (full : server.HasFullRows) {table : Table}
    (fetched : (reader.fetch server reference).result = .ok table) :
    ∀ column ∈ table.columns, column.IsShowable := by
  intro column member
  obtain ⟨rows, read, made⟩ := tableOfRows_of_fetch fetched
  obtain ⟨row, inRows, converted⟩ := Catalog.exists_row_of_tableOfRows made member
  rw [rowsOfRecords_eq] at read
  split at read
  · obtain rfl := Except.ok.inj read
    obtain ⟨record, inRecords, same⟩ := List.mem_filterMap.mp inRows
    obtain ⟨own, rfl, fullRow⟩ := full.records _ inRecords
    rw [CatalogRow.ofRecord?_toRecord] at same
    obtain rfl := Option.some.inj same
    exact Catalog.isShowable_of_columnOfRow fullRow converted
  · cases read

end Reader

end CatalogReader
