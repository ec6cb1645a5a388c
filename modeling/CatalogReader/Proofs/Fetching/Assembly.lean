/-
Fetched tables. When no fault comes up, a fetch ends with what is made of the rows that the catalog
tells: the table of all of them, or the error of the first one that is no column.
-/

import CatalogReader.Proofs.Fetching.Contract
import CatalogReader.Proofs.Fetching.RowOrder

namespace CatalogReader

/-- No fault comes up: a connection is held or can be had, and all calls after it succeed. -/
structure Server.Undisturbed (server : Server) (reader : Reader) : Prop where
  connects : reader.connected = true ∨
    server.fault .connect = none ∧ ∃ target, Url.redact reader.url = .ok target
  answers : ∀ call, call ≠ .connect → server.fault call = none

theorem result_of_answers {server : Server} {reader : Reader} {reference : String}
    {rows : List CatalogRow} (held : reader.connected = true)
    (answers : ∀ call, call ≠ .connect → server.fault call = none)
    (told : Reader.rowsOfRecords (server.records (reader.resolve reference)) = .ok rows) :
    (reader.fetch server reference).result =
      (Catalog.tableOfRows (reader.resolve reference).table rows).mapError .schema := by
  have queried := (@Reader.query_closing server reader (reader.resolve reference) held).1
  rw [answers .close nofun, Reader.query_result, answers .cursor nofun, answers .execute nofun,
    answers .fetch nofun] at queried
  have assembled := congrArg Verdict.result
    (verdict_andThen_assemble [] (reader.resolve reference)
      ((reader.query server (reader.resolve reference)).closing (Reader.close server)))
  rw [queried, ← Reader.fetch_of_held held] at assembled
  dsimp only [Option.or] at assembled
  rw [told] at assembled
  exact assembled

/-- Without a fault it is the rows that decide how a fetch ends. -/
theorem result_of_undisturbed {server : Server} {reader : Reader} {reference : String}
    {rows : List CatalogRow} (undisturbed : server.Undisturbed reader)
    (told : Reader.rowsOfRecords (server.records (reader.resolve reference)) = .ok rows) :
    (reader.fetch server reference).result =
      (Catalog.tableOfRows (reader.resolve reference).table rows).mapError .schema := by
  cases held : reader.connected with
  | true => exact result_of_answers held undisturbed.answers told
  | false =>
    rcases undisturbed.connects with contrary | ⟨opened, target, accepted⟩
    · exact absurd (held.symm.trans contrary) Bool.false_ne_true
    · rw [result_of_opened reference held accepted opened]
      exact result_of_answers rfl undisturbed.answers told

/-- Whatever rows of a table the catalog tells, in whatever order, with whichever positions and
nulls in them: when no fault comes up, a fetch ends with the table of all these rows, sorted by
position and by arrival, if each of them is a column, and otherwise with the error of the first
one that is none. -/
theorem fetch_assembles_rows {server : Server} {reader : Reader} {reference : String}
    {rows : List CatalogRow} (undisturbed : server.Undisturbed reader)
    (told : server.records (reader.resolve reference) = rows.map CatalogRow.toRecord) :
    Catalog.Assembles (reader.resolve reference).table rows
      (reader.fetch server reference).result := by
  rw [result_of_undisturbed undisturbed (told ▸ Reader.rowsOfRecords_map_toRecord rows)]
  exact Catalog.assembles_tableOfRows _ rows

/-- Rows of which the last two share the smallest position, and none but the first is a column. -/
def tiedRows : List CatalogRow :=
  [⟨"id", 3, "NO", "bigint", "pg_catalog", "int8"⟩,
    ⟨"price", 2, "YES", "money", "pg_catalog", "money"⟩,
    ⟨none, -1, "MAYBE", "ARRAY", "pg_catalog", "_money"⟩,
    ⟨"tags", -1, "NO", "ARRAY", "pg_catalog", none⟩]

theorem fetch_assembles_rows_tied :
    (CommandLine.serverOf (tiedRows.map CatalogRow.toRecord)).Undisturbed Session.localReader ∧
      (CommandLine.serverOf (tiedRows.map CatalogRow.toRecord)).records
          (Session.localReader.resolve "t") = tiedRows.map CatalogRow.toRecord ∧
      Catalog.Assembles "t" tiedRows
        (Session.localReader.fetch (CommandLine.serverOf (tiedRows.map CatalogRow.toRecord))
          "t").result := by
  have undisturbed :
      (CommandLine.serverOf (tiedRows.map CatalogRow.toRecord)).Undisturbed Session.localReader :=
    ⟨.inr ⟨rfl, _, rfl⟩, fun _ _ => rfl⟩
  have told : (CommandLine.serverOf (tiedRows.map CatalogRow.toRecord)).records
      (Session.localReader.resolve "t") = tiedRows.map CatalogRow.toRecord := rfl
  exact ⟨undisturbed, told, fetch_assembles_rows undisturbed told⟩

end CatalogReader
