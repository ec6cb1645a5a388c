/-
Catalogs that tell the rows of their tables in different orders. While no two rows of a table share
a position, sorting by position leaves nothing of the order in which they came, and no row is looked
at before it is sorted: a query counts the cells of all records, and what is logged about rows is
whether there are any. So a fetch cannot tell two such catalogs apart, be it by its table, by the
column that an error blames, by its log or by what it asks of the driver, and the program ends the
same on both.
-/

import CatalogReader.CommandLine.Run
import CatalogReader.Proofs.Fetching.Rows

namespace CatalogReader

/-! ### Catalogs in two orders -/

/-- The same table, whose records come in any two orders. -/
structure CatalogTable.Permuted (first second : CatalogTable) : Prop where
  name : first.name = second.name
  records : first.records.Perm second.records

/-- Servers that fail alike and have the same tables, with records that come in any two orders. -/
structure Server.Permuted (first second : Server) : Prop where
  tables : List.Forall₂ CatalogTable.Permuted first.tables second.tables
  fault : first.fault = second.fault

/-- The positions of the rows that records stand for. -/
def positions (records : List CatalogRecord) : List Int :=
  (records.filterMap CatalogRow.ofRecord?).map CatalogRow.ordinalPosition

/-- A server in whose tables no two rows share a position. -/
def Server.HasDistinctPositions (server : Server) : Prop :=
  ∀ table ∈ server.tables, (positions table.records).Nodup

theorem Server.Permuted.records {first second : Server} (permuted : first.Permuted second)
    (name : TableName) : (first.records name).Perm (second.records name) := by
  have tables := permuted.tables
  unfold Server.records
  generalize first.tables = firstTables at tables ⊢
  generalize second.tables = secondTables at tables ⊢
  induction tables with
  | nil => exact .refl _
  | cons head _ inductionHypothesis =>
    rw [List.find?_cons, List.find?_cons, head.name]
    split
    · exact head.records
    · exact inductionHypothesis

theorem Server.HasDistinctPositions.records {server : Server}
    (distinct : server.HasDistinctPositions) (name : TableName) :
    (positions (server.records name)).Nodup := by
  unfold Server.records
  cases found : server.tables.find? fun table => table.name == name with
  | none => exact List.nodup_nil
  | some table => exact distinct table (List.mem_of_find?_eq_some found)

/-! ### Rows in two orders -/

namespace Catalog

theorem pairwise_sortRows (rows : List CatalogRow) :
    (sortRows rows).Pairwise fun left right => left.ordinalPosition ≤ right.ordinalPosition := by
  refine (List.pairwise_mergeSort ?_ ?_ rows).imp of_decide_eq_true
  · intro first second third before after
    rw [decide_eq_true_eq] at before after ⊢
    exact Int.le_trans before after
  · intro first second
    rw [Bool.or_eq_true, decide_eq_true_eq, decide_eq_true_eq]
    exact Int.le_total _ _

/-- Rows that share no position are sorted the same, in whatever order they come. -/
theorem sortRows_eq_of_perm {first second : List CatalogRow} (permuted : first.Perm second)
    (distinct : (first.map CatalogRow.ordinalPosition).Nodup) :
    sortRows first = sortRows second := by
  refine List.Perm.eq_of_pairwise ?_ (pairwise_sortRows first) (pairwise_sortRows second)
    ((sortRows_perm first).trans (permuted.trans (sortRows_perm second).symm))
  intro left right inFirst inSecond before after
  -- Two rows of one position are one row, since both are among the rows of the first list.
  exact List.inj_on_of_nodup_map distinct ((sortRows_perm first).mem_iff.mp inFirst)
    (permuted.mem_iff.mpr ((sortRows_perm second).mem_iff.mp inSecond))
    (Int.le_antisymm before after)

theorem tableOfRows_eq_of_perm {first second : List CatalogRow} (name : String)
    (permuted : first.Perm second)
    (distinct : (first.map CatalogRow.ordinalPosition).Nodup) :
    tableOfRows name first = tableOfRows name second := by
  unfold tableOfRows
  rw [sortRows_eq_of_perm permuted distinct]

end Catalog

/-! ### Queries in two orders -/

/-- Ends of a query in two orders: the same failure, or the same rows, no two of one position. -/
inductive PermutedRows : (first second : Except Failure (List CatalogRow)) → Prop
  | error (failure : Failure) : PermutedRows (.error failure) (.error failure)
  | ok {first second : List CatalogRow} (permuted : first.Perm second)
      (distinct : (first.map CatalogRow.ordinalPosition).Nodup) :
      PermutedRows (.ok first) (.ok second)

/-- Operations that differ in nothing but the order of the rows they end with. -/
structure Outcome.Permuted (first second : Outcome (List CatalogRow)) : Prop where
  result : PermutedRows first.result second.result
  reader : first.reader = second.reader
  events : first.events = second.events
  entries : first.entries = second.entries

namespace Outcome

variable {first second : Outcome (List CatalogRow)}

theorem permuted_andThen {Value : Type} (before : Outcome Value)
    {next other : Value → Reader → Outcome (List CatalogRow)}
    (permuted : ∀ value reader, (next value reader).Permuted (other value reader)) :
    (before.andThen next).Permuted (before.andThen other) := by
  unfold andThen
  cases before.result with
  | error failure => exact ⟨.error failure, rfl, rfl, rfl⟩
  | ok value =>
    obtain ⟨result, reader, events, entries⟩ := permuted value before.reader
    exact ⟨result, reader, congrArg (before.events ++ ·) events,
      congrArg (before.entries ++ ·) entries⟩

theorem Permuted.closing (permuted : first.Permuted second) (last : Reader → Outcome Unit) :
    (first.closing last).Permuted (second.closing last) := by
  obtain ⟨result, reader, events, entries⟩ := permuted
  unfold Outcome.closing
  rw [reader, events, entries]
  refine ⟨?_, rfl, rfl, rfl⟩
  dsimp only
  cases (last second.reader).result with
  | error failure => exact .error failure
  | ok _ => exact result

/-- The table made from the rows is all that is left of them. -/
theorem Permuted.andThen_assemble (permuted : first.Permuted second) (name : TableName) :
    first.andThen (Reader.assemble name) = second.andThen (Reader.assemble name) := by
  obtain ⟨_, reader, events, entries⟩ := first
  obtain ⟨_, _, _, _⟩ := second
  obtain ⟨result, rfl, rfl, rfl⟩ := permuted
  cases result with
  | error failure => rfl
  | @ok firstRows secondRows permuted distinct =>
    have same : Reader.assemble name firstRows reader = Reader.assemble name secondRows reader := by
      unfold Reader.assemble
      rw [permuted.isEmpty_eq, Catalog.tableOfRows_eq_of_perm name.table permuted distinct]
    unfold andThen
    dsimp only
    rw [same]

end Outcome

namespace Reader

/-- All records are looked at before it is known that they are rows, so their order is not. -/
theorem rowsOfRecords_eq (records : List CatalogRecord) :
    rowsOfRecords records =
      if records.all fun record => (CatalogRow.ofRecord? record).isSome then
        .ok (records.filterMap CatalogRow.ofRecord?)
      else .error .malformedRecord := by
  have read : records.mapM CatalogRow.ofRecord? =
      if records.all fun record => (CatalogRow.ofRecord? record).isSome then
        some (records.filterMap CatalogRow.ofRecord?)
      else none := by
    induction records with
    | nil => rfl
    | cons record rest inductionHypothesis =>
      rw [List.mapM_cons, inductionHypothesis, List.all_cons, List.filterMap_cons]
      cases CatalogRow.ofRecord? record with
      | none => rfl
      | some row =>
        cases rest.all fun record => (CatalogRow.ofRecord? record).isSome <;> rfl
  unfold rowsOfRecords
  rw [read]
  cases records.all fun record => (CatalogRow.ofRecord? record).isSome <;> rfl

theorem rowsOfRecords_of_perm {first second : List CatalogRecord} (permuted : first.Perm second)
    (distinct : (positions first).Nodup) :
    PermutedRows (rowsOfRecords first) (rowsOfRecords second) := by
  rw [rowsOfRecords_eq, rowsOfRecords_eq, permuted.all_eq]
  split
  · exact .ok (permuted.filterMap _) distinct
  · exact .error _

variable {first second : Server}

theorem connect_eq_of_fault (fault : first.fault = second.fault) :
    connect first = connect second := by
  funext reader
  unfold connect
  rw [fault]

theorem close_eq_of_fault (fault : first.fault = second.fault) : close first = close second := by
  funext reader
  unfold close
  rw [fault]

theorem query_of_permuted (permuted : first.Permuted second)
    (distinct : first.HasDistinctPositions) (name : TableName) (reader : Reader) :
    (reader.query first name).Permuted (reader.query second name) := by
  have answers : PermutedRows (answer first name) (answer second name) := by
    unfold answer
    rw [permuted.fault]
    cases second.fault .execute with
    | some fault => exact .error _
    | none =>
      cases second.fault .fetch with
      | some fault => exact .error _
      | none => exact rowsOfRecords_of_perm (permuted.records name) (distinct.records name)
  unfold query
  rw [permuted.fault]
  cases second.fault .cursor with
  | some fault => exact ⟨.error _, rfl, rfl, rfl⟩
  | none => exact ⟨answers, rfl, rfl, rfl⟩

theorem rows_of_permuted (permuted : first.Permuted second)
    (distinct : first.HasDistinctPositions) (name : TableName) (reader : Reader) :
    (reader.rows first name).Permuted (reader.rows second name) := by
  unfold rows
  rw [connect_eq_of_fault permuted.fault]
  exact Outcome.permuted_andThen _ fun _ connected =>
    query_of_permuted permuted distinct name connected

/-- A fetch does not depend on the order of rows. -/
theorem fetch_of_permuted (permuted : first.Permuted second)
    (distinct : first.HasDistinctPositions) (reference : String) (reader : Reader) :
    reader.fetch first reference = reader.fetch second reference := by
  unfold fetch
  rw [connect_eq_of_fault permuted.fault, close_eq_of_fault permuted.fault]
  refine congrArg (Outcome.andThen _) (funext fun _ => funext fun connected => ?_)
  have queried := rows_of_permuted permuted distinct (reader.resolve reference) connected
  exact (queried.closing (close second)).andThen_assemble _

theorem fetchOnce_of_permuted (permuted : first.Permuted second)
    (distinct : first.HasDistinctPositions) (reference : String) (reader : Reader) :
    reader.fetchOnce first reference = reader.fetchOnce second reference := by
  unfold fetchOnce
  rw [fetch_of_permuted permuted distinct, close_eq_of_fault permuted.fault]

end Reader

/-! ### Runs -/

namespace CommandLine

/-- The order in which a server tells the rows of a table is nowhere to be seen: while no two rows
of a table share a position, a run on one server is the run on any other that tells the rows of its
tables in other orders. It has the same exit code, output, log and escaping failure, asks the same
of the driver and leaves the same files. -/
theorem run_eq_of_permuted {first second : Server} (permuted : first.Permuted second)
    (distinct : first.HasDistinctPositions) (console : Console) (settings : Settings)
    (files : FileTree) (arguments : List String) :
    run console first settings files arguments = run console second settings files arguments := by
  have plans (request : Request) :
      tablePlan console first settings request = tablePlan console second settings request := by
    unfold tablePlan
    simp only [Reader.fetchOnce_of_permuted permuted distinct]
  unfold run plan
  simp only [plans]

/-- The records of a table with two columns that are none, the second of them first. -/
def blamedRecords : List CatalogRecord :=
  [.row ⟨"z", 3, "NO", "money", "pg_catalog", "money"⟩,
    .row ⟨"a", 1, "NO", "uuid", "pg_catalog", "uuid"⟩,
    .row ⟨"m", 2, "MAYBE", "text", "pg_catalog", "text"⟩]

/-- A server with one table of these records. -/
def serverOf (records : List CatalogRecord) : Server :=
  Server.empty.change (.tables [⟨⟨"public", "t"⟩, records⟩])

theorem run_eq_of_permuted_reverse :
    (serverOf blamedRecords).Permuted (serverOf blamedRecords.reverse) ∧
      (serverOf blamedRecords).HasDistinctPositions ∧
      run .standard (serverOf blamedRecords) ⟨some "postgres://db", "public", none, "INFO"⟩ .empty
          ["table", "t"] =
        run .standard (serverOf blamedRecords.reverse)
          ⟨some "postgres://db", "public", none, "INFO"⟩ .empty ["table", "t"] := by
  have permuted : (serverOf blamedRecords).Permuted (serverOf blamedRecords.reverse) :=
    ⟨.cons ⟨rfl, (List.reverse_perm _).symm⟩ .nil, rfl⟩
  have distinct : (serverOf blamedRecords).HasDistinctPositions := by
    intro table member
    obtain rfl := List.mem_singleton.mp member
    decide
  exact ⟨permuted, distinct, run_eq_of_permuted permuted distinct _ _ _ _⟩

end CommandLine

end CatalogReader
