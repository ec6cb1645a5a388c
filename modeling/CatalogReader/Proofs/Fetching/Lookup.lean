/-
Columns of fetched tables, looked up by their names. A catalog may tell several rows of one name, in
any order and with positions that tie. The columns of a table follow the order of the rows, so that
the first column of a name is the one that comes from the first row of this name in this order; and
a table has no column of a name exactly when the catalog told no row of it.
-/

import CatalogReader.Proofs.Fetching.Assembly

namespace CatalogReader

namespace Catalog

/-! ### The first row of a name -/

theorem Precedes.asymm {first second : CatalogRow × Nat} (before : Precedes first second) :
    ¬Precedes second first := by
  unfold Precedes at before ⊢
  omega

/-- Of the rows of a name, with their numbers in the order of arrival, the one that stands before
all others. -/
structure FirstNamed (rows : List CatalogRow) (name : String) (first : CatalogRow × Nat) :
    Prop where
  arrived : first ∈ rows.zipIdx
  named : first.1.columnName = some name
  precedes : ∀ other ∈ rows.zipIdx, other.1.columnName = some name → other ≠ first →
    Precedes first other

theorem FirstNamed.unique {rows : List CatalogRow} {name : String} {one other : CatalogRow × Nat}
    (first : FirstNamed rows name one) (again : FirstNamed rows name other) : one = other := by
  by_contra different
  exact (first.precedes other again.arrived again.named (Ne.symm different)).asymm
    (again.precedes one first.arrived first.named different)

/-- Whether a row has a name. -/
def hasName (name : String) (arrival : CatalogRow × Nat) : Bool :=
  arrival.1.columnName == some name

theorem hasName_iff (name : String) (arrival : CatalogRow × Nat) :
    hasName name arrival = true ↔ arrival.1.columnName = some name :=
  beq_iff_eq

/-- In their order the first row of a name is met first. -/
theorem Ordered.firstNamed {rows : List CatalogRow} {arrivals : List (CatalogRow × Nat)}
    (ordered : Ordered rows arrivals) {name : String} {first : CatalogRow × Nat}
    (found : arrivals.find? (hasName name) = some first) : FirstNamed rows name first := by
  obtain ⟨named, before, after, split, unnamed⟩ := List.find?_eq_some_iff_append.mp found
  have arrived {arrival : CatalogRow × Nat} : arrival ∈ arrivals ↔ arrival ∈ rows.zipIdx :=
    ordered.perm.mem_iff
  refine ⟨arrived.mp (List.mem_of_find?_eq_some found), (hasName_iff _ _).mp named, ?_⟩
  intro other member alike different
  have pairwise := ordered.pairwise
  rw [split] at pairwise
  have place := arrived.mpr member
  rw [split] at place
  rcases List.mem_append.mp place with earlier | later
  · have none := unnamed other earlier
    rw [(hasName_iff name other).mpr alike] at none
    cases none
  · have behind := (List.mem_cons.mp later).resolve_left different
    exact List.rel_of_pairwise_cons (List.pairwise_append.mp pairwise).2.1 behind

theorem Ordered.find?_eq_none_iff {rows : List CatalogRow} {arrivals : List (CatalogRow × Nat)}
    (ordered : Ordered rows arrivals) (name : String) :
    arrivals.find? (hasName name) = none ↔ ∀ row ∈ rows, row.columnName ≠ some name := by
  have numbered : rows.zipIdx.map Prod.fst = rows := List.zipIdx_map_fst 0 rows
  rw [List.find?_eq_none]
  constructor
  · intro none row member named
    rw [← numbered] at member
    obtain ⟨arrival, arrived, rfl⟩ := List.mem_map.mp member
    exact none arrival (ordered.perm.mem_iff.mpr arrived) ((hasName_iff _ _).mpr named)
  · intro none arrival member named
    exact none arrival.1 (List.fst_mem_of_mem_zipIdx (ordered.perm.mem_iff.mp member))
      ((hasName_iff _ _).mp named)

/-! ### Columns of rows -/

theorem eq_of_becomes {row : CatalogRow} {first second : Column} (one : row.Becomes first)
    (other : row.Becomes second) : first = second := by
  have made := (columnOfRow_eq_ok_iff row first).mpr one
  rw [(columnOfRow_eq_ok_iff row second).mpr other] at made
  exact (Except.ok.inj made).symm

/-- The first column of a name comes from the first row of this name. -/
theorem find?_of_become {arrivals : List (CatalogRow × Nat)} {columns : List Column}
    (become : List.Forall₂ (fun arrival column => arrival.1.Becomes column) arrivals columns)
    (name : String) :
    Option.Rel (fun arrival column => arrival.1.Becomes column) (arrivals.find? (hasName name))
      (columns.find? fun column => column.name == some name) := by
  induction become with
  | nil => exact .none
  | @cons arrival column rest others becomes _ inductionHypothesis =>
    have same : (column.name == some name) = hasName name arrival :=
      congrArg (· == some name) becomes.name
    rw [List.find?_cons, List.find?_cons, same]
    cases hasName name arrival with
    | true => exact .some becomes
    | false => exact inductionHypothesis

/-- A table answers for a name with the column of the first row of the name, if there is one. -/
structure AnswersByName (rows : List CatalogRow) (table : Table) (name : String) : Prop where
  missing : table.column? name = none ↔ ∀ row ∈ rows, row.columnName ≠ some name
  found : ∀ column, table.column? name = some column ↔
    ∃ first, FirstNamed rows name first ∧ first.1.Becomes column

theorem Ordered.answersByName {rows : List CatalogRow} {arrivals : List (CatalogRow × Nat)}
    (ordered : Ordered rows arrivals) {table : Table}
    (become : List.Forall₂ (fun arrival column => arrival.1.Becomes column) arrivals table.columns)
    (name : String) : AnswersByName rows table name := by
  have related : Option.Rel _ _ (table.column? name) := find?_of_become become name
  have unnamed := ordered.find?_eq_none_iff name
  have named := fun first => @Ordered.firstNamed _ _ ordered name first
  generalize arrivals.find? (hasName name) = first? at related unnamed named
  constructor
  case missing =>
    rw [← unnamed]
    generalize table.column? name = column? at related
    cases related with
    | none => exact ⟨fun _ => rfl, fun _ => rfl⟩
    | some becomes => exact ⟨nofun, nofun⟩
  case found =>
    intro column
    generalize table.column? name = column? at related
    constructor
    · rintro rfl
      cases related with
      | @some first _ becomes => exact ⟨first, named first rfl, becomes⟩
    · rintro ⟨first, isFirst, becomes⟩
      cases related with
      | none =>
        exact absurd isFirst.named
          (unnamed.mp rfl first.1 (List.fst_mem_of_mem_zipIdx isFirst.arrived))
      | @some again other becomesOther =>
        cases isFirst.unique (named again rfl)
        exact congrArg some (eq_of_becomes becomesOther becomes)

end Catalog

/-! ### Fetched tables -/

/-- Let a catalog tell any rows that are columns, in any order, with names that repeat and positions
that tie. When no fault comes up a fetch ends with a table, and the column that this table has for a
name is that of the first row of the name, which has the least position and arrived before those
that share it; it has none if and only if no row has the name. -/
theorem fetched_columns_by_name {server : Server} {reader : Reader} {reference : String}
    {rows : List CatalogRow} (undisturbed : server.Undisturbed reader)
    (told : server.records (reader.resolve reference) = rows.map CatalogRow.toRecord)
    (good : ∀ row ∈ rows, row.IsGood) :
    ∃ table, (reader.fetch server reference).result = .ok table ∧
      ∀ name, Catalog.AnswersByName rows table name := by
  rw [result_of_undisturbed undisturbed (told ▸ Reader.rowsOfRecords_map_toRecord rows)]
  have assembled := Catalog.assembles_tableOfRows (reader.resolve reference).table rows
  obtain ⟨table, made⟩ := assembled.succeeds.mpr good
  obtain ⟨-, arrivals, ordered, become⟩ := assembled.table table made
  exact ⟨table, made, ordered.answersByName become⟩

/-- Rows that share a name, two of them at the least position. -/
def namesakeRows : List CatalogRow :=
  [⟨"id", 2, "NO", "bigint", "pg_catalog", "int8"⟩,
    ⟨"id", -1, "YES", "ARRAY", "pg_catalog", "_text"⟩,
    ⟨none, -3, "NO", "oid", "pg_catalog", "oid"⟩,
    ⟨"id", -1, "NO", "USER-DEFINED", "public", none⟩]

theorem fetched_columns_by_name_namesakes :
    (CommandLine.serverOf (namesakeRows.map CatalogRow.toRecord)).Undisturbed
        Session.localReader ∧
      (CommandLine.serverOf (namesakeRows.map CatalogRow.toRecord)).records
          (Session.localReader.resolve "t") = namesakeRows.map CatalogRow.toRecord ∧
      (∀ row ∈ namesakeRows, row.IsGood) ∧
      ∃ table, (Session.localReader.fetch
          (CommandLine.serverOf (namesakeRows.map CatalogRow.toRecord)) "t").result = .ok table ∧
        ∀ name, Catalog.AnswersByName namesakeRows table name := by
  have undisturbed : (CommandLine.serverOf (namesakeRows.map CatalogRow.toRecord)).Undisturbed
      Session.localReader := ⟨.inr ⟨rfl, _, rfl⟩, fun _ _ => rfl⟩
  have told : (CommandLine.serverOf (namesakeRows.map CatalogRow.toRecord)).records
      (Session.localReader.resolve "t") = namesakeRows.map CatalogRow.toRecord := rfl
  have good : ∀ row ∈ namesakeRows, row.IsGood := by
    intro row member
    simp only [namesakeRows, List.mem_cons, List.not_mem_nil, or_false] at member
    rcases member with rfl | rfl | rfl | rfl
    · exact ⟨Or.inr rfl, _, rfl⟩
    · exact ⟨Or.inl rfl, _, rfl⟩
    · exact ⟨Or.inr rfl, _, rfl⟩
    · exact ⟨Or.inr rfl, _, rfl⟩
  exact ⟨undisturbed, told, good, fetched_columns_by_name undisturbed told good⟩

end CatalogReader
