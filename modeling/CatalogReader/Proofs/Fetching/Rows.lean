/-
How the rows of a catalog become a table. Rows are numbered as they arrive; those of the smaller
position stand first, and of two rows with one position the one that arrived first. When each row is
a column, they make the table of the columns of all rows in this order. When some are none, the
first of these in the order is blamed, whatever else is wrong with it or with the rows behind it:
the word of its nullability if that is unknown, and otherwise its type.
-/

import CatalogReader.Catalog.Conversion
import CatalogReader.Failure
import Mathlib.Data.List.Forall2
import Mathlib.Data.List.Nodup

namespace CatalogReader

open CatalogReader.Text

/-! ### Rows that are columns and rows that are none -/

namespace CatalogRow

/-- The nullability of a row is one of the two words for it. -/
def HasNullability (row : CatalogRow) : Prop :=
  row.nullability = some "YES" ∨ row.nullability = some "NO"

instance (row : CatalogRow) : Decidable row.HasNullability :=
  inferInstanceAs (Decidable (_ ∨ _))

/-- A row is a column: its nullability is known and its type is a column type. -/
structure IsGood (row : CatalogRow) : Prop where
  nullability : row.HasNullability
  type : ∃ type, Catalog.normalizeType row.dataType row.typeName = .ok type

/-- The column that a row is. -/
structure Becomes (row : CatalogRow) (column : Column) : Prop where
  name : column.name = row.columnName
  type : Catalog.normalizeType row.dataType row.typeName = .ok column.type
  isNullable : row.nullability = some (if column.isNullable then "YES" else "NO")
  comment : column.comment = none

/-- What is wrong with a row that is no column. -/
def complaint (row : CatalogRow) : String :=
  if row.HasNullability then
    if row.dataType = some "ARRAY" then "Unknown array element type: " ++ quoteOption row.typeName
    else "Unrecognized data type: " ++ quoteOption row.dataType
  else "Unexpected is_nullable value: " ++ quoteOption row.nullability

/-- What an error says that blames a row: the word of its nullability, or else the tag of its
element type, or else its declared type, and its column, which an error of the type names as well
when the catalog gives it no name. -/
structure Blames (row : CatalogRow) (error : SchemaError) : Prop where
  nullability : ¬row.HasNullability →
    error.cause = .invalidNullability row.nullability row.columnName ∧
      error.details.get? "value" = some (Json.ofOption row.nullability)
  element : row.HasNullability → row.dataType = some "ARRAY" →
    error.cause = .unknownArrayElement row.typeName row.columnName ∧
      error.details.get? "udt_name" = some (Json.ofOption row.typeName)
  type : row.HasNullability → row.dataType ≠ some "ARRAY" →
    error.cause = .unrecognizedType row.dataType row.columnName ∧
      error.details.get? "data_type" = some (Json.ofOption row.dataType)
  column : error.details.get? "column_name" = some (Json.ofOption row.columnName)
  message : ∀ name, row.columnName = some name →
    error.message = some (row.complaint ++ (" (column " ++ quote name ++ ")"))

end CatalogRow

namespace Catalog

theorem nullabilityOf?_eq_none_iff (row : CatalogRow) :
    nullabilityOf? row.nullability = none ↔ ¬row.HasNullability := by
  unfold nullabilityOf? CatalogRow.HasNullability
  split
  case isTrue yes => simp [yes]
  case isFalse other =>
    split
    case isTrue no => simp [no]
    case isFalse neither => simp [other, neither]

theorem nullabilityOf?_eq_some_iff (word : Option String) (isNullable : Bool) :
    nullabilityOf? word = some isNullable ↔ word = some (if isNullable then "YES" else "NO") := by
  unfold nullabilityOf?
  cases isNullable with
  | true =>
    split
    case isTrue yes => simp [yes]
    case isFalse other => split <;> simp_all
  | false =>
    split
    case isTrue yes => simp [yes]
    case isFalse other => split <;> simp_all

/-- A type is refused for the tag of an array's element or else for the declared type. -/
theorem eq_of_normalizeType {dataType typeName : Option String} {error : SchemaError}
    (refused : normalizeType dataType typeName = .error error) :
    error = if dataType = some "ARRAY" then .unknownArrayElement typeName
      else .unrecognizedType dataType := by
  cases dataType with
  | none =>
    cases refused
    rfl
  | some declared =>
    unfold normalizeType arraySentinel at refused
    dsimp only at refused
    by_cases array : declared = "ARRAY"
    · rw [if_pos array] at refused
      rw [if_pos (congrArg some array)]
      split at refused
      · exact (Except.error.inj refused).symm
      · cases refused
    · rw [if_neg array] at refused
      rw [if_neg fun same => array (Option.some.inj same)]
      split at refused
      · cases refused
      · split at refused
        · cases refused
        · split at refused
          · exact (Except.error.inj refused).symm
          · cases refused

theorem columnOfRow_eq_ok_iff (row : CatalogRow) (column : Column) :
    columnOfRow row = .ok column ↔ row.Becomes column := by
  obtain ⟨name, type, isNullable, comment⟩ := column
  unfold columnOfRow
  constructor
  · intro made
    split at made
    case h_1 => cases made
    case h_2 found known =>
      split at made
      case h_1 => cases made
      case h_2 normalized =>
        cases made
        exact ⟨rfl, normalized, (nullabilityOf?_eq_some_iff _ _).mp known, rfl⟩
  · rintro ⟨rfl, normalized, word, rfl⟩
    rw [(nullabilityOf?_eq_some_iff _ _).mpr word]
    dsimp only at normalized ⊢
    rw [normalized]

theorem isGood_iff (row : CatalogRow) :
    row.IsGood ↔ ∃ column, columnOfRow row = .ok column := by
  constructor
  · rintro ⟨known, type, normalized⟩
    unfold columnOfRow
    cases word : nullabilityOf? row.nullability with
    | none => exact absurd known ((nullabilityOf?_eq_none_iff row).mp word)
    | some isNullable =>
      rw [normalized]
      exact ⟨_, rfl⟩
  · rintro ⟨column, made⟩
    obtain ⟨-, normalized, word, -⟩ := (columnOfRow_eq_ok_iff row column).mp made
    refine ⟨?_, _, normalized⟩
    unfold CatalogRow.HasNullability
    rw [word]
    cases column.isNullable with
    | true => exact Or.inl rfl
    | false => exact Or.inr rfl

/-- The error of a row that is no column. The nullability is blamed first. -/
theorem blames_of_columnOfRow {row : CatalogRow} {error : SchemaError}
    (failed : columnOfRow row = .error error) : row.Blames error := by
  obtain ⟨columnName, position, nullability, dataType, typeSchema, typeName⟩ := row
  unfold columnOfRow at failed
  split at failed
  case h_1 unknown =>
    cases failed
    have bad := (nullabilityOf?_eq_none_iff _).mp unknown
    refine ⟨fun _ => ⟨rfl, rfl⟩, fun known => absurd known bad, fun known => absurd known bad, rfl,
      ?_⟩
    rintro name rfl
    rw [CatalogRow.complaint, if_neg bad]
    rfl
  case h_2 isNullable word =>
    have known := not_not.mp fun bad =>
      nomatch word.symm.trans ((nullabilityOf?_eq_none_iff _).mpr bad)
    split at failed
    case h_1 reason refused =>
      cases failed
      obtain rfl := eq_of_normalizeType refused
      by_cases array : dataType = some "ARRAY"
      · rw [if_pos array]
        refine ⟨fun bad => absurd known bad, fun _ _ => ⟨rfl, rfl⟩, fun _ other =>
          absurd array other, rfl, ?_⟩
        rintro name rfl
        rw [CatalogRow.complaint, if_pos known, if_pos array]
        rfl
      · rw [if_neg array]
        refine ⟨fun bad => absurd known bad, fun _ other => absurd other array, fun _ _ =>
          ⟨rfl, rfl⟩, rfl, ?_⟩
        rintro name rfl
        rw [CatalogRow.complaint, if_pos known, if_neg array]
        rfl
    case h_2 => cases failed

theorem columnsOfRows_eq_ok_iff (rows : List CatalogRow) (columns : List Column) :
    columnsOfRows rows = .ok columns ↔ List.Forall₂ CatalogRow.Becomes rows columns := by
  induction rows generalizing columns with
  | nil =>
    rw [List.forall₂_nil_left_iff, columnsOfRows]
    exact ⟨fun same => (Except.ok.inj same).symm, fun same => congrArg Except.ok same.symm⟩
  | cons row rest inductionHypothesis =>
    rw [List.forall₂_cons_left_iff, columnsOfRows]
    constructor
    · intro made
      cases first : columnOfRow row with
      | error error =>
        rw [first] at made
        cases made
      | ok column =>
        rw [first] at made
        cases later : columnsOfRows rest with
        | error error =>
          rw [later] at made
          cases made
        | ok others =>
          rw [later] at made
          cases made
          exact ⟨column, others, (columnOfRow_eq_ok_iff row column).mp first,
            (inductionHypothesis others).mp later, rfl⟩
    · rintro ⟨column, others, becomes, behind, rfl⟩
      rw [(columnOfRow_eq_ok_iff row column).mpr becomes, (inductionHypothesis others).mpr behind]
      rfl

/-- The first row that is no column decides the error of rows. -/
theorem exists_first_of_columnsOfRows {arrivals : List (CatalogRow × Nat)} {error : SchemaError}
    (failed : columnsOfRows (arrivals.map Prod.fst) = .error error) :
    ∃ before bad after, arrivals = before ++ bad :: after ∧
      (∀ earlier ∈ before, earlier.1.IsGood) ∧ columnOfRow bad.1 = .error error := by
  induction arrivals with
  | nil => cases failed
  | cons arrival rest inductionHypothesis =>
    rw [List.map_cons, columnsOfRows] at failed
    cases first : columnOfRow arrival.1 with
    | error reason =>
      rw [first] at failed
      cases failed
      exact ⟨[], arrival, rest, rfl, nofun, first⟩
    | ok column =>
      rw [first] at failed
      cases later : columnsOfRows (rest.map Prod.fst) with
      | ok columns =>
        rw [later] at failed
        cases failed
      | error reason =>
        rw [later] at failed
        cases failed
        obtain ⟨before, bad, after, rfl, good, blamed⟩ := inductionHypothesis later
        refine ⟨arrival :: before, bad, after, rfl, ?_, blamed⟩
        exact List.forall_mem_cons.mpr ⟨(isGood_iff _).mpr ⟨column, first⟩, good⟩

/-! ### The order of rows -/

/-- A row, with its number in the order of arrival, stands before another one: its position is
smaller, or it is the same and the row arrived first. -/
def Precedes (first second : CatalogRow × Nat) : Prop :=
  first.1.ordinalPosition < second.1.ordinalPosition ∨
    first.1.ordinalPosition = second.1.ordinalPosition ∧ first.2 < second.2

theorem sortRows_perm (rows : List CatalogRow) : (sortRows rows).Perm rows :=
  List.mergeSort_perm rows _

/-- Rows, each with the number of its arrival, in the order in which they become columns. -/
structure Ordered (rows : List CatalogRow) (arrivals : List (CatalogRow × Nat)) : Prop where
  perm : arrivals.Perm rows.zipIdx
  pairwise : arrivals.Pairwise Precedes

/-- Sorting puts rows in this order. -/
theorem exists_ordered (rows : List CatalogRow) :
    ∃ arrivals, Ordered rows arrivals ∧ sortRows rows = arrivals.map Prod.fst := by
  let before (left right : CatalogRow) : Bool := left.ordinalPosition ≤ right.ordinalPosition
  let arrivals := rows.zipIdx.mergeSort (List.zipIdxLE before)
  have perm : arrivals.Perm rows.zipIdx := List.mergeSort_perm _ _
  have sorted : arrivals.Pairwise fun left right => List.zipIdxLE before left right := by
    refine List.pairwise_mergeSort (List.zipIdxLE_trans ?_) (List.zipIdxLE_total ?_) _
    · intro first second third below above
      exact decide_eq_true (Int.le_trans (of_decide_eq_true below) (of_decide_eq_true above))
    · intro first second
      rw [Bool.or_eq_true, decide_eq_true_eq, decide_eq_true_eq]
      exact Int.le_total _ _
  -- No two rows have one number, so that the order is strict.
  have numbered : (arrivals.map Prod.snd).Nodup := by
    refine (perm.map Prod.snd).nodup_iff.mpr ?_
    rw [List.zipIdx_map_snd]
    exact List.nodup_range'
  have apart : arrivals.Pairwise fun left right => left.2 ≠ right.2 := List.pairwise_map.mp numbered
  refine ⟨arrivals, ⟨perm, (sorted.and apart).imp ?_⟩, List.mergeSort_zipIdx.symm⟩
  rintro left right ⟨ranked, other⟩
  unfold Precedes
  simp only [List.zipIdxLE, before, decide_eq_true_eq] at ranked
  grind

/-! ### Tables -/

/-- What is made of rows: the table of all of them in their order, if each is a column, and
otherwise the error of the first in this order that is none. -/
structure Assembles (name : String) (rows : List CatalogRow) (result : Except Failure Table) :
    Prop where
  succeeds : (∃ table, result = .ok table) ↔ ∀ row ∈ rows, row.IsGood
  table : ∀ table, result = .ok table → table.name = name ∧
    ∃ arrivals, Ordered rows arrivals ∧
      List.Forall₂ (fun arrival column => arrival.1.Becomes column) arrivals table.columns
  blames : (∃ row ∈ rows, ¬row.IsGood) →
    ∃ bad ∈ rows.zipIdx, ¬bad.1.IsGood ∧
      (∀ other ∈ rows.zipIdx, ¬other.1.IsGood → other ≠ bad → Precedes bad other) ∧
      ∃ error, result = .error (.schema error) ∧ bad.1.Blames error

theorem isGood_of_become {rows : List CatalogRow} {columns : List Column}
    (become : List.Forall₂ CatalogRow.Becomes rows columns) : ∀ row ∈ rows, row.IsGood := by
  induction become with
  | nil => exact nofun
  | cons becomes _ inductionHypothesis =>
    have first := (isGood_iff _).mpr ⟨_, (columnOfRow_eq_ok_iff _ _).mpr becomes⟩
    exact List.forall_mem_cons.mpr ⟨first, inductionHypothesis⟩

theorem assembles_tableOfRows (name : String) (rows : List CatalogRow) :
    Assembles name rows ((tableOfRows name rows).mapError .schema) := by
  obtain ⟨arrivals, ordered, sorted⟩ := exists_ordered rows
  unfold tableOfRows
  cases made : columnsOfRows (sortRows rows) with
  | ok columns =>
    have become := (columnsOfRows_eq_ok_iff _ _).mp made
    have good : ∀ row ∈ rows, row.IsGood := fun row member =>
      isGood_of_become become row ((sortRows_perm rows).mem_iff.mpr member)
    rw [sorted, List.forall₂_map_left_iff] at become
    refine ⟨⟨fun _ => good, fun _ => ⟨_, rfl⟩⟩, ?_, ?_⟩
    · rintro table same
      cases same
      exact ⟨rfl, arrivals, ordered, become⟩
    · rintro ⟨row, member, bad⟩
      exact absurd (good row member) bad
  | error error =>
    rw [sorted] at made
    obtain ⟨before, bad, after, rfl, good, failed⟩ := exists_first_of_columnsOfRows made
    have badly : ¬bad.1.IsGood := by
      rw [isGood_iff, failed]
      rintro ⟨column, same⟩
      cases same
    have arrived : bad ∈ rows.zipIdx :=
      ordered.perm.mem_iff.mp (List.mem_append_right before List.mem_cons_self)
    refine ⟨⟨?_, fun all => ?_⟩, ?_, fun _ => ⟨bad, arrived, badly, ?_, error, rfl, ?_⟩⟩
    · rintro ⟨table, same⟩
      cases same
    · exact absurd (all bad.1 (List.fst_mem_of_mem_zipIdx arrived)) badly
    · rintro table same
      cases same
    · intro other member otherBad different
      rcases List.mem_append.mp (ordered.perm.mem_iff.mpr member) with earlier | later
      · exact absurd (good other earlier) otherBad
      · have behind := (List.mem_cons.mp later).resolve_left different
        exact List.rel_of_pairwise_cons (List.pairwise_append.mp ordered.pairwise).2.1 behind
    · exact blames_of_columnOfRow failed

end Catalog

end CatalogReader
