/-
The columns of a table, read back from its summary. An emoji takes the place of two colons, so rows
that tell all the colons of the columns show no emoji, and what they show is a part of the texts.
Where the texts are legible and have room on one line each, a cell that shows less than its text
shows another text. So the rows of the summary are the columns of the table if and only if all their
names and types are plain, and the title can be shown.
-/

import CatalogReader.Proofs.Layout.GridRows
import CatalogReader.Proofs.Markup.Summaries
import CatalogReader.Proofs.Markup.Verbatim

namespace CatalogReader.Summary

open CatalogReader.Layout CatalogReader.Markup CatalogReader.Text

/-! ### Columns and what they show -/

/-- What a column shows, as text. -/
def shownTexts (shown : GridColumn Rendered) : GridColumn (List Char) :=
  shown.map Rendered.text

theorem all_shownTexts (shown : GridColumn Rendered) :
    (shownTexts shown).all = shown.all.map Rendered.text := rfl

/-- What a column shows, cell by cell. -/
structure Shows (emoji : EmojiTable) (column : GridColumn (List Char))
    (shown : GridColumn Rendered) : Prop where
  justify : shown.justify = column.justify
  header : Markup.render emoji column.header = .ok shown.header
  cells : List.Forall₂ (fun text cell => Markup.render emoji text = .ok cell)
    column.cells shown.cells

/-- A column each cell of which shows a part of its text. -/
structure ShowsParts (emoji : EmojiTable) (column : GridColumn (List Char))
    (shown : GridColumn Rendered) : Prop extends Shows emoji column shown where
  parts : List.Forall₂ (fun text cell => cell.text.Sublist text) column.all shown.all

variable {emoji : EmojiTable}

theorem shownCell_of_wide {limit : Nat} (wide : padding < limit) (text : List Char) :
    shownCell emoji limit text = Markup.render emoji text :=
  if_neg (Nat.not_le_of_lt wide)

theorem shownColumn_eq_ok_iff {limit : Nat} (wide : padding < limit)
    {column : GridColumn (List Char)} {shown : GridColumn Rendered} :
    shownColumn emoji limit column = .ok shown ↔ Shows emoji column shown := by
  have cellwise : shownCell emoji limit = Markup.render emoji := funext (shownCell_of_wide wide)
  unfold shownColumn
  simp only [cellwise, bind_eq_ok_iff, mapM_eq_ok_iff]
  constructor
  · rintro ⟨header, head, cells, later, made⟩
    cases made
    exact ⟨rfl, head, later⟩
  · rintro ⟨same, head, later⟩
    refine ⟨shown.header, head, shown.cells, later, ?_⟩
    rw [← same]
    rfl

/-- A column that shows its texts as they are. -/
def verbatim (column : GridColumn (List Char)) : GridColumn Rendered :=
  column.map fun text => ⟨text, []⟩

theorem shownTexts_verbatim (column : GridColumn (List Char)) :
    shownTexts (verbatim column) = column := by
  obtain ⟨justify, header, cells⟩ := column
  have same : (cells.map fun text => Rendered.mk text []).map Rendered.text = cells := by
    rw [List.map_map]
    exact List.map_id cells
  exact congrArg (GridColumn.mk justify header) same

theorem spans_verbatim (column : GridColumn (List Char)) :
    ∀ cell ∈ (verbatim column).all, cell.spans = [] :=
  List.forall_mem_cons.mpr ⟨rfl, List.forall_mem_map.mpr fun _ _ => rfl⟩

/-- Plain texts are shown as they are. -/
theorem shows_verbatim {column : GridColumn (List Char)}
    (legible : ∀ text ∈ column.all, IsLegible text)
    (plain : ∀ text ∈ column.all, IsPlain emoji text) :
    ShowsParts emoji column (verbatim column) := by
  have read : ∀ text ∈ column.all, Markup.render emoji text = .ok ⟨text, []⟩ := fun text member =>
    render_of_plain (legible text member) (plain text member)
  obtain ⟨header, cells⟩ := List.forall_mem_cons.mp read
  refine ⟨⟨rfl, header, List.forall₂_map_right_iff.mpr (List.forall₂_same.mpr cells)⟩, ?_⟩
  exact .cons (List.Sublist.refl _)
    (List.forall₂_map_right_iff.mpr (List.forall₂_same.mpr fun text _ => List.Sublist.refl text))

section

variable {column : GridColumn (List Char)} {shown : GridColumn Rendered}

theorem Shows.all (shows : Shows emoji column shown) :
    List.Forall₂ (fun text cell => Markup.render emoji text = .ok cell) column.all shown.all :=
  .cons shows.header shows.cells

theorem Shows.text_header (shows : Shows emoji column shown) (legible : IsLegible column.header)
    (plain : IsPlain emoji column.header) : shown.header.text = column.header := by
  have same := shows.header.symm.trans (render_of_plain legible plain)
  exact congrArg Rendered.text (Except.ok.inj same)

/-- Legible texts that are shown as they are are plain. -/
theorem Shows.plain_of_same (shows : Shows emoji column shown)
    (legible : ∀ text ∈ column.all, IsLegible text) (same : shownTexts shown = column) :
    ∀ text ∈ column.all, IsPlain emoji text := by
  subst same
  have read := shows.all
  rw [all_shownTexts, List.forall₂_map_left_iff, List.forall₂_same] at read
  rw [all_shownTexts] at legible ⊢
  refine List.forall_mem_map.mpr fun cell member => ?_
  exact isPlain_of_render (legible _ (List.mem_map_of_mem member)) (read cell member)

namespace ShowsParts

variable (shows : ShowsParts emoji column shown)
include shows

/-- What a column shows comes from its texts. -/
theorem exists_of_mem {part : List Char} (member : part ∈ (shownTexts shown).all) :
    ∃ text ∈ column.all, part.Sublist text := by
  rw [all_shownTexts] at member
  obtain ⟨cell, among, rfl⟩ := List.mem_map.mp member
  exact exists_of_forall₂ shows.parts among

theorem naturalWidth_le : naturalWidth (shownTexts shown).all ≤ naturalWidth column.all := by
  refine Nat.add_le_add_right (largest_le (List.forall_mem_map.mpr fun part member => ?_)) padding
  obtain ⟨text, inColumn, part⟩ := shows.exists_of_mem member
  exact part.length_le.trans (le_largest (List.mem_map_of_mem inColumn))

end ShowsParts

end

section

variable {columns : List (GridColumn (List Char))} {shown : List (GridColumn Rendered)}

/-- A grid of legible texts whose headers are plain shows a grid of legible texts. -/
theorem legibleGrid_of_shows (grid : LegibleGrid columns)
    (plain : ∀ column ∈ columns, IsPlain emoji column.header)
    (shows : List.Forall₂ (ShowsParts emoji) columns shown) :
    LegibleGrid (shown.map shownTexts) where
  filled := by
    refine List.map_eq_nil_iff.not.mpr fun none => grid.filled ?_
    subst none
    exact List.forall₂_nil_right_iff.mp shows
  headed := List.forall_mem_map.mpr fun found member => by
    obtain ⟨column, among, shows⟩ := exists_of_forall₂ shows member
    have legible : IsLegible column.header := grid.legible column among _ List.mem_cons_self
    show found.header.text ≠ []
    rw [shows.text_header legible (plain column among)]
    exact grid.headed column among
  legible := List.forall_mem_map.mpr fun found member text inText => by
    obtain ⟨column, among, shows⟩ := exists_of_forall₂ shows member
    obtain ⟨whole, inColumn, part⟩ := shows.exists_of_mem inText
    exact (grid.legible column among whole inColumn).of_sublist part

/-- A grid of legible texts that shows these is one of plain texts. -/
theorem plain_of_shownTexts_eq (grid : LegibleGrid columns)
    (shows : List.Forall₂ (ShowsParts emoji) columns shown)
    (same : shown.map shownTexts = columns) :
    ∀ column ∈ columns, ∀ text ∈ column.all, IsPlain emoji text := by
  subst same
  rw [List.forall₂_map_left_iff, List.forall₂_same] at shows
  refine List.forall_mem_map.mpr fun found member => ?_
  exact (shows found member).plain_of_same (grid.legible _ (List.mem_map_of_mem member)) rfl

/-- What a grid shows takes no more cells than the grid. -/
theorem total_naturalWidths_le (shows : List.Forall₂ (ShowsParts emoji) columns shown) :
    total (naturalWidths (shown.map shownTexts)) ≤ total (naturalWidths columns) := by
  induction shows with
  | nil => exact Nat.le_refl _
  | cons first _ inductionHypothesis =>
    exact Nat.add_le_add first.naturalWidth_le inductionHypothesis

/-! ### Colons -/

/-- The colons in the cells of a grid below the header. -/
def colons (columns : List (GridColumn (List Char))) : Nat :=
  (columns.map fun column => column.cells.flatten.count ':').sum

/-- Cells that show all the colons of their texts show a part of these. -/
theorem Shows.showsParts {column : GridColumn (List Char)} {shown : GridColumn Rendered}
    (shows : Shows emoji column shown) (unmarked : ':' ∉ column.header)
    (kept : column.cells.flatten.count ':' ≤ (shownTexts shown).cells.flatten.count ':') :
    ShowsParts emoji column shown := by
  have cells : (shownTexts shown).cells = shown.cells.map Rendered.text := rfl
  rw [cells, List.count_flatten, List.count_flatten, List.map_map] at kept
  refine ⟨shows, .cons ?_ ?_⟩
  · refine text_render_sublist shows.header ?_
    rw [List.count_eq_zero_of_not_mem unmarked]
    exact Nat.zero_le _
  · refine (forall₂_of_sum_le shows.cells (fun text cell read => colons_render read) kept).imp ?_
    exact fun text cell all => text_render_sublist all.1 all.2

theorem Shows.colons_le {column : GridColumn (List Char)} {shown : GridColumn Rendered}
    (shows : Shows emoji column shown) :
    (shownTexts shown).cells.flatten.count ':' ≤ column.cells.flatten.count ':' := by
  have cells : (shownTexts shown).cells = shown.cells.map Rendered.text := rfl
  rw [cells, List.count_flatten, List.count_flatten, List.map_map]
  exact sum_le_of_forall₂ shows.cells fun text cell read => colons_render read

/-- A grid that shows all its colons shows a part of its texts. -/
theorem showsParts_of_colons (unmarked : ∀ column ∈ columns, ':' ∉ column.header)
    (shows : List.Forall₂ (Shows emoji) columns shown)
    (kept : colons columns ≤ colons (shown.map shownTexts)) :
    List.Forall₂ (ShowsParts emoji) columns shown := by
  unfold colons at kept
  rw [List.map_map] at kept
  have all := forall₂_of_sum_le shows (fun column shown shows => shows.colons_le) kept
  refine (List.forall₂_iff_zip.mpr ⟨all.length_eq, fun inZip => ?_⟩)
  obtain ⟨shows, kept⟩ := (List.forall₂_iff_zip.mp all).2 inZip
  exact shows.showsParts (unmarked _ (List.of_mem_zip inZip).1) kept

/-! ### What the rows tell -/

/-- A text that shows less than another one is told from it by what is left when it is trimmed. -/
theorem eq_of_trim_eq {part text : List Char} (shorter : part.Sublist text)
    (same : trim part = text) : part = text := by
  have kept : (trim part).Sublist part := trim_sublist part
  rw [same] at kept
  exact shorter.antisymm kept

/-- A column of trimmed texts shows them where its cells tell them. -/
theorem ShowsParts.shownTexts_eq {column : GridColumn (List Char)} {shown : GridColumn Rendered}
    (shows : ShowsParts emoji column shown) (header : shown.header.text = column.header)
    (trimmed : ∀ text ∈ column.cells, trim text = text)
    (same : ∀ index < column.cells.length, trim ((shownTexts shown).cells.getD index []) =
      trim (column.cells.getD index [])) : shownTexts shown = column := by
  have parts : List.Forall₂ List.Sublist (shownTexts shown).cells column.cells :=
    List.forall₂_map_left_iff.mpr (List.forall₂_cons.mp shows.parts).2.flip
  have cells : (shownTexts shown).cells = column.cells := by
    refine List.ext_getElem parts.length_eq fun index inShown inColumn => ?_
    have told := same index inColumn
    rw [List.getD_eq_getElem _ _ inShown, List.getD_eq_getElem _ _ inColumn,
      trimmed _ (List.getElem_mem inColumn)] at told
    exact eq_of_trim_eq (parts.get inShown inColumn) told
  show GridColumn.mk shown.justify shown.header.text (shownTexts shown).cells = column
  rw [shows.justify, header, cells]

end

/-! ### Summaries -/

/-- The widths of columns with what they show. -/
def shownWidths (limit : Nat) (shown : List (GridColumn Rendered)) : List Nat :=
  columnWidths limit ((shown.map shownTexts).map GridColumn.all)

/-- The lines of a summary are made if and only if the cells and the title are read, and no style in
them that cannot be read has come to be shown. -/
theorem titledLines_eq_ok_iff {width : Nat} (wide : padding < width - edges) {table : Table}
    {types : List String} {found : List (List Char)} :
    titledLines emoji width table types = .ok found ↔
      ∃ shown heading titleLines,
        List.Forall₂ (Shows emoji) (gridColumns table.columns types) shown ∧
        Markup.render emoji (title table) = .ok heading ∧
        heading.linesWithin width .center .fold
          (total (shownWidths (width - edges) shown) + edges) = .ok titleLines ∧
        (List.zipWith showsFlaw shown (shownWidths (width - edges) shown)).any id = false ∧
        found = titleLines ++
          (gridLines (shown.map shownTexts) table.columns.length
            (shownWidths (width - edges) shown)).map (truncate .fold width) := by
  unfold titledLines
  simp only [bind_eq_ok_iff, mapM_eq_ok_iff, shownColumn_eq_ok_iff wide]
  constructor
  · rintro ⟨shown, shows, heading, titled, titleLines, lined, made⟩
    refine ⟨shown, heading, titleLines, shows, titled, lined, ?_⟩
    split at made
    case isTrue => cases made
    case isFalse sound => exact ⟨Bool.eq_false_iff.mpr sound, (Except.ok.inj made).symm⟩
  · rintro ⟨shown, heading, titleLines, shows, titled, lined, sound, rfl⟩
    exact ⟨shown, shows, heading, titled, titleLines, lined, if_neg (Bool.eq_false_iff.mp sound)⟩

theorem render_eq_ok_iff {width : Nat} (positive : width ≠ 0) {table : Table} {types : List String}
    (typed : (table.columns.mapM fun column => column.type.text?) = some types) {text : String} :
    render emoji width table = .ok text ↔
      ∃ found, titledLines emoji width table types = .ok found ∧
        text = String.ofList (join '\n' found) := by
  unfold render lines
  rw [typed]
  dsimp only
  rw [if_neg positive]
  cases titledLines emoji width table types with
  | error fault =>
    refine ⟨nofun, ?_⟩
    rintro ⟨_, same, -⟩
    cases same
  | ok found =>
    constructor
    · intro made
      exact ⟨found, rfl, (Except.ok.inj made).symm⟩
    · rintro ⟨_, same, rfl⟩
      cases same
      rfl

theorem exists_linesWithin_iff {console : Nat} {justify : Justify} {overflow : Overflow}
    {width : Nat} {rendered : Rendered} :
    (∃ lines, rendered.linesWithin console justify overflow width = .ok lines) ↔
      rendered.showsFlaw justify overflow width = false := by
  unfold Rendered.linesWithin Rendered.lines
  cases rendered.showsFlaw justify overflow width with
  | true =>
    refine ⟨?_, nofun⟩
    rintro ⟨_, same⟩
    cases same
  | false => exact ⟨fun _ => rfl, fun _ => ⟨_, rfl⟩⟩

/-! ### The columns of a table -/

theorem getD_map_of_lt {Item Found : Type} (view : Item → Found) {items : List Item} {index : Nat}
    (inside : index < items.length) {default : Found} :
    (items.map view).getD index default = view items[index] := by
  rw [List.getD_eq_getElem _ _ (by rw [List.length_map]; exact inside), List.getElem_map]

/-- The name of a column. -/
def nameText (column : Column) : String := column.name.getD ""

/-- The text of the type of a column. -/
def typeText (column : Column) : String := column.type.text?.getD ""

/-- What a summary tells of a column: its number, its name, the text of its type, and whether it is
nullable. -/
def columnRow (index : Nat) (column : Column) : List (List Char) :=
  [Nat.toDigits 10 (index + 1), (nameText column).toList, (typeText column).toList,
    (if column.isNullable then "YES" else "NO").toList]

/-- What a summary tells of the columns of a table. -/
def columnRows (table : Table) : List (List (List Char)) :=
  table.columns.mapIdx columnRow

/-- A text of printable characters of ASCII without blanks at its ends. -/
structure IsClean (text : String) : Prop where
  legible : IsLegible text.toList
  trimmed : trim text.toList = text.toList

/-- All columns have clean names, and types with clean texts. -/
structure CleanColumns (table : Table) : Prop where
  names : ∀ column ∈ table.columns, ∃ name, column.name = some name ∧ IsClean name
  types : ∀ column ∈ table.columns, ∃ type, column.type.text? = some type ∧ IsClean type

/-- The grid of a summary before its markup is read. -/
def grid (table : Table) : List (GridColumn (List Char)) :=
  gridColumns table.columns (table.columns.map typeText)

theorem headers_grid (table : Table) :
    (grid table).map GridColumn.header =
      [['#'], "Column".toList, "Type".toList, "Nullable".toList] := rfl

theorem length_cells_grid {table : Table} {column : GridColumn (List Char)}
    (member : column ∈ grid table) : column.cells.length = table.columns.length := by
  have all : ∀ column ∈ grid table, column.cells.length = table.columns.length := by
    simp [grid, gridColumns]
  exact all column member

/-- What holds of the cells of the grid. -/
theorem forall_cells_grid_iff {table : Table} {Holds : List Char → Prop} :
    (∀ column ∈ grid table, ∀ text ∈ column.cells, Holds text) ↔
      (∀ index < table.columns.length, Holds (Nat.toDigits 10 (index + 1))) ∧
      (∀ column ∈ table.columns, Holds (nameText column).toList) ∧
      (∀ column ∈ table.columns, Holds (typeText column).toList) ∧
      ∀ column ∈ table.columns, Holds (if column.isNullable then "YES" else "NO").toList := by
  unfold grid gridColumns
  simp only [List.forall_mem_cons, List.forall_mem_map, List.mem_range, List.not_mem_nil,
    false_implies, implies_true, and_true]
  rfl

theorem row_grid {table : Table} {index : Nat} (inside : index < table.columns.length) :
    (grid table).map (fun column => column.cells.getD index []) =
      columnRow index table.columns[index] := by
  have inRange : index < (List.range table.columns.length).length := by
    rw [List.length_range]
    exact inside
  unfold grid gridColumns
  simp only [List.map_cons, List.map_nil, List.map_map, getD_map_of_lt _ inside,
    getD_map_of_lt _ inRange, List.getElem_range]
  rfl

/-- The cells across a summary that shows each text of its grid on one line. -/
def naturalSize (table : Table) : Nat :=
  total (naturalWidths (grid table)) + edges

/-- The headers are legible and hold no brackets and no colons, and there are no empty ones. -/
theorem headers_sound {table : Table} {column : GridColumn (List Char)}
    (member : column ∈ grid table) :
    column.header ≠ [] ∧ IsLegible column.header ∧ '[' ∉ column.header ∧ ':' ∉ column.header := by
  have all : ∀ header ∈ (grid table).map GridColumn.header,
      header ≠ [] ∧ IsLegible header ∧ '[' ∉ header ∧ ':' ∉ header := by
    rw [headers_grid]
    decide
  exact all _ (List.mem_map_of_mem member)

theorem plain_header {table : Table} {column : GridColumn (List Char)}
    (member : column ∈ grid table) : IsPlain emoji column.header := by
  obtain ⟨-, -, bracket, colon⟩ := headers_sound member
  exact isPlain_of_notMem bracket colon

theorem plain_grid_iff (table : Table) :
    (∀ column ∈ grid table, ∀ text ∈ column.all, IsPlain emoji text) ↔
      ∀ column ∈ table.columns,
        IsPlain emoji (nameText column).toList ∧ IsPlain emoji (typeText column).toList := by
  constructor
  · intro plain column member
    obtain ⟨-, names, types, -⟩ := forall_cells_grid_iff.mp fun column member text inside =>
      plain column member text (List.mem_cons_of_mem _ inside)
    exact ⟨names column member, types column member⟩
  · intro plain column member
    refine List.forall_mem_cons.mpr ⟨plain_header member, ?_⟩
    refine forall_cells_grid_iff.mpr ⟨fun index _ => ?_,
      fun column member => (plain column member).1, fun column member => (plain column member).2,
      fun column _ => ?_⟩ column member
    · exact isPlain_of_notMem (notMem_toDigits (by decide) _) (notMem_toDigits (by decide) _)
    · cases column.isNullable <;> exact isPlain_of_notMem (by decide) (by decide)

theorem columnRows_eq (table : Table) :
    columnRows table = (List.range table.columns.length).map fun index =>
      (grid table).map fun column => column.cells.getD index [] := by
  unfold columnRows
  refine List.ext_getElem (by rw [List.length_map, List.length_range, List.length_mapIdx]) ?_
  intro index inRows inRange
  rw [List.length_mapIdx] at inRows
  rw [List.getElem_map, List.getElem_range, List.getElem_mapIdx]
  exact (row_grid inRows).symm

/-- The rows of the columns tell all the colons of the grid. -/
theorem colons_grid (table : Table) :
    (columnRows table).flatten.flatten.count ':' = colons (grid table) := by
  unfold colons
  rw [← sum_count_rows fun column member => (length_cells_grid member).le, columnRows_eq]
  induction List.range table.columns.length with
  | nil => rfl
  | cons index rest inductionHypothesis =>
    rw [List.map_cons, List.flatten_cons, List.flatten_append, List.count_append,
      inductionHypothesis, List.count_flatten, List.map_map, List.map_cons, List.sum_cons]
    rfl

namespace CleanColumns

variable {table : Table} (clean : CleanColumns table)
include clean

theorem clean_nameText {column : Column} (member : column ∈ table.columns) :
    IsClean (nameText column) := by
  obtain ⟨name, named, clean⟩ := clean.names column member
  rw [nameText, named]
  exact clean

theorem clean_typeText {column : Column} (member : column ∈ table.columns) :
    IsClean (typeText column) := by
  obtain ⟨type, typed, clean⟩ := clean.types column member
  rw [typeText, typed]
  exact clean

theorem typed :
    (table.columns.mapM fun column => column.type.text?) = some (table.columns.map typeText) := by
  refine mapM_eq_some_map fun column member => ?_
  obtain ⟨type, typed, -⟩ := clean.types column member
  rw [typeText, typed]
  rfl

theorem legibleGrid : LegibleGrid (grid table) where
  filled := nofun
  headed := fun _ member => (headers_sound member).1
  legible := fun column member => by
    refine List.forall_mem_cons.mpr ⟨(headers_sound member).2.1, ?_⟩
    refine forall_cells_grid_iff.mpr ⟨fun index _ => isLegible_toDigits (index + 1),
      fun column member => (clean.clean_nameText member).legible,
      fun column member => (clean.clean_typeText member).legible, fun column _ => ?_⟩ column member
    cases column.isNullable <;> decide

theorem trimmed : ∀ column ∈ grid table, ∀ text ∈ column.cells, trim text = text := by
  refine forall_cells_grid_iff.mpr ⟨fun index _ => trim_of_notBlank fun c member => ?_,
    fun column member => (clean.clean_nameText member).trimmed,
    fun column member => (clean.clean_typeText member).trimmed, fun column _ => ?_⟩
  · have inside := toNat_of_mem_toDigits member
    simp only [isBlank, isWhiteSpace, Bool.or_eq_false_iff, Bool.and_eq_false_iff,
      decide_eq_false_iff_not, beq_eq_false_iff_ne]
    omega
  · cases column.isNullable <;> rfl

theorem rows_grid :
    (List.range table.columns.length).map (fun index =>
      (grid table).map fun column => trim (column.cells.getD index [])) = columnRows table := by
  rw [columnRows_eq]
  refine List.map_congr_left fun index _ => List.map_congr_left fun column member => ?_
  rcases Nat.lt_or_ge index column.cells.length with inside | outside
  · rw [List.getD_eq_getElem _ _ inside]
    exact clean.trimmed column member _ (List.getElem_mem inside)
  · rw [List.getD_eq_default _ _ outside]
    rfl

theorem legibleGrid_shown {shown : List (GridColumn Rendered)}
    (shows : List.Forall₂ (ShowsParts emoji) (grid table) shown) :
    LegibleGrid (shown.map shownTexts) :=
  legibleGrid_of_shows clean.legibleGrid (fun _ member => plain_header member) shows

/-- Rows tell whether the grid shows its texts. -/
theorem shownTexts_eq {shown : List (GridColumn Rendered)}
    (shows : List.Forall₂ (ShowsParts emoji) (grid table) shown)
    (same : ∀ index ∈ List.range table.columns.length,
      ((shown.map shownTexts).map fun column => trim (column.cells.getD index [])) =
        (grid table).map fun column => trim (column.cells.getD index [])) :
    shown.map shownTexts = grid table := by
  -- The rows run across the columns, so a column is compared at its place in each of them.
  refine List.ext_getElem (by rw [List.length_map, shows.length_eq]) fun place inShown inGrid => ?_
  have member : (grid table)[place] ∈ grid table := List.getElem_mem inGrid
  rw [List.length_map] at inShown
  rw [List.getElem_map]
  have here : ShowsParts emoji (grid table)[place] shown[place] := shows.get inGrid inShown
  refine here.shownTexts_eq (here.text_header (headers_sound member).2.1 (plain_header member))
    (clean.trimmed _ member) fun index inside => ?_
  have row := same index (List.mem_range.mpr (length_cells_grid member ▸ inside))
  have cell := congrArg (·[place]?) row
  simpa [inShown, inGrid] using cell

end CleanColumns

/-- The title of a table can be shown above a summary of its natural size. -/
def ShowsTitle (emoji : EmojiTable) (table : Table) : Prop :=
  ∃ heading, Markup.render emoji (title table) = .ok heading ∧
    heading.showsFlaw .center .fold (naturalSize table) = false

section

variable {table : Table} (clean : CleanColumns table) {width : Nat}
  (room : naturalSize table ≤ width)
include clean room

theorem wide_of_room : padding < width - edges := by
  obtain ⟨first, member⟩ := List.exists_mem_of_ne_nil _ clean.legibleGrid.filled
  have filled := clean.legibleGrid.padding_lt_naturalWidth member
  have within := naturalWidth_le_total member
  unfold naturalSize at room
  omega

theorem shownWidths_eq {shown : List (GridColumn Rendered)}
    (shows : List.Forall₂ (ShowsParts emoji) (grid table) shown) :
    shownWidths (width - edges) shown = naturalWidths (shown.map shownTexts) := by
  have narrow := total_naturalWidths_le shows
  unfold naturalSize at room
  exact (clean.legibleGrid_shown shows).columnWidths_eq (by omega)

/-- The rows of a summary are what the cells show. -/
theorem readRows_shown {shown : List (GridColumn Rendered)}
    (shows : List.Forall₂ (ShowsParts emoji) (grid table) shown) (titleLines : List (List Char)) :
    readRows (join '\n' (titleLines ++
      (gridLines (shown.map shownTexts) table.columns.length
        (shownWidths (width - edges) shown)).map (truncate .fold width))) =
      (List.range table.columns.length).map fun index =>
        (shown.map shownTexts).map fun column => trim (column.cells.getD index []) := by
  have narrow := total_naturalWidths_le shows
  have four : (naturalWidths (shown.map shownTexts)).length = 4 := by
    rw [naturalWidths, List.length_map, List.length_map, ← shows.length_eq]
    rfl
  rw [shownWidths_eq clean room shows]
  refine (clean.legibleGrid_shown shows).fitsGrid.readRows_eq _ ?_ titleLines
  unfold naturalSize edges at room
  omega

/-- Where the rows are those of the columns, no cell has lost a colon. -/
theorem showsParts_of_rows {shown : List (GridColumn Rendered)}
    (shows : List.Forall₂ (Shows emoji) (grid table) shown) {titleLines : List (List Char)}
    (rows : readRows (join '\n' (titleLines ++
      (gridLines (shown.map shownTexts) table.columns.length
        (shownWidths (width - edges) shown)).map (truncate .fold width))) = columnRows table) :
    List.Forall₂ (ShowsParts emoji) (grid table) shown := by
  have wide := wide_of_room clean room
  have enough : ∀ column ∈ shown.map shownTexts, column.cells.length ≤ table.columns.length := by
    refine List.forall_mem_map.mpr fun found member => ?_
    obtain ⟨column, inGrid, shows⟩ := exists_of_forall₂ shows member
    show (found.cells.map Rendered.text).length ≤ _
    rw [List.length_map, ← shows.cells.length_eq, length_cells_grid inGrid]
  refine showsParts_of_colons (fun column member => (headers_sound member).2.2.2) shows ?_
  rw [← colons_grid, ← rows]
  exact count_readRows_le (by decide) (by decide) enough (by omega) titleLines

/-- Where the rows are those of the columns, every cell shows its text, so this is plain. -/
theorem plain_of_rows {text : String} (made : render emoji width table = .ok text)
    (rows : readRows text.toList = columnRows table) :
    ShowsTitle emoji table ∧ ∀ column ∈ table.columns,
      IsPlain emoji (nameText column).toList ∧ IsPlain emoji (typeText column).toList := by
  have wide := wide_of_room clean room
  obtain ⟨found, lined, rfl⟩ := (render_eq_ok_iff (by omega) clean.typed).mp made
  obtain ⟨shown, heading, titleLines, shows, titled, within, -, rfl⟩ :=
    (titledLines_eq_ok_iff wide).mp lined
  rw [String.toList_ofList] at rows
  have shows := showsParts_of_rows clean room shows rows
  rw [readRows_shown clean room shows, ← clean.rows_grid] at rows
  have texts : shown.map shownTexts = grid table :=
    clean.shownTexts_eq shows (List.map_inj_left.mp rows)
  -- The title is set over the width of what is shown, which is now known to be the natural one.
  rw [shownWidths_eq clean room shows, texts] at within
  exact ⟨⟨heading, titled, exists_linesWithin_iff.mp ⟨titleLines, within⟩⟩,
    (plain_grid_iff table).mp (plain_of_shownTexts_eq clean.legibleGrid shows texts)⟩

/-- Where all texts are plain, every cell shows its text, and the rows are those of the columns. -/
theorem rows_of_plain (titled : ShowsTitle emoji table)
    (plain : ∀ column ∈ table.columns,
      IsPlain emoji (nameText column).toList ∧ IsPlain emoji (typeText column).toList) :
    ∃ text, render emoji width table = .ok text ∧ readRows text.toList = columnRows table := by
  have wide := wide_of_room clean room
  have shows : List.Forall₂ (ShowsParts emoji) (grid table) ((grid table).map verbatim) := by
    refine List.forall₂_map_right_iff.mpr (List.forall₂_same.mpr fun column member => ?_)
    exact shows_verbatim (clean.legibleGrid.legible column member)
      ((plain_grid_iff table).mpr plain column member)
  have texts : ((grid table).map verbatim).map shownTexts = grid table := by
    rw [List.map_map]
    exact List.map_id'' shownTexts_verbatim _
  have unstyled : ∀ column ∈ (grid table).map verbatim, ∀ cell ∈ column.all, cell.spans = [] :=
    List.forall_mem_map.mpr fun column _ => spans_verbatim column
  obtain ⟨heading, read, sound⟩ := titled
  obtain ⟨titleLines, within⟩ := exists_linesWithin_iff.mpr sound
  have lined := (titledLines_eq_ok_iff wide).mpr ⟨_, heading, titleLines,
    shows.imp fun _ _ shows => shows.toShows, read,
    by rw [shownWidths_eq clean room shows, texts]; exact within,
    any_showsFlaw_of_unstyled unstyled _, rfl⟩
  refine ⟨_, (render_eq_ok_iff (by omega) clean.typed).mpr ⟨_, lined, rfl⟩, ?_⟩
  rw [String.toList_ofList, readRows_shown clean room shows, texts, clean.rows_grid]

end

/-- A summary that is wide enough shows the columns of the table, each one in a line of its own and
with exactly its texts, if and only if the title can be shown and all names and types are plain:
no tag begins in them, none of their opening brackets stands behind a backslash, and they hold no
code of an emoji that the console knows. -/
theorem rows_verbatim_iff (emoji : EmojiTable) {table : Table} (clean : CleanColumns table)
    {width : Nat} (room : naturalSize table ≤ width) :
    (∃ text, render emoji width table = .ok text ∧ readRows text.toList = columnRows table) ↔
      ShowsTitle emoji table ∧ ∀ column ∈ table.columns,
        IsPlain emoji (nameText column).toList ∧ IsPlain emoji (typeText column).toList := by
  constructor
  · rintro ⟨text, made, rows⟩
    exact plain_of_rows clean room made rows
  · rintro ⟨titled, plain⟩
    exact rows_of_plain clean room titled plain

/-- Two columns whose names hold brackets, a backslash and colons, but no tag and no code of an
emoji. -/
def bracketed : Table :=
  ⟨"orders", [⟨some "price [1]:100", .array (.portable .bigint), false, none⟩,
    ⟨some "a\\b]:1:", .other "point", true, none⟩]⟩

theorem rows_verbatim_iff_bracketed :
    CleanColumns bracketed ∧ naturalSize bracketed ≤ fileWidth ∧
      ∃ text, render twoEmoji fileWidth bracketed = .ok text ∧
        readRows text.toList = columnRows bracketed := by
  have clean : CleanColumns bracketed := by
    refine ⟨fun column member => ?_, fun column member => ?_⟩ <;>
      rcases List.mem_pair.mp member with rfl | rfl
    · exact ⟨"price [1]:100", rfl, by decide, by decide⟩
    · exact ⟨"a\\b]:1:", rfl, by decide, by decide⟩
    · exact ⟨"bigint[]", rfl, by decide, by decide⟩
    · exact ⟨"point", rfl, by decide, by decide⟩
  have room : naturalSize bracketed ≤ fileWidth := by decide
  have titled : ShowsTitle twoEmoji bracketed :=
    ⟨⟨title bracketed, []⟩, rfl, Rendered.showsFlaw_of_spans_eq_nil _ _ _ _⟩
  refine ⟨clean, room, (rows_verbatim_iff twoEmoji clean room).mpr
    ⟨titled, fun column member => ?_⟩⟩
  rcases List.mem_pair.mp member with rfl | rfl <;> decide

/-- A table with one column of a name. -/
def tableNaming (name : String) : Table :=
  ⟨"users", [⟨some name, .portable .bigint, false, none⟩]⟩

/-- The summary of a table does not show a name that is a tag. -/
theorem rows_lose_tags :
    CleanColumns (tableNaming "[id]") ∧ naturalSize (tableNaming "[id]") ≤ fileWidth ∧
      ¬∃ text, render twoEmoji fileWidth (tableNaming "[id]") = .ok text ∧
        readRows text.toList = columnRows (tableNaming "[id]") := by
  have clean : CleanColumns (tableNaming "[id]") := by
    refine ⟨fun column member => ?_, fun column member => ?_⟩ <;>
      obtain rfl := List.mem_singleton.mp member
    · exact ⟨"[id]", rfl, by decide, by decide⟩
    · exact ⟨"bigint", rfl, by decide, by decide⟩
  have room : naturalSize (tableNaming "[id]") ≤ fileWidth := by decide
  refine ⟨clean, room, ?_⟩
  rintro ⟨text, made, rows⟩
  have plain := (plain_of_rows clean room made rows).2 _ List.mem_cons_self
  exact absurd plain.1.untagged (by decide)

end CatalogReader.Summary
