/-
The rows of a grid, read back from its lines. Where every text fits into its column, a row of the
grid is one line, and this line is cut nowhere: between its edges stand the texts of the row with
blanks around them. So the rows below the header can be read from a text that ends in the lines of a
grid, whatever stands in front of these.
-/

import CatalogReader.Proofs.Layout.Body
import CatalogReader.Proofs.Layout.Fitting
import Mathlib.Data.List.GetD

namespace CatalogReader.Layout

open CatalogReader.Text

/-! ### Cells -/

/-- A cell with one line of text in it. -/
def lineCell (justify : Justify) (width : Nat) (text : List Char) : List Char :=
  ' ' :: place justify .ellipsis (width - padding) text ++ [' ']

/-- A legible text that a cell of a width has room for. -/
structure FitsCell (width : Nat) (text : List Char) : Prop where
  legible : IsLegible text
  wide : padding < width
  room : text.length + padding ≤ width

namespace FitsCell

variable {width : Nat} {text : List Char}

theorem cells_le (fits : FitsCell width text) : cells text ≤ width - padding := by
  rw [fits.legible.cells_eq]
  exact Nat.le_sub_of_add_le fits.room

theorem cellLines_eq (fits : FitsCell width text) (justify : Justify) :
    cellLines justify width text = [lineCell justify width text] := by
  unfold cellLines
  rw [if_neg (Nat.not_le_of_lt fits.wide),
    wrap_of_fits justify .ellipsis fits.legible (Nat.le_sub_of_add_le fits.room)]
  rfl

theorem trim_lineCell (fits : FitsCell width text) (justify : Justify) :
    trim (lineCell justify width text) = trim text := by
  unfold lineCell
  rw [List.cons_append, trim_cons_space, trim_append_blank _ (by decide),
    trim_place justify .ellipsis fits.cells_le]

theorem cells_lineCell_le (fits : FitsCell width text) (justify : Justify) :
    cells (lineCell justify width text) ≤ width := by
  have placed := cells_place_le justify .ellipsis fits.cells_le
  have wide := fits.wide
  have space : cellsOf ' ' = 1 := rfl
  have sides : padding = 2 := rfl
  unfold lineCell
  rw [List.cons_append, cells_cons, cells_append, cells_cons, cells_nil, space]
  omega

theorem isLegible_lineCell (fits : FitsCell width text) (justify : Justify) :
    IsLegible (lineCell justify width text) := by
  have space : IsLegible [' '] := by decide
  exact (space.append (isLegible_place justify .ellipsis fits.legible fits.cells_le)).append space

end FitsCell

/-! ### Lines of rows -/

theorem largest_map_add {values : List Nat} (filled : values ≠ []) (more : Nat) :
    largest (values.map (· + more)) = largest values + more := by
  induction values with
  | nil => exact absurd rfl filled
  | cons first others inductionHypothesis =>
    cases others with
    | nil =>
      show max (first + more) 0 = max first 0 + more
      rw [Nat.max_zero, Nat.max_zero]
    | cons second rest =>
      show max (first + more) (largest ((second :: rest).map (· + more))) =
        max first (largest (second :: rest)) + more
      rw [inductionHypothesis (List.cons_ne_nil second rest), Nat.add_max_add_right]

theorem cells_flatMap_append {mark : Char} (one : cellsOf mark = 1) (parts : List (List Char)) :
    cells (parts.flatMap (· ++ [mark])) = total (parts.map cells) + parts.length := by
  induction parts with
  | nil => rfl
  | cons first others inductionHypothesis =>
    show cells ((first ++ [mark]) ++ others.flatMap (· ++ [mark])) =
      cells first + total (others.map cells) + (others.length + 1)
    rw [cells_append, cells_append, inductionHypothesis, cells_cons, one, cells_nil]
    omega

/-- The cells of a row each of which has one line. -/
def lineCells (row : List (Justify × List Char × Nat)) : List (List Char) :=
  row.map fun (justify, text, width) => lineCell justify width text

section

variable {row : List (Justify × List Char × Nat)}

theorem rowLines_of_fits (edge : Char) (fits : ∀ entry ∈ row, FitsCell entry.2.2 entry.2.1) :
    rowLines edge row = [edged edge (lineCells row)] := by
  have blocks : (row.map fun (justify, text, width) => (cellLines justify width text, width)) =
      row.map fun (justify, text, width) => ([lineCell justify width text], width) :=
    List.map_congr_left fun (justify, text, width) member =>
      congrArg (·, width) ((fits _ member).cellLines_eq justify)
  have height : max 1 (largest (row.map fun _ => 1)) = 1 :=
    Nat.max_eq_left (largest_le fun value member => by
      obtain ⟨_, _, rfl⟩ := List.mem_map.mp member
      exact Nat.le_refl 1)
  unfold rowLines
  dsimp only
  rw [blocks, List.map_map]
  show (List.range (max 1 (largest (row.map fun _ => 1)))).map _ = _
  rw [height]
  show [edged edge (List.map _ (List.map _ row))] = _
  rw [List.map_map]
  rfl

theorem isLegible_of_mem_lineCells (fits : ∀ entry ∈ row, FitsCell entry.2.2 entry.2.1) :
    ∀ part ∈ lineCells row, IsLegible part :=
  List.forall_mem_map.mpr fun entry member => (fits entry member).isLegible_lineCell entry.1

theorem trim_lineCells (fits : ∀ entry ∈ row, FitsCell entry.2.2 entry.2.1) :
    (lineCells row).map trim = row.map fun entry => trim entry.2.1 := by
  unfold lineCells
  rw [List.map_map]
  exact List.map_congr_left fun entry member => (fits entry member).trim_lineCell entry.1

theorem cells_edged_le {edge : Char} (one : cellsOf edge = 1)
    (fits : ∀ entry ∈ row, FitsCell entry.2.2 entry.2.1) :
    cells (edged edge (lineCells row)) ≤
      total (row.map fun entry => entry.2.2) + row.length + 1 := by
  have parts : cells (edged edge (lineCells row)) =
      total ((lineCells row).map cells) + row.length + 1 := by
    rw [edged, cells_cons, one, cells_flatMap_append one, lineCells, List.length_map]
    omega
  have narrow : total ((lineCells row).map cells) ≤ total (row.map fun entry => entry.2.2) := by
    unfold lineCells
    rw [List.map_map]
    exact List.sum_le_sum fun entry member => (fits entry member).cells_lineCell_le entry.1
  omega

end

/-! ### Lines of a grid -/

/-- Every text of a grid has room in its column. -/
structure FitsGrid (columns : List (GridColumn (List Char))) (widths : List Nat) : Prop where
  filled : widths ≠ []
  paired : columns.length = widths.length
  fits : ∀ pair ∈ columns.zip widths, ∀ text ∈ pair.1.all, FitsCell pair.2 text

section

variable {columns : List (GridColumn (List Char))} {widths : List Nat}

theorem map_gridRow {Item : Type} (textOf : GridColumn (List Char) → List Char)
    (view : Justify × List Char × Nat → Item) :
    (gridRow columns widths textOf).map view =
      (columns.zip widths).map fun pair => view (pair.1.justify, textOf pair.1, pair.2) := by
  unfold gridRow
  rw [← List.map_uncurry_zip_eq_zipWith, List.map_map]
  rfl

namespace FitsGrid

variable {textOf : GridColumn (List Char) → List Char}

theorem map_width (grid : FitsGrid columns widths) :
    (gridRow columns widths textOf).map (fun entry => entry.2.2) = widths := by
  rw [map_gridRow]
  exact List.map_snd_zip grid.paired.ge

theorem map_text (grid : FitsGrid columns widths) :
    (gridRow columns widths textOf).map (fun entry => trim entry.2.1) =
      columns.map fun column => trim (textOf column) := by
  have firsts : (columns.zip widths).map Prod.fst = columns := List.map_fst_zip grid.paired.le
  conv_rhs => rw [← firsts, List.map_map]
  exact map_gridRow _ _

/-- A row of the grid fits that takes its texts from the columns, or nothing. -/
theorem fits_gridRow (grid : FitsGrid columns widths)
    (inside : ∀ column, textOf column ∈ column.all ∨ textOf column = []) :
    ∀ entry ∈ gridRow columns widths textOf, FitsCell entry.2.2 entry.2.1 := by
  intro entry member
  unfold gridRow at member
  rw [← List.map_uncurry_zip_eq_zipWith] at member
  obtain ⟨⟨column, width⟩, inZip, rfl⟩ := List.mem_map.mp member
  have fits := grid.fits _ inZip
  rcases inside column with among | none
  · exact fits _ among
  · have wide := (fits column.header List.mem_cons_self).wide
    show FitsCell width (textOf column)
    rw [none]
    exact ⟨nofun, wide, by rw [List.length_nil]; omega⟩

variable (grid : FitsGrid columns widths)
include grid

theorem fits_bodyRow (index : Nat) : ∀ entry ∈ bodyRow columns widths index,
    FitsCell entry.2.2 entry.2.1 := by
  refine grid.fits_gridRow fun column => ?_
  rcases Nat.lt_or_ge index column.cells.length with inside | outside
  · rw [List.getD_eq_getElem _ _ inside]
    exact Or.inl (List.mem_cons_of_mem _ (List.getElem_mem inside))
  · exact Or.inr (List.getD_eq_default _ _ outside)

/-- Every row of the body is one line. -/
theorem gridBody_eq (count : Nat) :
    gridBody columns count widths =
      (List.range count).map fun index => edged '│' (lineCells (bodyRow columns widths index)) := by
  unfold gridBody
  rw [List.map_eq_flatMap]
  exact List.flatMap_congr fun index _ => rowLines_of_fits '│' (grid.fits_bodyRow index)

theorem length_bodyRow (index : Nat) : (bodyRow columns widths index).length = widths.length := by
  rw [bodyRow, gridRow, List.length_zipWith, grid.paired, Nat.min_self]

/-- A line of a row stays within the grid. -/
theorem cells_bodyRow_le (index : Nat) :
    cells (edged '│' (lineCells (bodyRow columns widths index))) ≤
      total widths + widths.length + 1 := by
  have one : cellsOf '│' = 1 := by decide +kernel
  have covered := cells_edged_le one (grid.fits_bodyRow index)
  rw [grid.length_bodyRow] at covered
  rw [bodyRow, grid.map_width] at covered
  exact covered

theorem cellTexts_bodyRow (index : Nat) :
    cellTexts (edged '│' (lineCells (bodyRow columns widths index))) =
      columns.map fun column => trim (column.cells.getD index []) := by
  have fits := grid.fits_bodyRow index
  rw [cellTexts_edged fun part among =>
    (isLegible_of_mem_lineCells fits part among).notMem (Or.inr (by decide)), trim_lineCells fits]
  exact grid.map_text

/-- The rows of a grid that fits are read back from a text that ends in its lines. -/
theorem readRows_eq (count : Nat) {width : Nat} (room : total widths + widths.length + 1 ≤ width)
    (before : List (List Char)) :
    readRows (join '\n' (before ++ (gridLines columns count widths).map (truncate .fold width))) =
      (List.range count).map fun index =>
        columns.map fun column => trim (column.cells.getD index []) := by
  have uncut (index : Nat) :
      truncate .fold width (edged '│' (lineCells (bodyRow columns widths index))) =
        edged '│' (lineCells (bodyRow columns widths index)) :=
    truncate_of_fits .fold ((grid.cells_bodyRow_le index).trans room)
  rw [readRows_gridLines count (by omega) before, grid.gridBody_eq, List.map_map, List.map_map]
  refine List.map_congr_left fun index _ => ?_
  rw [Function.comp_apply, Function.comp_apply, uncut, grid.cellTexts_bodyRow]

end FitsGrid

end

/-! ### Natural widths -/

/-- The width of a column that shows its texts on one line each. -/
def naturalWidth (texts : List (List Char)) : Nat :=
  largest (texts.map List.length) + padding

/-- The widths of the columns of a grid that shows its texts on one line each. -/
def naturalWidths (columns : List (GridColumn (List Char))) : List Nat :=
  columns.map fun column => naturalWidth column.all

theorem length_add_padding_le {texts : List (List Char)} {text : List Char}
    (member : text ∈ texts) : text.length + padding ≤ naturalWidth texts :=
  Nat.add_le_add_right (le_largest (List.mem_map_of_mem member)) padding

theorem naturalWidth_le_total {columns : List (GridColumn (List Char))}
    {column : GridColumn (List Char)} (among : column ∈ columns) :
    naturalWidth column.all ≤ total (naturalWidths columns) :=
  List.single_le_sum (fun _ _ => Nat.zero_le _) _
    (List.mem_map_of_mem among : naturalWidth column.all ∈ naturalWidths columns)

theorem textWidth_of_legible {text : List Char} (legible : IsLegible text) :
    textWidth text = text.length := by
  have noBreaks : (text.map fun c => if endsLine c then '\n' else c) = text := by
    refine (List.map_congr_left fun c member => if_neg fun ends => ?_).trans (List.map_id text)
    have inside := legible c member
    simp only [endsLine, Bool.or_eq_true, Bool.and_eq_true, decide_eq_true_eq, beq_iff_eq] at ends
    omega
  unfold textWidth
  rw [noBreaks, pieces_of_notMem (legible.notMem (Or.inl (by decide)))]
  show max (cells text) 0 = _
  rw [Nat.max_zero, legible.cells_eq]

/-- Columns of legible texts with a header for each one. -/
structure LegibleGrid (columns : List (GridColumn (List Char))) : Prop where
  filled : columns ≠ []
  headed : ∀ column ∈ columns, column.header ≠ []
  legible : ∀ column ∈ columns, ∀ text ∈ column.all, IsLegible text

namespace LegibleGrid

variable {columns : List (GridColumn (List Char))} (grid : LegibleGrid columns)
include grid

theorem padding_lt_naturalWidth {column : GridColumn (List Char)} (member : column ∈ columns) :
    padding < naturalWidth column.all := by
  have positive := List.length_pos_of_ne_nil (grid.headed column member)
  have wide : column.header.length + padding ≤ naturalWidth column.all :=
    length_add_padding_le List.mem_cons_self
  omega

theorem fitsGrid : FitsGrid columns (naturalWidths columns) where
  filled := List.map_eq_nil_iff.not.mpr grid.filled
  paired := (List.length_map _).symm
  fits := by
    intro pair inZip text member
    rw [naturalWidths, List.zip_eq_zipWith, List.zipWith_map_right, List.zipWith_self] at inZip
    obtain ⟨column, among, rfl⟩ := List.mem_map.mp inZip
    exact ⟨grid.legible column among text member, grid.padding_lt_naturalWidth among,
      length_add_padding_le member⟩

theorem columnWidth_eq {limit : Nat} (room : total (naturalWidths columns) ≤ limit)
    {column : GridColumn (List Char)} (among : column ∈ columns) :
    max 1 (columnWidth limit column.all) = naturalWidth column.all := by
  have within := (naturalWidth_le_total among).trans room
  have wide := grid.padding_lt_naturalWidth among
  have wanted : column.all.map (cellWidth limit) =
      (column.all.map List.length).map (· + padding) := by
    rw [List.map_map]
    refine List.map_congr_left fun text member => ?_
    have short := (length_add_padding_le member).trans within
    rw [cellWidth, if_neg (by omega), textWidth_of_legible (grid.legible column among text member)]
    exact Nat.min_eq_right short
  have measured : columnWidth limit column.all = naturalWidth column.all := by
    rw [columnWidth, wanted]
    exact largest_map_add (List.cons_ne_nil _ _) padding
  rw [measured]
  omega

/-- Columns that have room together are as wide as their texts want. -/
theorem columnWidths_eq {limit : Nat} (room : total (naturalWidths columns) ≤ limit) :
    columnWidths limit (columns.map GridColumn.all) = naturalWidths columns := by
  have wanted : ((columns.map GridColumn.all).map fun texts => max 1 (columnWidth limit texts)) =
      naturalWidths columns := by
    rw [List.map_map]
    exact List.map_congr_left fun column among => grid.columnWidth_eq room among
  unfold columnWidths
  dsimp only
  rw [wanted, if_pos room]

end LegibleGrid

end CatalogReader.Layout
