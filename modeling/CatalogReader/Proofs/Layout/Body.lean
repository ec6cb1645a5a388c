/-
The rows of a grid, found in a text that ends in its lines, whatever its cells hold. The lines of
the body are told from the others by the edges they begin with. What stands between their edges is
a part of what the cells hold, so any character that is not drawn is found there at most as often as
the cells have it.
-/

import CatalogReader.Proofs.Layout.Marks
import Mathlib.Data.List.GetD

namespace CatalogReader.Layout

open CatalogReader.Text

/-! ### Reading -/

/-- The body of a grid that a text ends in: in front of the last line, the lines that begin with the
light edge. -/
def bodyLines (lines : List (List Char)) : List (List Char) :=
  (lines.dropLast.reverse.takeWhile fun line => line.head? == some '│').reverse

/-- What stands between the edges of a line, trimmed. -/
def cellTexts (line : List Char) : List (List Char) :=
  (pieces '│' line).tail.dropLast.map trim

/-- The rows below the header of a grid that a text ends in. -/
def readRows (text : List Char) : List (List (List Char)) :=
  (bodyLines (pieces '\n' text)).map cellTexts

theorem bodyLines_append (before : List (List Char)) {mark : List Char}
    (other : mark.head? ≠ some '│') {body : List (List Char)}
    (edged : ∀ line ∈ body, line.head? = some '│') (last : List Char) :
    bodyLines (before ++ mark :: body ++ [last]) = body := by
  have begins : ∀ line ∈ body.reverse, (line.head? == some '│') = true := fun line member =>
    beq_iff_eq.mpr (edged line (List.mem_reverse.mp member))
  have stops : ¬(mark.head? == some '│') = true := mt beq_iff_eq.mp other
  unfold bodyLines
  rw [List.dropLast_concat, List.reverse_append, List.reverse_cons, List.append_assoc,
    List.takeWhile_append_of_pos begins, List.singleton_append, List.takeWhile_cons, if_neg stops,
    List.append_nil, List.reverse_reverse]

theorem cellTexts_edged {parts : List (List Char)} (absent : ∀ part ∈ parts, '│' ∉ part) :
    cellTexts (edged '│' parts) = parts.map trim := by
  unfold cellTexts edged
  rw [pieces, if_pos rfl, List.tail_cons, pieces_flatMap_append absent, List.dropLast_concat]

/-! ### Rows -/

theorem largest_le {values : List Nat} {bound : Nat} (all : ∀ value ∈ values, value ≤ bound) :
    largest values ≤ bound := by
  induction values with
  | nil => exact Nat.zero_le bound
  | cons first others inductionHypothesis =>
    obtain ⟨here, later⟩ := List.forall_mem_cons.mp all
    exact Nat.max_le.mpr ⟨here, inductionHypothesis later⟩

theorem le_largest {values : List Nat} {value : Nat} (member : value ∈ values) :
    value ≤ largest values := by
  induction values with
  | nil => cases member
  | cons first others inductionHypothesis =>
    rcases List.mem_cons.mp member with rfl | later
    · exact Nat.le_max_left _ _
    · exact Nat.le_trans (inductionHypothesis later) (Nat.le_max_right _ _)

/-- A row of a grid: what is taken from each column, with the column's alignment and width. -/
def gridRow (columns : List (GridColumn (List Char))) (widths : List Nat)
    (textOf : GridColumn (List Char) → List Char) : List (Justify × List Char × Nat) :=
  List.zipWith (fun column width => (column.justify, textOf column, width)) columns widths

/-- The row of a grid at an index, below the header. -/
def bodyRow (columns : List (GridColumn (List Char))) (widths : List Nat) (index : Nat) :
    List (Justify × List Char × Nat) :=
  gridRow columns widths fun column => column.cells.getD index []

/-- The lines of the body of a grid. -/
def gridBody (columns : List (GridColumn (List Char))) (count : Nat) (widths : List Nat) :
    List (List Char) :=
  (List.range count).flatMap fun index => rowLines '│' (bodyRow columns widths index)

/-! ### Lines of a grid -/

variable {columns : List (GridColumn (List Char))} {widths : List Nat}

theorem notMem_edged {edge c : Char} (other : c ≠ edge) {parts : List (List Char)}
    (absent : ∀ part ∈ parts, c ∉ part) : c ∉ edged edge parts := by
  refine List.not_mem_cons_of_ne_of_not_mem other fun member => ?_
  obtain ⟨part, among, inside⟩ := List.mem_flatMap.mp member
  rcases List.mem_append.mp inside with here | last
  · exact absent part among here
  · exact other (List.mem_singleton.mp last)

theorem notMem_rule {left line crossing right c : Char}
    (others : c ≠ left ∧ c ≠ line ∧ c ≠ crossing ∧ c ≠ right) :
    c ∉ rule left line crossing right widths := by
  obtain ⟨notLeft, notLine, notCrossing, notRight⟩ := others
  refine List.not_mem_cons_of_ne_of_not_mem notLeft fun member => ?_
  rcases List.mem_append.mp member with inside | last
  · rcases mem_of_mem_join inside with crosses | ⟨part, among, here⟩
    · exact notCrossing crosses
    · obtain ⟨width, -, rfl⟩ := List.mem_map.mp among
      exact notLine (List.eq_of_mem_replicate here)
  · exact notRight (List.mem_singleton.mp last)

theorem notMem_of_mem_rowLines {edge : Char} (other : '\n' ≠ edge)
    {row : List (Justify × List Char × Nat)} {line : List Char}
    (member : line ∈ rowLines edge row) : '\n' ∉ line := by
  obtain ⟨index, -, rfl⟩ := List.mem_map.mp member
  refine notMem_edged other fun part among => ?_
  simp only [List.map_map] at among
  obtain ⟨⟨justify, text, width⟩, -, rfl⟩ := List.mem_map.mp among
  show '\n' ∉ (cellLines justify width text).getD index (spaces width)
  rcases Nat.lt_or_ge index (cellLines justify width text).length with inside | outside
  · rw [List.getD_eq_getElem _ _ inside]
    exact notMem_of_mem_cellLines (List.getElem_mem inside)
  · rw [List.getD_eq_default _ _ outside]
    exact fun here => absurd (List.eq_of_mem_replicate here) (by decide)

/-- No line of a grid holds a line feed. -/
theorem notMem_of_mem_gridLines {count : Nat} {line : List Char}
    (member : line ∈ gridLines columns count widths) : '\n' ∉ line := by
  unfold gridLines at member
  simp only [List.mem_append, List.mem_cons, List.not_mem_nil, or_false] at member
  rcases member with ((rfl | inHeader) | rfl | inBody) | rfl
  · exact notMem_rule (by decide)
  · exact notMem_of_mem_rowLines (by decide) inHeader
  · exact notMem_rule (by decide)
  · obtain ⟨index, -, inRow⟩ := List.mem_flatMap.mp inBody
    exact notMem_of_mem_rowLines (by decide) inRow
  · exact notMem_rule (by decide)

theorem head?_truncate_cons {edge : Char} (one : cellsOf edge = 1) {width : Nat}
    (positive : 0 < width) (rest : List Char) :
    (truncate .fold width (edge :: rest)).head? = some edge := by
  unfold truncate
  split
  · rfl
  · show (crop width (edge :: rest)).head? = _
    rw [crop, if_neg (Nat.ne_of_gt positive), padEnd, fitting, if_pos (by omega)]
    rfl

/-- The rows of a grid are those of the lines of its body. -/
theorem readRows_gridLines (count : Nat) {width : Nat} (positive : 0 < width)
    (before : List (List Char)) :
    readRows (join '\n' (before ++ (gridLines columns count widths).map (truncate .fold width))) =
      ((gridBody columns count widths).map (truncate .fold width)).map cellTexts := by
  have split : (gridLines columns count widths).map (truncate .fold width) =
      (rule '┏' '━' '┳' '┓' widths ::
        rowLines '┃' (gridRow columns widths GridColumn.header)).map (truncate .fold width) ++
      truncate .fold width (rule '┡' '━' '╇' '┩' widths) ::
        (gridBody columns count widths).map (truncate .fold width) ++
      [truncate .fold width (rule '└' '─' '┴' '┘' widths)] := by
    simp [gridLines, gridBody, bodyRow, gridRow]
  have unbroken : ∀ line ∈ (gridLines columns count widths).map (truncate .fold width),
      '\n' ∉ line := List.forall_mem_map.mpr fun line member => by
    have counted := count_truncate_le (by decide : '\n' ∉ drawn) .fold width line
    rw [List.count_eq_zero_of_not_mem (notMem_of_mem_gridLines member)] at counted
    exact List.count_eq_zero.mp (Nat.eq_zero_of_le_zero counted)
  have filled : (gridLines columns count widths).map (truncate .fold width) ≠ [] := by
    rw [split]
    exact List.append_ne_nil_of_right_ne_nil _ (List.cons_ne_nil _ _)
  have edged : ∀ line ∈ (gridBody columns count widths).map (truncate .fold width),
      line.head? = some '│' := List.forall_mem_map.mpr fun line member => by
    obtain ⟨index, -, inRow⟩ := List.mem_flatMap.mp member
    obtain ⟨_, -, rfl⟩ := List.mem_map.mp inRow
    exact head?_truncate_cons (by decide +kernel) positive _
  have other : (truncate .fold width (rule '┡' '━' '╇' '┩' widths)).head? ≠ some '│' := by
    have heavy : (truncate .fold width (rule '┡' '━' '╇' '┩' widths)).head? = some '┡' :=
      head?_truncate_cons (by decide +kernel) positive _
    rw [heavy]
    decide
  obtain ⟨others, found⟩ := exists_pieces_join before filled unbroken
  unfold readRows
  rw [found, split, ← List.append_assoc, ← List.append_assoc, bodyLines_append _ other edged]

/-! ### Marks in rows -/

section

variable {mark : Char} (foreign : mark ∉ drawn)

theorem count_edged {edge : Char} (other : mark ≠ edge) (parts : List (List Char)) :
    (edged edge parts).count mark = (parts.map (List.count mark)).sum := by
  unfold edged
  rw [List.count_cons_of_ne (Ne.symm other)]
  induction parts with
  | nil => rfl
  | cons first others inductionHypothesis =>
    have none : [edge].count mark = 0 :=
      List.count_eq_zero_of_not_mem fun member => other (List.mem_singleton.mp member)
    rw [List.flatMap_cons, List.count_append, List.count_append, none, inductionHypothesis]
    rfl

/-- A row has as many lines as its tallest cell. -/
theorem rowLines_eq (edge : Char) (row : List (Justify × List Char × Nat)) :
    rowLines edge row =
      (List.range (max 1 (largest (row.map fun entry =>
        (cellLines entry.1 entry.2.2 entry.2.1).length)))).map fun index =>
          edged edge (row.map fun entry =>
            (cellLines entry.1 entry.2.2 entry.2.1).getD index (spaces entry.2.2)) := by
  simp only [rowLines, List.map_map, Function.comp_def]

include foreign in
/-- The lines of a row hold a mark at most as often as its texts. -/
theorem count_rowLines_le {edge : Char} (other : mark ≠ edge)
    (row : List (Justify × List Char × Nat)) :
    (rowLines edge row).flatten.count mark ≤
      (row.map fun entry => entry.2.1.count mark).sum := by
  have enough : ∀ entry ∈ row, (cellLines entry.1 entry.2.2 entry.2.1).length ≤
      max 1 (largest (row.map fun entry => (cellLines entry.1 entry.2.2 entry.2.1).length)) :=
    fun entry member => Nat.le_trans
      (le_largest (List.mem_map.mpr ⟨entry, member, rfl⟩)) (Nat.le_max_right _ _)
  rw [rowLines_eq]
  generalize max 1 (largest _) = height at enough ⊢
  rw [List.count_flatten, List.map_map]
  simp only [Function.comp_def, count_edged other, List.map_map]
  induction row with
  | nil => simp
  | cons entry rest inductionHypothesis =>
    obtain ⟨here, later⟩ := List.forall_mem_cons.mp enough
    simp only [List.map_cons, List.sum_cons, List.sum_map_add]
    refine Nat.add_le_add ?_ (inductionHypothesis later)
    rw [sum_count_getD (count_spaces foreign _) here]
    exact count_cellLines_le foreign entry.1 entry.2.2 entry.2.1

/-- Row by row the cells are counted as they are column by column. -/
theorem sum_count_rows {columns : List (GridColumn (List Char))} {count : Nat}
    (enough : ∀ column ∈ columns, column.cells.length ≤ count) :
    ((List.range count).map fun index =>
        (columns.map fun column => (column.cells.getD index []).count mark).sum).sum =
      (columns.map fun column => column.cells.flatten.count mark).sum := by
  induction columns with
  | nil => simp
  | cons column rest inductionHypothesis =>
    obtain ⟨here, later⟩ := List.forall_mem_cons.mp enough
    simp only [List.map_cons, List.sum_cons, List.sum_map_add]
    rw [sum_count_getD rfl here, inductionHypothesis later]

theorem sum_gridRow_le (view : List Char → Nat) (textOf : GridColumn (List Char) → List Char)
    (columns : List (GridColumn (List Char))) (widths : List Nat) :
    ((gridRow columns widths textOf).map fun entry => view entry.2.1).sum ≤
      (columns.map fun column => view (textOf column)).sum := by
  induction columns generalizing widths with
  | nil => exact Nat.le_refl _
  | cons column rest inductionHypothesis =>
    cases widths with
    | nil => exact Nat.zero_le _
    | cons width others => exact Nat.add_le_add_left (inductionHypothesis others) _

include foreign in
/-- The body of a grid holds a mark at most as often as the cells. -/
theorem count_gridBody_le (other : mark ≠ '│') {count : Nat}
    (enough : ∀ column ∈ columns, column.cells.length ≤ count) :
    (gridBody columns count widths).flatten.count mark ≤
      (columns.map fun column => column.cells.flatten.count mark).sum := by
  rw [← sum_count_rows enough]
  unfold gridBody
  induction List.range count with
  | nil => exact Nat.le_refl _
  | cons index rest inductionHypothesis =>
    rw [List.flatMap_cons, List.flatten_append, List.count_append, List.map_cons, List.sum_cons]
    have row := sum_gridRow_le (List.count mark) (fun column => column.cells.getD index [])
      columns widths
    exact Nat.add_le_add ((count_rowLines_le foreign other _).trans row) inductionHypothesis

theorem count_cellTexts_le (line : List Char) :
    (cellTexts line).flatten.count mark ≤ line.count mark := by
  have inner : ((pieces '│' line).tail.dropLast).flatten.Sublist line :=
    (((List.dropLast_sublist _).trans (List.tail_sublist _)).flatten).trans
      (flatten_pieces_sublist '│' line)
  exact (count_flatten_map_le (fun part => (trim_sublist part).count_le mark) _).trans
    (inner.count_le mark)

include foreign in
/-- The rows of a grid tell a mark at most as often as the cells hold it. -/
theorem count_readRows_le (other : mark ≠ '│') {count : Nat}
    (enough : ∀ column ∈ columns, column.cells.length ≤ count) {width : Nat}
    (positive : 0 < width) (before : List (List Char)) :
    (readRows (join '\n' (before ++
        (gridLines columns count widths).map (truncate .fold width)))).flatten.flatten.count mark ≤
      (columns.map fun column => column.cells.flatten.count mark).sum := by
  refine Nat.le_trans ?_ (@count_gridBody_le columns widths mark foreign other count enough)
  rw [readRows_gridLines count positive before]
  refine Nat.le_trans ?_
    (count_flatten_map_le (count_truncate_le foreign .fold width) (gridBody columns count widths))
  induction (gridBody columns count widths).map (truncate .fold width) with
  | nil => exact Nat.le_refl _
  | cons line rest inductionHypothesis =>
    rw [List.map_cons, List.flatten_cons, List.flatten_append, List.flatten_cons,
      List.count_append, List.count_append]
    exact Nat.add_le_add (count_cellTexts_le line) inductionHypothesis

end

end CatalogReader.Layout
