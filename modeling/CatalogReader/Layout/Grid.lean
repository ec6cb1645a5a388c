/-
Grids of cells drawn with lines, as a `Table` of rich is drawn with the box that has heavy heads.
The lines around the header are heavy and those around the body are light; a row is as tall as its
tallest cell.
-/

import CatalogReader.Layout.Paragraph
import CatalogReader.Layout.Widths

namespace CatalogReader.Layout

open CatalogReader.Text

/-- A column of a grid: its header and its cells from top to bottom. -/
structure GridColumn (Cell : Type) where
  justify : Justify
  header : Cell
  cells : List Cell

namespace GridColumn

variable {Cell Other : Type}

/-- The header and the cells. -/
def all (column : GridColumn Cell) : List Cell :=
  column.header :: column.cells

/-- The column with each cell replaced. -/
def map (replace : Cell → Other) (column : GridColumn Cell) : GridColumn Other :=
  ⟨column.justify, replace column.header, column.cells.map replace⟩

end GridColumn

/-- The lines of a cell of a width, each with a space on both sides. A cell that has no room for
text has no lines. -/
def cellLines (justify : Justify) (width : Nat) (text : List Char) : List (List Char) :=
  if width ≤ padding then []
  else (wrap justify .ellipsis (width - padding) text).map fun line => ' ' :: line ++ [' ']

/-- The cells of a row side by side with an edge around each one. -/
def edged (edge : Char) (parts : List (List Char)) : List Char :=
  edge :: parts.flatMap (· ++ [edge])

/-- The lines of a row: the columns' alignments, its texts and their widths. -/
def rowLines (edge : Char) (row : List (Justify × List Char × Nat)) : List (List Char) :=
  let blocks := row.map fun (justify, text, width) => (cellLines justify width text, width)
  let height := max 1 (largest (blocks.map fun (lines, _) => lines.length))
  (List.range height).map fun index =>
    edged edge (blocks.map fun (lines, width) => lines.getD index (spaces width))

/-- A horizontal line with corners at its ends and crossings between the columns. -/
def rule (left line crossing right : Char) (widths : List Nat) : List Char :=
  left :: join crossing (widths.map fun width => List.replicate width line) ++ [right]

/-- The lines of a grid whose columns have these widths, with `count` rows below the header. -/
def gridLines (columns : List (GridColumn (List Char))) (count : Nat) (widths : List Nat) :
    List (List Char) :=
  let row (textOf : GridColumn (List Char) → List Char) :=
    List.zipWith (fun column width => (column.justify, textOf column, width)) columns widths
  rule '┏' '━' '┳' '┓' widths :: rowLines '┃' (row GridColumn.header) ++
    rule '┡' '━' '╇' '┩' widths ::
      (List.range count).flatMap (fun index =>
        rowLines '│' (row fun column => column.cells.getD index [])) ++
    [rule '└' '─' '┴' '┘' widths]

end CatalogReader.Layout
