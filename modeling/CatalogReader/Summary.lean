/-
Summaries of tables for people: `build_summary`, which fills a table of rich, and `render_summary`
and the printing of the console, which lay it out. There is a title, and a grid with heavy heads and
one row for each column. Names, types and the title are marked-up texts. A type without a text is
found before any markup is read, the cells are read column by column, and the title is read last.
When all are read the title is shown, and then the cells that have room for text.
-/

import CatalogReader.Layout.Grid
import CatalogReader.Markup.Block
import CatalogReader.Table

namespace CatalogReader.Summary

open CatalogReader.Layout CatalogReader.Text

/-- Why a table cannot be shown. -/
inductive Fault where
  /-- A type has no text. -/
  | namelessType
  /-- A text has unsound markup. -/
  | markup (fault : Markup.Fault)
  deriving DecidableEq, Repr

/-- The four columns of the grid, as marked-up texts, from the columns of a table and the texts of
their types. -/
def gridColumns (columns : List Column) (types : List String) : List (GridColumn (List Char)) :=
  let numbers := (List.range columns.length).map fun index => Nat.toDigits 10 (index + 1)
  [⟨.right, ['#'], numbers⟩,
   ⟨.left, "Column".toList, columns.map fun column => (column.name.getD "").toList⟩,
   ⟨.left, "Type".toList, types.map String.toList⟩,
   ⟨.left, "Nullable".toList,
    columns.map fun column => (if column.isNullable then "YES" else "NO").toList⟩]

/-- The cells of a grid of four columns that the lines around them cover. -/
def edges : Nat := 5

section

variable (emoji : Markup.EmojiTable)

/-- What a cell shows. Cells without room for text are not read. -/
def shownCell (limit : Nat) (text : List Char) : Except Markup.Fault Markup.Rendered :=
  if limit ≤ padding then .ok ⟨text, []⟩ else Markup.render emoji text

/-- A column with what its cells show. -/
def shownColumn (limit : Nat) (column : GridColumn (List Char)) :
    Except Markup.Fault (GridColumn Markup.Rendered) := do
  let header ← shownCell emoji limit column.header
  let cells ← column.cells.mapM (shownCell emoji limit)
  return ⟨column.justify, header, cells⟩

end

/-- Whether a style that cannot be read has a place in a column of a width. -/
def showsFlaw (column : GridColumn Markup.Rendered) (width : Nat) : Bool :=
  padding < width &&
    column.all.any fun cell => cell.showsFlaw column.justify .ellipsis (width - padding)

/-- The title of the table, as a marked-up text. -/
def title (table : Table) : List Char :=
  "Columns in ".toList ++ table.name.toList

section

variable (emoji : Markup.EmojiTable)

/-- The lines of the title and the grid, cut to the console. -/
def titledLines (width : Nat) (table : Table) (types : List String) :
    Except Markup.Fault (List (List Char)) := do
  let limit := width - edges
  let columns ← (gridColumns table.columns types).mapM (shownColumn emoji limit)
  let texts := columns.map fun column => column.map Markup.Rendered.text
  let widths := columnWidths limit (texts.map GridColumn.all)
  let heading ← Markup.render emoji (title table)
  let titleLines ← heading.linesWithin width .center .fold (total widths + edges)
  if (List.zipWith showsFlaw columns widths).any id then .error .emptyComponent
  else
    return titleLines ++ (gridLines texts table.columns.length widths).map (truncate .fold width)

/-- The lines of a summary on a console of a width. -/
def lines (width : Nat) (table : Table) : Except Fault (List (List Char)) :=
  match table.columns.mapM fun column => column.type.text? with
  | none => .error .namelessType
  | some types =>
    if width = 0 then .ok []
    else
      match titledLines emoji width table types with
      | .error fault => .error (.markup fault)
      | .ok found => .ok found

/-- The text of a summary, without a line feed at its end. -/
def render (width : Nat) (table : Table) : Except Fault String :=
  (lines emoji width table).map fun found => String.ofList (join '\n' found)

end

/-- The width of a summary in a file. -/
def fileWidth : Nat := 100

end CatalogReader.Summary
