/-
Widths of the columns of a grid, as a `Table` of rich calculates and collapses them. A column is as
wide as its widest text and the space on both sides. When the columns do not fit together, the
widest ones are narrowed to the next widest, again and again, until no excess is left; each column
is then measured once more within its new width.
-/

import CatalogReader.Rounding
import CatalogReader.Text.Blank
import CatalogReader.Text.Cells
import CatalogReader.Text.Cut

namespace CatalogReader.Layout

open CatalogReader.Text

/-! ### Measuring -/

/-- The largest of some numbers, and zero for none. -/
def largest (values : List Nat) : Nat :=
  values.foldr max 0

/-- The cells that the widest line of a text covers. -/
def textWidth (text : List Char) : Nat :=
  largest ((pieces '\n' (text.map fun c => if endsLine c then '\n' else c)).map cells)

/-- The spaces beside the text of a cell. -/
def padding : Nat := 2

/-- The width of a cell within a limit. A cell that has no room for text fills the limit. -/
def cellWidth (limit : Nat) (text : List Char) : Nat :=
  if limit ≤ padding then limit else min limit (textWidth text + padding)

/-- The width of a column of cells within a limit. -/
def columnWidth (limit : Nat) (texts : List (List Char)) : Nat :=
  largest (texts.map (cellWidth limit))

/-! ### Narrowing -/

/-- Takes the excess in even shares from the columns of a width, and at most so much from each. The
second number is the count of the columns that have a share in the excess. -/
def takeShares (widest most : Nat) (excess shares : Nat) : List Nat → List Nat
  | [] => []
  | width :: rest =>
    if width = widest then
      let taken := min most (nearestQuotient excess shares)
      (width - taken) :: takeShares widest most (excess - taken) (shares - 1) rest
    else width :: takeShares widest most excess shares rest

/-- The cells that columns take together. -/
def total (widths : List Nat) : Nat :=
  widths.foldr (· + ·) 0

/-- The widths after one round in which only the widest columns lose cells. -/
def narrowOnce (limit : Nat) (widths : List Nat) : List Nat :=
  let widest := largest widths
  let next := largest (widths.filter (· != widest))
  let excess := total widths - limit
  takeShares widest (min excess (widest - next)) excess (widths.count widest) widths

/-- The widths after as many rounds as take something away. -/
def narrow (limit : Nat) (widths : List Nat) : List Nat :=
  let narrowed := narrowOnce limit widths
  if total narrowed < total widths then narrow limit narrowed else widths
termination_by total widths

/-- The widths of columns that share a limit. -/
def columnWidths (limit : Nat) (columns : List (List (List Char))) : List Nat :=
  let wanted := columns.map fun texts => max 1 (columnWidth limit texts)
  if total wanted ≤ limit then wanted else List.zipWith columnWidth (narrow limit wanted) columns

end CatalogReader.Layout
