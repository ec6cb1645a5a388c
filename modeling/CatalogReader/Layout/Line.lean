/-
Single lines of a given width, by the rules of rich: `set_cell_size`, and `truncate` and `align` of
its texts. A text that covers more cells than its line has is cut; what is missing at the end of a
line is made up with spaces. A wide character of which only one half would fit gives way to a space,
so a cut line covers exactly its width.
-/

import CatalogReader.Text.Blank
import CatalogReader.Text.Cells

namespace CatalogReader.Layout

open CatalogReader.Text

/-- What becomes of a word that is wider than its line. -/
inductive Overflow where
  /-- It goes on in the lines that follow. -/
  | fold
  /-- It is cut, and an ellipsis ends it. -/
  | ellipsis
  deriving DecidableEq, Repr

/-- On which side of a line its text stands. -/
inductive Justify where
  /-- On the left, without spaces that fill the line. -/
  | natural
  | left
  | center
  | right
  deriving DecidableEq, Repr

/-- A count of spaces. -/
def spaces (count : Nat) : List Char :=
  List.replicate count ' '

@[simp] theorem cells_spaces (count : Nat) : cells (spaces count) = count := by
  induction count with
  | zero => rfl
  | succ count inductionHypothesis =>
    have one : cellsOf ' ' = 1 := rfl
    rw [spaces, List.replicate_succ, cells_cons, one]
    rw [spaces] at inductionHypothesis
    omega

/-! ### Cutting -/

/-- The longest beginning of a text that covers at most so many cells. -/
def fitting (width : Nat) : List Char → List Char
  | [] => []
  | c :: rest => if cellsOf c ≤ width then c :: fitting (width - cellsOf c) rest else []

/-- A text with spaces at the end up to a width. -/
def padEnd (width : Nat) (text : List Char) : List Char :=
  text ++ spaces (width - cells text)

/-- A text cut to exactly a width. -/
def crop (width : Nat) (text : List Char) : List Char :=
  if width = 0 then [] else padEnd width (fitting width text)

/-- A text that is cut where it is wider than its line. -/
def truncate (overflow : Overflow) (width : Nat) (text : List Char) : List Char :=
  if cells text ≤ width then text
  else
    match overflow with
    | .fold => crop width text
    | .ellipsis => crop (width - 1) text ++ ['…']

/-- A text without the blanks at its end that make it longer than its line. -/
def trimExcess (width : Nat) (text : List Char) : List Char :=
  let blanks := (text.reverse.takeWhile isBlank).length
  text.take (text.length - min blanks (text.length - width))

/-! ### Placing -/

/-- A text placed in a line. -/
def place (justify : Justify) (overflow : Overflow) (width : Nat) (text : List Char) : List Char :=
  match justify with
  | .natural => text
  | .left => padEnd width (truncate overflow width text)
  | .center =>
    let shown := truncate overflow width (trimEnd text)
    padEnd width (spaces ((width - cells shown) / 2) ++ shown)
  | .right =>
    let shown := truncate overflow width (trimEnd text)
    spaces (width - cells shown) ++ shown

end CatalogReader.Layout
