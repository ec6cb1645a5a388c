/-
Texts as lines of a given width, by the rules of rich: `Text.wrap`, with `divide_line` for the words
and `expand_tabs` for the tabs. Line feeds end lines, and a tab moves to the next multiple of eight
cells. A word, with the blanks behind it, begins a new line when it does not fit into the current
one; blanks at the end of a line may exceed the width and are dropped.
-/

import CatalogReader.Layout.Line
import CatalogReader.Text.Cut

namespace CatalogReader.Layout

open CatalogReader.Text

/-! ### Words and tabs -/

/-- The cells from one tab stop to the next. -/
def tabStop : Nat := 8

/-- A text behind so many cells of its line, with spaces for its tabs. -/
def expandTabs (used : Nat) : List Char → List Char
  | [] => []
  | '\t' :: rest =>
    let next := (used / tabStop + 1) * tabStop
    spaces (next - used) ++ expandTabs next rest
  | c :: rest => c :: expandTabs (used + cellsOf c) rest

/-- The words of a line, each with the blanks behind it, the first one also with those in front. -/
def spacedWords (line : List Char) : List (List Char) :=
  match line.splitBy fun left right => !(isBlank left && !isBlank right) with
  | first :: second :: others =>
    if first.all isBlank then (first ++ second) :: others else first :: second :: others
  | few => few

/-- The pieces of a word, each as long as the width allows, behind a piece in reverse order. -/
def chopAfter (width : Nat) (piece : List Char) : List Char → List (List Char)
  | [] => [piece.reverse]
  | c :: rest =>
    if cells piece + cellsOf c ≤ width then chopAfter width (c :: piece) rest
    else piece.reverse :: chopAfter width [c] rest

/-- The pieces of a word, each as long as the width allows. -/
def chop (width : Nat) (word : List Char) : List (List Char) :=
  chopAfter width [] word

theorem flatten_chopAfter (width : Nat) (piece word : List Char) :
    (chopAfter width piece word).flatten = piece.reverse ++ word := by
  induction word generalizing piece with
  | nil => simp [chopAfter]
  | cons c rest inductionHypothesis =>
    unfold chopAfter
    split <;> simp [inductionHypothesis]

/-- Chopping loses nothing. -/
theorem flatten_chop (width : Nat) (word : List Char) : (chop width word).flatten = word := by
  simp [chop, flatten_chopAfter]

/-! ### Lines -/

/-- Lines being filled: the full ones, the last one first, and the current one. -/
structure Lines where
  full : List (List Char)
  current : List Char

namespace Lines

/-- The lines with a new one begun, unless nothing is written yet. -/
def newLine (lines : Lines) : Lines :=
  if lines.full.isEmpty && lines.current.isEmpty then lines else ⟨lines.current :: lines.full, []⟩

/-- The lines with text added to the current one. -/
def append (lines : Lines) (text : List Char) : Lines :=
  { lines with current := lines.current ++ text }

/-- The lines with one more word. Only the word without its blanks has to fit. -/
def addWord (overflow : Overflow) (width : Nat) (lines : Lines) (word : List Char) : Lines :=
  let wanted := cells (trimEnd word)
  if cells lines.current + wanted ≤ width then lines.append word
  else if width < wanted && overflow == .fold then
    (chop width word).foldl (fun lines piece => lines.newLine.append piece) lines
  else lines.newLine.append word

/-- All lines in their order. -/
def toList (lines : Lines) : List (List Char) :=
  (lines.current :: lines.full).reverse

@[simp] theorem flatten_newLine (lines : Lines) :
    lines.newLine.toList.flatten = lines.toList.flatten := by
  unfold newLine
  split <;> simp [toList]

@[simp] theorem flatten_append (lines : Lines) (text : List Char) :
    (lines.append text).toList.flatten = lines.toList.flatten ++ text := by
  simp [append, toList]

theorem flatten_foldl_append (lines : Lines) (texts : List (List Char)) :
    (texts.foldl (fun lines piece => lines.newLine.append piece) lines).toList.flatten =
      lines.toList.flatten ++ texts.flatten := by
  induction texts generalizing lines with
  | nil => simp
  | cons first others inductionHypothesis => simp [inductionHypothesis]

/-- Adding a word adds its characters and no other ones. -/
theorem flatten_addWord (overflow : Overflow) (width : Nat) (lines : Lines) (word : List Char) :
    (lines.addWord overflow width word).toList.flatten = lines.toList.flatten ++ word := by
  unfold addWord
  dsimp only
  split
  · simp
  · split
    · rw [flatten_foldl_append, flatten_chop]
    · simp

end Lines

/-- The lines of a text that holds no line feed, with their blanks. -/
def breakLine (overflow : Overflow) (width : Nat) (line : List Char) : List (List Char) :=
  ((spacedWords line).foldl (Lines.addWord overflow width) ⟨[], []⟩).toList

/-- The lines of a text. -/
def wrap (justify : Justify) (overflow : Overflow) (width : Nat) (text : List Char) :
    List (List Char) :=
  (pieces '\n' text).flatMap fun line =>
    (breakLine overflow width (expandTabs 0 line)).map fun part =>
      truncate overflow width (place justify overflow width (trimExcess width part))

end CatalogReader.Layout
