/-
Spans of a text in its lines, by the rules of rich for texts that are divided, trimmed and padded. A
span goes with its characters: it is divided where the text is, it covers all the spaces of a tab,
it loses the characters that a line loses at its end, and it moves with a line that is placed.
-/

import CatalogReader.Layout.Paragraph
import CatalogReader.Text.Span

namespace CatalogReader.Layout

open CatalogReader.Text

/-! ### Tabs -/

/-- The spans of a line behind the part up to a tab: of that part, behind so many characters, and of
the rest. The part begins at a position and at a cell. -/
def spansOfTabs (first used before : Nat) (spans : List Span) :
    List (List Char) → List Span
  | [] => []
  | [last] => (spans.filterMap (Span.within? first last.length)).map (Span.shift before)
  | part :: rest =>
    let reached := used + cells part
    let next := (reached / tabStop + 1) * tabStop
    let length := part.length + (next - reached)
    let here := (spans.filterMap (Span.within? first (part.length + 1))).map fun span =>
      if span.stop = part.length + 1 then { span with stop := length } else span
    here.map (Span.shift before) ++
      spansOfTabs (first + part.length + 1) next (before + length) spans rest

/-- The spans of a line after spaces are put in for its tabs. -/
def expandSpans (line : List Char) (spans : List Span) : List Span :=
  match pieces '\t' line with
  | [_] => spans
  | parts => spansOfTabs 0 0 0 spans parts

/-! ### Lines -/

/-- The spans of a text placed in a line. -/
def placeSpans (justify : Justify) (overflow : Overflow) (width : Nat) (text : List Char)
    (spans : List Span) : List Span :=
  match justify with
  | .natural => spansOfBeginning text.length (truncate overflow width text).length spans
  | .left => spansOfBeginning text.length (truncate overflow width text).length spans
  | .center =>
    let trimmed := trimEnd text
    let shown := truncate overflow width trimmed
    let kept := spansOfBeginning trimmed.length shown.length
      (spansOfBeginning text.length trimmed.length spans)
    kept.map (Span.shift ((width - cells shown) / 2))
  | .right =>
    let trimmed := trimEnd text
    let shown := truncate overflow width trimmed
    let kept := spansOfBeginning trimmed.length shown.length
      (spansOfBeginning text.length trimmed.length spans)
    kept.map (Span.shift (width - cells shown))

/-- The spans of the lines of a text that holds no line feed. -/
def breakSpans (justify : Justify) (overflow : Overflow) (width : Nat) (line : List Char)
    (spans : List Span) : List (List Span) :=
  let parts := breakLine overflow width (expandTabs 0 line)
  (parts.zip (spansOfParts 0 (expandSpans line spans) parts)).map fun (part, spans) =>
    let trimmed := trimExcess width part
    placeSpans justify overflow width trimmed
      (spansOfBeginning part.length trimmed.length spans)

/-- The spans of the lines of a text. -/
def wrapSpans (justify : Justify) (overflow : Overflow) (width : Nat) (text : List Char)
    (spans : List Span) : List (List Span) :=
  let lines := pieces '\n' text
  (lines.zip (spansOfParts 1 spans lines)).flatMap fun (line, spans) =>
    breakSpans justify overflow width line spans

theorem spansOfTabs_nil (first used before : Nat) (parts : List (List Char)) :
    spansOfTabs first used before [] parts = [] := by
  induction parts generalizing first used before with
  | nil => rfl
  | cons part rest inductionHypothesis =>
    cases rest with
    | nil => simp [spansOfTabs]
    | cons => simp [spansOfTabs, inductionHypothesis]

@[simp] theorem expandSpans_nil (line : List Char) : expandSpans line [] = [] := by
  unfold expandSpans
  split
  · rfl
  · exact spansOfTabs_nil 0 0 0 _

@[simp] theorem placeSpans_nil (justify : Justify) (overflow : Overflow) (width : Nat)
    (text : List Char) : placeSpans justify overflow width text [] = [] := by
  cases justify <;> simp [placeSpans]

/-- The lines of a text without spans have none. -/
theorem mem_wrapSpans_nil (justify : Justify) (overflow : Overflow) (width : Nat)
    (text : List Char) (spans : List Span)
    (member : spans ∈ wrapSpans justify overflow width text []) : spans = [] := by
  obtain ⟨⟨line, ofLine⟩, inLines, inBroken⟩ := List.mem_flatMap.1 member
  have none := mem_spansOfParts_nil 1 _ ofLine (List.of_mem_zip inLines).2
  subst none
  obtain ⟨⟨part, ofPart⟩, inParts, rfl⟩ := List.mem_map.1 inBroken
  rw [expandSpans_nil] at inParts
  have none := mem_spansOfParts_nil 0 _ ofPart (List.of_mem_zip inParts).2
  subst none
  simp

/-! ### Cutting lines at their spans -/

/-- A text in pieces that end where a position is marked. -/
def cutAtMarks (isMark : Nat → Bool) (position : Nat) : List Char → List (List Char)
  | [] => [[]]
  | c :: rest =>
    let others := cutAtMarks isMark (position + 1) rest
    if isMark (position + 1) then [c] :: others
    else
      match others with
      | [] => [[c]]
      | first :: more => (c :: first) :: more

/-- The pieces of a line between the ends of its spans. -/
def segments (line : List Char) (spans : List Span) : List (List Char) :=
  cutAtMarks (fun position => spans.any fun span => span.start == position || span.stop == position)
    0 line

/-- Segments cut to exactly a width. What follows the segment that reaches the width is lost, also
when it covers no cells. -/
def cropSegments (width : Nat) : List (List Char) → List Char
  | [] => []
  | segment :: rest =>
    if cells segment < width then segment ++ cropSegments (width - cells segment) rest
    else crop width segment

/-- A line with spans that is cut where it is wider than the console. -/
def truncateSegments (width : Nat) (line : List Char) (spans : List Span) : List Char :=
  if cells line ≤ width then line else cropSegments width (segments line spans)

end CatalogReader.Layout
