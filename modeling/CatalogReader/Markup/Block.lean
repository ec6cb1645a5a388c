/-
Rendered texts as lines, as rich makes lines of a `Text` with its spans. The styles are looked at
when the lines are made, so a style that cannot be read, because a colour in it has an empty
component, spoils a text only where it has come to be shown.
-/

import CatalogReader.Layout.Spans
import CatalogReader.Markup.Basic

namespace CatalogReader.Markup

open CatalogReader.Layout CatalogReader.Text

/-- Whether a colour of the style of a span has an empty component. -/
def isFlawed (span : Span) : Bool :=
  match Style.ofText span.style with
  | .error .emptyComponent => true
  | _ => false

namespace Rendered

/-- Whether a flawed span has a place in the lines of a text. -/
def showsFlaw (justify : Justify) (overflow : Overflow) (width : Nat) (rendered : Rendered) :
    Bool :=
  let flawed := rendered.spans.filter isFlawed
  (wrapSpans justify overflow width rendered.text flawed).any fun spans => !spans.isEmpty

/-- The lines of a rendered text. -/
def lines (justify : Justify) (overflow : Overflow) (width : Nat) (rendered : Rendered) :
    Except Fault (List (List Char)) :=
  if rendered.showsFlaw justify overflow width then .error .emptyComponent
  else .ok (wrap justify overflow width rendered.text)

/-- The lines of a rendered text, cut to the console. -/
def linesWithin (console : Nat) (justify : Justify) (overflow : Overflow) (width : Nat)
    (rendered : Rendered) : Except Fault (List (List Char)) :=
  (rendered.lines justify overflow width).map fun lines =>
    List.zipWith (truncateSegments console) lines
      (wrapSpans justify overflow width rendered.text rendered.spans)

theorem showsFlaw_of_spans_eq_nil (justify : Justify) (overflow : Overflow) (width : Nat)
    (text : List Char) : (Rendered.mk text []).showsFlaw justify overflow width = false := by
  unfold showsFlaw
  rw [List.any_eq_false]
  intro spans member
  simp [mem_wrapSpans_nil justify overflow width text spans member]

/-- A text without spans has all its lines. -/
theorem lines_of_spans_eq_nil (justify : Justify) (overflow : Overflow) (width : Nat)
    (text : List Char) :
    (Rendered.mk text []).lines justify overflow width =
      .ok (wrap justify overflow width text) := by
  simp [lines, showsFlaw_of_spans_eq_nil]

end Rendered

end CatalogReader.Markup
