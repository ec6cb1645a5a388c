/-
Spans of a text: stretches between two positions that carry the words of a style. When a text is cut
into parts, its spans are cut with it, and what is left of a span without characters is dropped; a
span that covered nothing from the beginning lasts as long as the text is whole.
-/

namespace CatalogReader.Text

/-- A stretch of a text and the words of the style that it has. -/
structure Span where
  start : Nat
  stop : Nat
  style : List Char
  deriving DecidableEq, Repr

namespace Span

/-- A span of the same text behind so many more characters. -/
def shift (count : Nat) (span : Span) : Span :=
  { span with start := span.start + count, stop := span.stop + count }

/-- What is left of a span in the part of a text from a position on that has so many characters; the
positions count from there. -/
def within? (first length : Nat) (span : Span) : Option Span :=
  let start := span.start - first
  let stop := min (span.stop - first) length
  if start < stop then some { span with start, stop } else none

/-- What is left of a span in the first characters of a text. -/
def upTo? (length : Nat) (span : Span) : Option Span :=
  if span.start < length then some { span with stop := min span.stop length } else none

end Span

/-- The spans of each of some parts that follow one another from a position on, where so many
characters are lost between two parts. -/
def divideSpans (gap first : Nat) (spans : List Span) : List (List Char) → List (List Span)
  | [] => []
  | part :: rest =>
    spans.filterMap (Span.within? first part.length) ::
      divideSpans gap (first + part.length + gap) spans rest

/-- The spans of each part of a text. A text that is not divided keeps its spans as they are. -/
def spansOfParts (gap : Nat) (spans : List Span) (parts : List (List Char)) : List (List Span) :=
  match parts with
  | [_] => [spans]
  | _ => divideSpans gap 0 spans parts

/-- The spans of a text from which characters at the end may be lost. -/
def spansOfBeginning (length kept : Nat) (spans : List Span) : List Span :=
  if kept < length then spans.filterMap (Span.upTo? kept) else spans

@[simp] theorem spansOfBeginning_nil (length kept : Nat) :
    spansOfBeginning length kept [] = [] := by
  simp [spansOfBeginning]

theorem mem_divideSpans_nil (gap first : Nat) (parts : List (List Char)) (spans : List Span)
    (member : spans ∈ divideSpans gap first [] parts) : spans = [] := by
  induction parts generalizing first with
  | nil => simp [divideSpans] at member
  | cons part rest inductionHypothesis =>
    rcases List.mem_cons.1 member with rfl | later
    · rfl
    · exact inductionHypothesis _ later

/-- The parts of a text without spans have none. -/
theorem mem_spansOfParts_nil (gap : Nat) (parts : List (List Char)) (spans : List Span)
    (member : spans ∈ spansOfParts gap [] parts) : spans = [] := by
  unfold spansOfParts at member
  split at member
  · simpa using member
  · exact mem_divideSpans_nil gap 0 parts spans member

end CatalogReader.Text
