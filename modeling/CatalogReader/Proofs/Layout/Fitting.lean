/-
Texts that fit their lines. A legible text that is no longer than a line is wrapped into one line
and is cut nowhere; when it is placed in the line only blanks are put beside it, so trimming the
line gives the trimmed text.
-/

import CatalogReader.Proofs.Layout.Wrapping
import CatalogReader.Proofs.Text.Legible
import Mathlib.Data.List.TakeWhile

namespace CatalogReader.Layout

open CatalogReader.Text

/-! ### Blanks around a text -/

theorem trim_append_blank (text : List Char) {blanks : List Char}
    (blank : blanks.all isBlank = true) : trim (text ++ blanks) = trim text := by
  have dropped : blanks.dropWhile isBlank = [] :=
    List.dropWhile_eq_nil_iff.mpr fun c member => List.all_eq_true.mp blank c member
  unfold trim trimBy
  rw [List.dropWhile_append]
  split
  case isTrue empty => rw [List.isEmpty_iff.mp empty, dropped]
  case isFalse => exact trimEnd_append_blank _ blank

theorem trim_blank_append {blanks : List Char} (blank : blanks.all isBlank = true)
    (text : List Char) : trim (blanks ++ text) = trim text := by
  have dropped : blanks.dropWhile isBlank = [] :=
    List.dropWhile_eq_nil_iff.mpr fun c member => List.all_eq_true.mp blank c member
  unfold trim trimBy
  rw [List.dropWhile_append, dropped]
  rfl

theorem trim_trimEnd (text : List Char) : trim (trimEnd text) = trim text := by
  obtain ⟨blanks, blank, whole, -⟩ := exists_trimEnd_append text
  rw [← trim_append_blank (trimEnd text) blank, whole]

theorem trim_cons_space (text : List Char) : trim (' ' :: text) = trim text := by
  have blank : [' '].all isBlank = true := rfl
  exact trim_blank_append blank text

theorem trim_of_notBlank {text : List Char} (inked : ∀ c ∈ text, isBlank c = false) :
    trim text = text := by
  have kept {others : List Char} (inked : ∀ c ∈ others, isBlank c = false) :
      others.dropWhile isBlank = others :=
    List.dropWhile_eq_self_iff.mpr fun filled =>
      Bool.eq_false_iff.mp (inked _ (List.getElem_mem filled))
  unfold trim trimBy dropWhileAtEnd
  rw [kept inked, kept fun c member => inked c (List.mem_reverse.mp member), List.reverse_reverse]

/-! ### One line -/

theorem expandTabs_of_notMem {text : List Char} (absent : '\t' ∉ text) (used : Nat) :
    expandTabs used text = text := by
  induction text generalizing used with
  | nil => rfl
  | cons c rest inductionHypothesis =>
    rw [List.mem_cons, not_or] at absent
    rw [expandTabs, inductionHypothesis absent.2]
    exact fun tab => absent.1 tab.symm

/-- Words that fit together into the current line are all written there. -/
theorem foldl_addWord_of_fits {overflow : Overflow} {width : Nat} {words : List (List Char)}
    {lines : Lines} (fits : cells lines.current + cells words.flatten ≤ width) :
    words.foldl (Lines.addWord overflow width) lines = lines.append words.flatten := by
  induction words generalizing lines with
  | nil =>
    show lines = { lines with current := lines.current ++ [] }
    rw [List.append_nil]
  | cons word rest inductionHypothesis =>
    rw [List.flatten_cons, cells_append] at fits
    have room : cells lines.current + cells (trimEnd word) ≤ width := by
      have short := cells_trimEnd_le word
      omega
    have added : lines.addWord overflow width word = lines.append word := if_pos room
    rw [List.foldl_cons, added, inductionHypothesis]
    · show Lines.mk _ (lines.current ++ word ++ rest.flatten) = _
      rw [List.append_assoc]
      rfl
    · show cells (lines.current ++ word) + _ ≤ width
      rw [cells_append]
      omega

theorem breakLine_of_fits (overflow : Overflow) {width : Nat} {line : List Char}
    (fits : cells line ≤ width) : breakLine overflow width line = [line] := by
  have whole : cells ([] : List Char) + cells (spacedWords line).flatten ≤ width := by
    rw [flatten_spacedWords, cells_nil, Nat.zero_add]
    exact fits
  have filled : (spacedWords line).foldl (Lines.addWord overflow width) ⟨[], []⟩ =
      Lines.append ⟨[], []⟩ (spacedWords line).flatten := foldl_addWord_of_fits whole
  unfold breakLine
  rw [filled, flatten_spacedWords]
  rfl

theorem trimExcess_of_le {width : Nat} {text : List Char} (short : text.length ≤ width) :
    trimExcess width text = text := by
  unfold trimExcess
  dsimp only
  rw [Nat.sub_eq_zero_of_le short, Nat.min_zero, Nat.sub_zero, List.take_length]

theorem truncate_of_fits (overflow : Overflow) {width : Nat} {text : List Char}
    (fits : cells text ≤ width) : truncate overflow width text = text := if_pos fits

/-- A text that fits is placed between spaces, with or without the blanks at its end. -/
theorem place_eq_of_fits (justify : Justify) (overflow : Overflow) {width : Nat} {text : List Char}
    (fits : cells text ≤ width) :
    ∃ left kept right, place justify overflow width text = spaces left ++ kept ++ spaces right ∧
      (kept = text ∨ kept = trimEnd text) ∧ left + cells kept + right ≤ width := by
  have short := Nat.le_trans (cells_trimEnd_le text) fits
  cases justify with
  | natural => exact ⟨0, text, 0, (List.append_nil text).symm, Or.inl rfl, by omega⟩
  | left =>
    refine ⟨0, text, width - cells text, ?_, Or.inl rfl, by omega⟩
    show padEnd width (truncate overflow width text) = _
    rw [truncate_of_fits overflow fits]
    rfl
  | center =>
    refine ⟨(width - cells (trimEnd text)) / 2, trimEnd text,
      width - ((width - cells (trimEnd text)) / 2 + cells (trimEnd text)), ?_, Or.inr rfl, by omega⟩
    show padEnd width (spaces _ ++ truncate overflow width (trimEnd text)) = _
    rw [truncate_of_fits overflow short, padEnd, cells_append, cells_spaces]
  | right =>
    refine ⟨width - cells (trimEnd text), trimEnd text, 0, ?_, Or.inr rfl, by omega⟩
    show spaces _ ++ truncate overflow width (trimEnd text) = _
    rw [truncate_of_fits overflow short]
    exact (List.append_nil _).symm

section

variable (justify : Justify) (overflow : Overflow) {width : Nat} {text : List Char}

theorem cells_place_le (fits : cells text ≤ width) :
    cells (place justify overflow width text) ≤ width := by
  obtain ⟨left, kept, right, placed, -, room⟩ := place_eq_of_fits justify overflow fits
  rw [placed, cells_append, cells_append, cells_spaces, cells_spaces]
  exact room

theorem trim_place (fits : cells text ≤ width) :
    trim (place justify overflow width text) = trim text := by
  obtain ⟨left, kept, right, placed, same, -⟩ := place_eq_of_fits justify overflow fits
  rw [placed, trim_append_blank _ (all_spaces right), trim_blank_append (all_spaces left)]
  rcases same with rfl | rfl
  · rfl
  · exact trim_trimEnd text

theorem isLegible_place (legible : IsLegible text) (fits : cells text ≤ width) :
    IsLegible (place justify overflow width text) := by
  obtain ⟨left, kept, right, placed, same, -⟩ := place_eq_of_fits justify overflow fits
  have spaced (count : Nat) : IsLegible (spaces count) := fun c member => by
    obtain rfl := List.eq_of_mem_replicate member
    decide
  have inside : IsLegible kept := by
    rcases same with rfl | rfl
    · exact legible
    · exact legible.of_sublist (trimEnd_sublist text)
  exact placed ▸ ((spaced left).append inside).append (spaced right)

/-- A legible text that is no longer than its line is wrapped into this one line. -/
theorem wrap_of_fits (legible : IsLegible text) (fits : text.length ≤ width) :
    wrap justify overflow width text = [place justify overflow width text] := by
  have cellsFit : cells text ≤ width := legible.cells_eq.trans_le fits
  unfold wrap
  rw [pieces_of_notMem (legible.notMem (Or.inl (by decide))), List.flatMap_singleton,
    expandTabs_of_notMem (legible.notMem (Or.inl (by decide))), breakLine_of_fits overflow cellsFit,
    List.map_singleton, trimExcess_of_le fits,
    truncate_of_fits overflow (cells_place_le justify overflow cellsFit)]

end

end CatalogReader.Layout
