/-
Characters of a text, counted in its lines. Laying a text out draws spaces, ellipses and edges, and
adds nothing else. So any other character is in the lines at most as often as in the text, and a
line feed, at which lines end, is in none of them.
-/

import CatalogReader.Layout.Grid
import CatalogReader.Proofs.Layout.Wrapping
import Mathlib.Algebra.GroupWithZero.Nat
import Mathlib.Algebra.Order.BigOperators.Group.List
import Mathlib.Algebra.Order.Group.Nat

namespace CatalogReader.Layout

open CatalogReader.Text

/-- The characters that are drawn in the line of a text. -/
def drawn : List Char := [' ', '…']

section

variable {mark : Char} (foreign : mark ∉ drawn)

/-! ### One line -/

include foreign in
theorem count_spaces (count : Nat) : (spaces count).count mark = 0 :=
  List.count_eq_zero_of_not_mem fun member =>
    foreign (List.eq_of_mem_replicate member ▸ List.mem_cons_self)

include foreign in
theorem count_expandTabs_le (used : Nat) (text : List Char) :
    (expandTabs used text).count mark ≤ text.count mark := by
  fun_induction expandTabs used text with
  | case1 => exact Nat.le_refl _
  | case2 used rest next inductionHypothesis =>
    rw [List.count_append, count_spaces foreign, Nat.zero_add]
    exact inductionHypothesis.trans (List.count_le_count_cons)
  | case3 used c rest _ inductionHypothesis =>
    rw [List.count_cons, List.count_cons]
    exact Nat.add_le_add_right inductionHypothesis _

theorem fitting_sublist (width : Nat) (text : List Char) : (fitting width text).Sublist text := by
  fun_induction fitting width text with
  | case1 => exact List.Sublist.refl []
  | case2 width c rest _ inductionHypothesis => exact inductionHypothesis.cons_cons c
  | case3 => exact List.nil_sublist _

include foreign in
theorem count_padEnd (width : Nat) (text : List Char) :
    (padEnd width text).count mark = text.count mark := by
  rw [padEnd, List.count_append, count_spaces foreign, Nat.add_zero]

include foreign in
theorem count_crop_le (width : Nat) (text : List Char) :
    (crop width text).count mark ≤ text.count mark := by
  unfold crop
  split
  · exact Nat.zero_le _
  · rw [count_padEnd foreign]
    exact (fitting_sublist width text).count_le mark

include foreign in
theorem count_truncate_le (overflow : Overflow) (width : Nat) (text : List Char) :
    (truncate overflow width text).count mark ≤ text.count mark := by
  unfold truncate
  split
  · exact Nat.le_refl _
  · cases overflow with
    | fold => exact count_crop_le foreign width text
    | ellipsis =>
      have ellipsis : ['…'].count mark = 0 :=
        List.count_eq_zero_of_not_mem fun member => foreign (List.mem_cons_of_mem ' ' member)
      rw [List.count_append, ellipsis]
      exact count_crop_le foreign (width - 1) text

include foreign in
theorem count_place_le (justify : Justify) (overflow : Overflow) (width : Nat) (text : List Char) :
    (place justify overflow width text).count mark ≤ text.count mark := by
  have trimmed := (count_truncate_le foreign overflow width (trimEnd text)).trans
    ((trimEnd_sublist text).count_le mark)
  cases justify with
  | natural => exact Nat.le_refl _
  | left =>
    show (padEnd width _).count mark ≤ _
    rw [count_padEnd foreign]
    exact count_truncate_le foreign overflow width text
  | center =>
    show (padEnd width (spaces _ ++ _)).count mark ≤ _
    rw [count_padEnd foreign, List.count_append, count_spaces foreign, Nat.zero_add]
    exact trimmed
  | right =>
    show (spaces _ ++ _).count mark ≤ _
    rw [List.count_append, count_spaces foreign, Nat.zero_add]
    exact trimmed

/-! ### All lines -/

theorem count_flatten_map_le {view : List Char → List Char}
    (fewer : ∀ part, (view part).count mark ≤ part.count mark) (parts : List (List Char)) :
    (parts.map view).flatten.count mark ≤ parts.flatten.count mark := by
  induction parts with
  | nil => exact Nat.le_refl _
  | cons first others inductionHypothesis =>
    rw [List.map_cons, List.flatten_cons, List.flatten_cons, List.count_append, List.count_append]
    exact Nat.add_le_add (fewer first) inductionHypothesis

/-- The lines of a text that holds no line feed. -/
def lineParts (justify : Justify) (overflow : Overflow) (width : Nat) (line : List Char) :
    List (List Char) :=
  (breakLine overflow width (expandTabs 0 line)).map fun part =>
    truncate overflow width (place justify overflow width (trimExcess width part))

include foreign in
theorem count_lineParts_le (justify : Justify) (overflow : Overflow) (width : Nat)
    (line : List Char) :
    (lineParts justify overflow width line).flatten.count mark ≤ line.count mark := by
  have each (part : List Char) :
      (truncate overflow width (place justify overflow width (trimExcess width part))).count mark ≤
        part.count mark :=
    (count_truncate_le foreign overflow width _).trans <|
      (count_place_le foreign justify overflow width _).trans
        ((List.take_sublist _ part).count_le mark)
  have whole := count_flatten_map_le each (breakLine overflow width (expandTabs 0 line))
  rw [flatten_breakLine] at whole
  exact whole.trans (count_expandTabs_le foreign 0 line)

theorem flatten_pieces_sublist (cut : Char) (text : List Char) :
    (pieces cut text).flatten.Sublist text := by
  have joined (parts : List (List Char)) : parts.flatten.Sublist (join cut parts) := by
    induction parts with
    | nil => exact List.Sublist.refl []
    | cons first others inductionHypothesis =>
      cases others with
      | nil =>
        rw [List.flatten_singleton]
        exact List.Sublist.refl first
      | cons second more => exact (List.Sublist.refl first).append (inductionHypothesis.cons cut)
  have parts := joined (pieces cut text)
  rw [join_pieces] at parts
  exact parts

include foreign in
/-- What a text holds is in its lines at most as often. -/
theorem count_wrap_le (justify : Justify) (overflow : Overflow) (width : Nat) (text : List Char) :
    (wrap justify overflow width text).flatten.count mark ≤ text.count mark := by
  refine Nat.le_trans ?_ ((flatten_pieces_sublist '\n' text).count_le mark)
  show ((pieces '\n' text).flatMap (lineParts justify overflow width)).flatten.count mark ≤ _
  induction pieces '\n' text with
  | nil => exact Nat.le_refl _
  | cons line rest inductionHypothesis =>
    rw [List.flatMap_cons, List.flatten_append, List.flatten_cons, List.count_append,
      List.count_append]
    exact Nat.add_le_add (count_lineParts_le foreign justify overflow width line)
      inductionHypothesis

theorem wrap_ne_nil (justify : Justify) (overflow : Overflow) (width : Nat) (text : List Char) :
    wrap justify overflow width text ≠ [] := by
  intro none
  obtain ⟨line, inText⟩ := List.exists_mem_of_ne_nil _ (pieces_ne_nil '\n' text)
  exact breakLine_ne_nil overflow width _
    (List.map_eq_nil_iff.mp (List.flatMap_eq_nil_iff.mp none line inText))

/-- No line of a text holds a line feed. -/
theorem notMem_of_mem_wrap {justify : Justify} {overflow : Overflow} {width : Nat}
    {text line : List Char} (member : line ∈ wrap justify overflow width text) : '\n' ∉ line := by
  obtain ⟨piece, inText, inPiece⟩ := List.mem_flatMap.mp member
  have counted := count_lineParts_le (by decide : '\n' ∉ drawn) justify overflow width piece
  rw [List.count_eq_zero_of_not_mem (notMem_of_mem_pieces '\n' text piece inText)] at counted
  have absent := List.count_eq_zero.mp (Nat.eq_zero_of_le_zero counted)
  exact fun inside => absent (List.mem_flatten_of_mem inPiece inside)

/-! ### Rows of a grid -/

include foreign in
theorem count_cellLines_le (justify : Justify) (width : Nat) (text : List Char) :
    (cellLines justify width text).flatten.count mark ≤ text.count mark := by
  unfold cellLines
  split
  · exact Nat.zero_le _
  · refine (count_flatten_map_le (fun line => ?_) _).trans
      (count_wrap_le foreign justify .ellipsis (width - padding) text)
    have side : [' '].count mark = 0 := count_spaces foreign 1
    show ([' '] ++ line ++ [' ']).count mark ≤ _
    rw [List.count_append, List.count_append, side, Nat.zero_add, Nat.add_zero]

theorem notMem_of_mem_cellLines {justify : Justify} {width : Nat} {text line : List Char}
    (member : line ∈ cellLines justify width text) : '\n' ∉ line := by
  unfold cellLines at member
  split at member
  · cases member
  · obtain ⟨inner, inText, rfl⟩ := List.mem_map.mp member
    exact List.not_mem_append
      (List.not_mem_cons_of_ne_of_not_mem (by decide) (notMem_of_mem_wrap inText)) (by decide)

/-- Lines that are taken from a list by their places are counted as in the list. -/
theorem sum_count_getD {blank : List Char} (none : blank.count mark = 0)
    {lines : List (List Char)} {height : Nat} (enough : lines.length ≤ height) :
    ((List.range height).map fun index => (lines.getD index blank).count mark).sum =
      lines.flatten.count mark := by
  induction lines generalizing height with
  | nil =>
    have zero : ∀ index ∈ List.range height,
        (([] : List (List Char)).getD index blank).count mark = 0 :=
      fun _ _ => none
    rw [List.map_congr_left zero, List.map_const', List.sum_replicate_nat, Nat.mul_zero]
    rfl
  | cons first rest inductionHypothesis =>
    obtain ⟨less, rfl⟩ := Nat.exists_eq_add_one_of_ne_zero (Nat.ne_of_gt (Nat.lt_of_lt_of_le
      (Nat.succ_pos _) enough))
    rw [List.range_succ_eq_map, List.map_cons, List.sum_cons, List.map_map, List.flatten_cons,
      List.count_append]
    exact congrArg (first.count mark + ·) (inductionHypothesis (Nat.le_of_succ_le_succ enough))

end

end CatalogReader.Layout
