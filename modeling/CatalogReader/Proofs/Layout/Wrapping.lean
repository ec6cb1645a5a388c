/-
What is left of a text that was wrapped. A folded text is still there when its lines are put
together again: a line may have lost blanks at its end or have got some, a line feed is where a line
ends, and nothing else is lost, added or moved. The reason is that a line is never wider than the
console but for the blanks at its end, so cutting it takes nothing else away.
-/

import CatalogReader.Layout.Paragraph
import Mathlib.Data.List.SplitBy
import Mathlib.Data.List.TakeWhile

namespace CatalogReader.Layout

open CatalogReader.Text

/-! ### Undoing the wrapping -/

/-- Lines that a text is wrapped into: its stretches from one line end to the next, but for the
blanks at the ends of the lines. -/
def Wraps (lines : List (List Char)) (text : List Char) : Prop :=
  ∃ stretches : List (List Char), stretches.flatten = text ∧
    lines.map trimEnd = stretches.map trimEnd

theorem Wraps.append {first second : List (List Char)} {text more : List Char}
    (one : Wraps first text) (two : Wraps second more) :
    Wraps (first ++ second) (text ++ more) := by
  obtain ⟨before, rfl, ends⟩ := one
  obtain ⟨after, rfl, moreEnds⟩ := two
  refine ⟨before ++ after, List.flatten_append, ?_⟩
  rw [List.map_append, List.map_append, ends, moreEnds]

theorem trimEnd_append_blank (text : List Char) {blanks : List Char}
    (blank : blanks.all isBlank = true) : trimEnd (text ++ blanks) = trimEnd text := by
  have dropped : blanks.reverse.dropWhile isBlank = [] :=
    List.dropWhile_eq_nil_iff.mpr fun c member =>
      List.all_eq_true.mp blank c (List.mem_reverse.mp member)
  unfold trimEnd dropWhileAtEnd
  rw [List.reverse_append, List.dropWhile_append, dropped]
  rfl

/-- Blanks behind the last line are no loss. -/
theorem Wraps.append_blank {lines : List (List Char)} {text : List Char}
    (wrapped : Wraps lines text) (nonempty : lines ≠ []) {blanks : List Char}
    (blank : blanks.all isBlank = true) : Wraps lines (text ++ blanks) := by
  obtain ⟨stretches, rfl, ends⟩ := wrapped
  rcases List.eq_nil_or_concat stretches with rfl | ⟨before, last, rfl⟩
  · exact absurd (List.map_eq_nil_iff.mp ends) nonempty
  · refine ⟨before ++ [last ++ blanks], ?_, ?_⟩
    · simp
    · rw [ends, List.concat_eq_append, List.map_append, List.map_append, List.map_singleton,
        List.map_singleton, trimEnd_append_blank last blank]

/-! ### Blanks at the end of a line -/

theorem exists_trimEnd_append (text : List Char) :
    ∃ blanks, blanks.all isBlank = true ∧ trimEnd text ++ blanks = text ∧
      blanks.length = (text.reverse.takeWhile isBlank).length :=
  ⟨(text.reverse.takeWhile isBlank).reverse,
    by rw [List.all_reverse]; exact List.all_takeWhile,
    dropWhileAtEnd_append_takeWhile isBlank text, List.length_reverse⟩

/-- Trimming only takes something away. -/
theorem trimEnd_sublist (text : List Char) : (trimEnd text).Sublist text := by
  obtain ⟨blanks, -, whole, -⟩ := exists_trimEnd_append text
  conv_rhs => rw [← whole]
  exact List.sublist_append_left _ blanks

theorem trim_sublist (text : List Char) : (trim text).Sublist text :=
  (trimEnd_sublist (text.dropWhile isBlank)).trans (List.dropWhile_sublist _)

theorem trimEnd_trimEnd (text : List Char) : trimEnd (trimEnd text) = trimEnd text := by
  obtain ⟨blanks, blank, whole, -⟩ := exists_trimEnd_append text
  rw [← trimEnd_append_blank (trimEnd text) blank, whole]

theorem cells_trimEnd_le (text : List Char) : cells (trimEnd text) ≤ cells text := by
  obtain ⟨blanks, -, whole, -⟩ := exists_trimEnd_append text
  have sum := congrArg cells whole
  rw [cells_append] at sum
  omega

/-- Behind a text only what is in front of the last blanks counts. -/
theorem cells_trimEnd_append_le (text more : List Char) :
    cells (trimEnd (text ++ more)) ≤ cells text + cells (trimEnd more) := by
  have short := cells_trimEnd_le text
  unfold trimEnd dropWhileAtEnd at short ⊢
  rw [List.reverse_append, List.dropWhile_append]
  split
  · omega
  · rw [List.reverse_append, List.reverse_reverse, cells_append]

/-! ### Cutting a line -/

theorem all_take {test : Char → Bool} {text : List Char} (all : text.all test = true)
    (count : Nat) : (text.take count).all test = true :=
  List.all_eq_true.mpr fun c member => List.all_eq_true.mp all c (List.mem_of_mem_take member)

theorem trimEnd_trimExcess (width : Nat) (text : List Char) :
    trimEnd (trimExcess width text) = trimEnd text := by
  obtain ⟨blanks, blank, whole, count⟩ := exists_trimEnd_append text
  have length := congrArg List.length whole
  rw [List.length_append] at length
  have kept : (trimEnd text).length ≤
      text.length - min blanks.length (text.length - width) := by omega
  unfold trimExcess
  dsimp only
  rw [← count]
  conv_lhs => rw [← whole, List.take_append, whole, List.take_of_length_le kept]
  rw [trimEnd_append_blank _ (all_take blank _), trimEnd_trimEnd]

theorem fitting_append {width : Nat} {text : List Char} (fits : cells text ≤ width)
    (more : List Char) :
    fitting width (text ++ more) = text ++ fitting (width - cells text) more := by
  induction text generalizing width with
  | nil => rfl
  | cons c rest inductionHypothesis =>
    rw [cells_cons] at fits
    rw [List.cons_append, fitting, if_pos (by omega), inductionHypothesis (by omega), cells_cons,
      Nat.sub_sub]
    rfl

theorem all_fitting {test : Char → Bool} {text : List Char} (all : text.all test = true)
    (width : Nat) : (fitting width text).all test = true := by
  induction text generalizing width with
  | nil => rfl
  | cons c rest inductionHypothesis =>
    obtain ⟨first, others⟩ := Bool.and_eq_true_iff.mp (List.all_cons ▸ all)
    unfold fitting
    split
    · rw [List.all_cons, first, inductionHypothesis others]
      rfl
    · rfl

theorem all_spaces (count : Nat) : (spaces count).all isBlank = true := by
  refine List.all_eq_true.mpr fun c member => ?_
  obtain rfl := List.eq_of_mem_replicate member
  rfl

/-- A line that only its last blanks make too wide loses no more than blanks. -/
theorem trimEnd_truncate {width : Nat} {text : List Char} (positive : 0 < width)
    (fits : cells (trimEnd text) ≤ width) :
    trimEnd (truncate .fold width text) = trimEnd text := by
  unfold truncate
  split
  · rfl
  · obtain ⟨blanks, blank, whole, -⟩ := exists_trimEnd_append text
    show trimEnd (crop width text) = trimEnd text
    unfold crop padEnd
    rw [if_neg (Nat.ne_of_gt positive), trimEnd_append_blank _ (all_spaces _)]
    conv_lhs => rw [← whole]
    rw [fitting_append fits, trimEnd_append_blank _ (all_fitting blank _), trimEnd_trimEnd]

/-! ### Filling lines -/

/-- No line is wider than the console but for its blanks at the end. -/
def Lines.Fit (width : Nat) (lines : Lines) : Prop :=
  ∀ line ∈ lines.toList, cells (trimEnd line) ≤ width

theorem cells_reverse (text : List Char) : cells text.reverse = cells text := by
  induction text with
  | nil => rfl
  | cons c rest inductionHypothesis =>
    rw [List.reverse_cons, cells_append, inductionHypothesis, Nat.add_comm]
    rfl

/-- No piece of a chopped word is too wide where every character has room. -/
theorem cells_of_mem_chopAfter {width : Nat} (wide : 2 ≤ width) {before word piece : List Char}
    (fits : cells before ≤ width) (member : piece ∈ chopAfter width before word) :
    cells piece ≤ width := by
  induction word generalizing before with
  | nil =>
    obtain rfl := List.mem_singleton.mp member
    rw [cells_reverse]
    exact fits
  | cons c rest inductionHypothesis =>
    unfold chopAfter at member
    split at member
    case isTrue more =>
      refine inductionHypothesis ?_ member
      rw [cells_cons]
      omega
    case isFalse =>
      rcases List.mem_cons.mp member with rfl | later
      · rw [cells_reverse]
        exact fits
      · exact inductionHypothesis (Nat.le_trans (cellsOf_le_two c) wide) later

namespace Lines

variable {width : Nat} {lines : Lines}

theorem fit_iff : lines.Fit width ↔
    cells (trimEnd lines.current) ≤ width ∧ ∀ line ∈ lines.full, cells (trimEnd line) ≤ width := by
  unfold Fit toList
  exact (forall_congr' fun line => imp_congr_left List.mem_reverse).trans List.forall_mem_cons

theorem current_newLine : lines.newLine.current = [] := by
  unfold newLine
  split
  case isTrue unwritten => exact List.isEmpty_iff.mp (Bool.and_eq_true_iff.mp unwritten).2
  case isFalse => rfl

theorem Fit.newLine (fit : lines.Fit width) : lines.newLine.Fit width := by
  unfold Lines.newLine
  split
  · exact fit
  · obtain ⟨current, full⟩ := fit_iff.mp fit
    exact fit_iff.mpr ⟨Nat.zero_le width, List.forall_mem_cons.mpr ⟨current, full⟩⟩

theorem Fit.append (fit : lines.Fit width) {text : List Char}
    (fits : cells lines.current + cells (trimEnd text) ≤ width) :
    (lines.append text).Fit width :=
  fit_iff.mpr ⟨Nat.le_trans (cells_trimEnd_append_le lines.current text) fits, (fit_iff.mp fit).2⟩

theorem Fit.newLine_append (fit : lines.Fit width) {text : List Char}
    (fits : cells (trimEnd text) ≤ width) : (lines.newLine.append text).Fit width := by
  refine fit.newLine.append ?_
  rw [current_newLine]
  exact (Nat.zero_add _).trans_le fits

/-- A word never makes a line too wide: it is put where it has room, or chopped. -/
theorem Fit.addWord (wide : 2 ≤ width) (fit : lines.Fit width) (word : List Char) :
    (lines.addWord .fold width word).Fit width := by
  unfold Lines.addWord
  dsimp only
  split
  case isTrue room => exact fit.append room
  case isFalse =>
    split
    case isTrue =>
      refine List.foldlRecOn _ _ fit fun lines fit piece member => ?_
      exact fit.newLine_append
        (Nat.le_trans (cells_trimEnd_le piece) (cells_of_mem_chopAfter wide (Nat.zero_le _) member))
    case isFalse narrow =>
      refine fit.newLine_append (Nat.le_of_not_lt fun wider => narrow ?_)
      rw [decide_eq_true wider]
      rfl

end Lines

theorem flatten_spacedWords (line : List Char) : (spacedWords line).flatten = line := by
  unfold spacedWords
  have whole := List.flatten_splitBy (fun left right => !(isBlank left && !isBlank right)) line
  split
  case h_1 first second others split =>
    rw [split] at whole
    split
    · rw [← whole]
      simp
    · exact whole
  case h_2 => exact whole

theorem flatten_breakLine (overflow : Overflow) (width : Nat) (line : List Char) :
    (breakLine overflow width line).flatten = line := by
  have added (words : List (List Char)) (lines : Lines) :
      (words.foldl (Lines.addWord overflow width) lines).toList.flatten =
        lines.toList.flatten ++ words.flatten := by
    induction words generalizing lines with
    | nil => exact (List.append_nil _).symm
    | cons word rest inductionHypothesis =>
      rw [List.foldl_cons, inductionHypothesis, Lines.flatten_addWord, List.append_assoc]
      rfl
  unfold breakLine
  rw [added, flatten_spacedWords]
  rfl

theorem fit_of_mem_breakLine {width : Nat} (wide : 2 ≤ width) {line part : List Char}
    (member : part ∈ breakLine .fold width line) : cells (trimEnd part) ≤ width := by
  have fit : ((spacedWords line).foldl (Lines.addWord .fold width) ⟨[], []⟩).Fit width := by
    refine List.foldlRecOn _ _ ?_ fun lines fit word _ => fit.addWord wide word
    exact Lines.fit_iff.mpr ⟨Nat.zero_le width, fun line inNone => absurd inNone List.not_mem_nil⟩
  exact fit part member

theorem breakLine_ne_nil (overflow : Overflow) (width : Nat) (line : List Char) :
    breakLine overflow width line ≠ [] :=
  mt List.reverse_eq_nil_iff.mp (List.cons_ne_nil _ _)

/-! ### Folded texts -/

/-- A text with spaces for its tabs. -/
def untabbed (text : List Char) : List Char :=
  join '\n' ((pieces '\n' text).map (expandTabs 0))

/-- Folding a text to a width that has room for every character loses nothing but blanks at the ends
of lines. -/
theorem wraps_wrap {width : Nat} (wide : 2 ≤ width) (text : List Char) :
    Wraps (wrap .natural .fold width text) (untabbed text) := by
  have line (piece : List Char) :
      Wraps ((breakLine .fold width (expandTabs 0 piece)).map fun part =>
        truncate .fold width (trimExcess width part)) (expandTabs 0 piece) := by
    refine ⟨_, flatten_breakLine .fold width _, ?_⟩
    rw [List.map_map]
    refine List.map_congr_left fun part member => ?_
    have fits := fit_of_mem_breakLine wide member
    rw [← trimEnd_trimExcess width part] at fits ⊢
    exact trimEnd_truncate (by omega) fits
  unfold wrap untabbed
  have nonempty := pieces_ne_nil '\n' text
  generalize pieces '\n' text = lines at nonempty
  induction lines with
  | nil => exact absurd rfl nonempty
  | cons first others inductionHypothesis =>
    cases others with
    | nil =>
      rw [List.flatMap_singleton]
      exact line first
    | cons second more =>
      rw [List.flatMap_cons]
      show Wraps _ (expandTabs 0 first ++ '\n' :: _)
      rw [List.append_cons]
      refine Wraps.append ?_ (inductionHypothesis (List.cons_ne_nil _ _))
      exact (line first).append_blank (mt List.map_eq_nil_iff.mp (breakLine_ne_nil _ _ _)) rfl

end CatalogReader.Layout
