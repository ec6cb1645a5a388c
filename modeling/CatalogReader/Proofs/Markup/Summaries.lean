/-
Summaries of tables whose names and types hold no tags. What the summary itself writes holds no tags
either, so every cell is read and none has a style, and the summary is shown whatever its width is.
-/

import CatalogReader.Proofs.Markup.Interpolation
import CatalogReader.Summary
import Mathlib.Algebra.GroupWithZero.Nat
import Mathlib.Data.List.Forall2

namespace CatalogReader

/-! ### Reading one after the other -/

/-- Where every item is read, all of them are. -/
theorem exists_mapM {Reading : Type → Type} [Monad Reading] [LawfulMonad Reading]
    {Item Found : Type} {read : Item → Reading Found} {Sound : Item → Found → Prop}
    {items : List Item} (all : ∀ item ∈ items, ∃ found, read item = pure found ∧ Sound item found) :
    ∃ founds, items.mapM read = pure founds ∧
      ∀ found ∈ founds, ∃ item ∈ items, Sound item found := by
  induction items with
  | nil => exact ⟨[], rfl, fun _ member => absurd member List.not_mem_nil⟩
  | cons item rest inductionHypothesis =>
    obtain ⟨first, here, sound⟩ := all item List.mem_cons_self
    obtain ⟨others, later, rests⟩ :=
      inductionHypothesis fun other member => all other (List.mem_cons_of_mem item member)
    refine ⟨first :: others, ?_, List.forall_mem_cons.mpr ⟨⟨item, List.mem_cons_self, sound⟩, ?_⟩⟩
    · rw [List.mapM_cons, here, pure_bind, later, pure_bind]
    · intro found member
      obtain ⟨other, inRest, sound⟩ := rests found member
      exact ⟨other, List.mem_cons_of_mem item inRest, sound⟩

theorem bind_eq_ok_iff {Fault Item Found : Type} {read : Except Fault Item}
    {next : Item → Except Fault Found} {found : Found} :
    read >>= next = .ok found ↔ ∃ item, read = .ok item ∧ next item = .ok found := by
  cases read with
  | error fault =>
    refine ⟨nofun, ?_⟩
    rintro ⟨_, same, -⟩
    cases same
  | ok item =>
    refine ⟨fun made => ⟨item, rfl, made⟩, ?_⟩
    rintro ⟨_, same, made⟩
    cases same
    exact made

/-- All items are read if and only if each one is. -/
theorem mapM_eq_ok_iff {Fault Item Found : Type} {read : Item → Except Fault Found}
    {items : List Item} {founds : List Found} :
    items.mapM read = .ok founds ↔
      List.Forall₂ (fun item found => read item = .ok found) items founds := by
  induction items generalizing founds with
  | nil =>
    rw [List.mapM_nil, List.forall₂_nil_left_iff]
    exact ⟨fun same => (Except.ok.inj same).symm, fun same => congrArg Except.ok same.symm⟩
  | cons item rest inductionHypothesis =>
    rw [List.mapM_cons, List.forall₂_cons_left_iff]
    simp only [bind_eq_ok_iff, inductionHypothesis]
    constructor
    · rintro ⟨found, first, others, later, made⟩
      cases made
      exact ⟨found, others, first, later, rfl⟩
    · rintro ⟨found, others, first, later, rfl⟩
      exact ⟨found, first, others, later, rfl⟩

theorem mapM_eq_some_map {Item Found : Type} {read : Item → Option Found} {found : Item → Found}
    {items : List Item} (all : ∀ item ∈ items, read item = some (found item)) :
    items.mapM read = some (items.map found) := by
  induction items with
  | nil => rfl
  | cons item rest inductionHypothesis =>
    obtain ⟨first, later⟩ := List.forall_mem_cons.mp all
    rw [List.mapM_cons, first, inductionHypothesis later]
    rfl

theorem exists_of_forall₂ {Item Found : Type} {Sound : Item → Found → Prop} {items : List Item}
    {founds : List Found} (all : List.Forall₂ Sound items founds) {found : Found}
    (member : found ∈ founds) : ∃ item ∈ items, Sound item found := by
  induction all with
  | nil => cases member
  | @cons item first rest others sound _ inductionHypothesis =>
    rcases List.mem_cons.mp member with rfl | later
    · exact ⟨item, List.mem_cons_self, sound⟩
    · obtain ⟨other, inRest, same⟩ := inductionHypothesis later
      exact ⟨other, List.mem_cons_of_mem item inRest, same⟩

/-! ### Measures -/

section

variable {Item Found : Type} {Related : Item → Found → Prop} {size : Item → Nat}
  {measure : Found → Nat} {items : List Item} {founds : List Found}
  (all : List.Forall₂ Related items founds)
  (fewer : ∀ item found, Related item found → measure found ≤ size item)
include all fewer

theorem sum_le_of_forall₂ : (founds.map measure).sum ≤ (items.map size).sum := by
  induction all with
  | nil => exact Nat.le_refl _
  | cons first _ inductionHypothesis =>
    rw [List.map_cons, List.map_cons, List.sum_cons, List.sum_cons]
    exact Nat.add_le_add (fewer _ _ first) inductionHypothesis

/-- Where nothing is lost in sum, nothing is lost anywhere. -/
theorem forall₂_of_sum_le (kept : (items.map size).sum ≤ (founds.map measure).sum) :
    List.Forall₂ (fun item found => Related item found ∧ size item ≤ measure found)
      items founds := by
  induction all with
  | nil => exact .nil
  | cons first rest inductionHypothesis =>
    rw [List.map_cons, List.map_cons, List.sum_cons, List.sum_cons] at kept
    have here := fewer _ _ first
    have later := sum_le_of_forall₂ rest fewer
    exact .cons ⟨first, by omega⟩ (inductionHypothesis (by omega))

end

namespace Summary

open CatalogReader.Layout CatalogReader.Markup CatalogReader.Text

/-! ### Cells -/

variable (emoji : EmojiTable)

/-- A cell without tags is read, and has no spans. -/
theorem shownCell_of_free (limit : Nat) {text : List Char} (free : holdsTag text = false) :
    ∃ shown, shownCell emoji limit text = .ok shown ∧ shown.spans = [] := by
  unfold shownCell
  split
  · exact ⟨_, rfl, rfl⟩
  · obtain ⟨shown, read⟩ := render_of_free free
    exact ⟨_, read, rfl⟩

theorem shownColumn_of_free (limit : Nat) {column : GridColumn (List Char)}
    (free : ∀ text ∈ column.all, holdsTag text = false) :
    ∃ shown, shownColumn emoji limit column = .ok shown ∧ ∀ cell ∈ shown.all, cell.spans = [] := by
  obtain ⟨head, cells⟩ := List.forall_mem_cons.mp free
  obtain ⟨header, read, unstyled⟩ := shownCell_of_free emoji limit head
  obtain ⟨others, later, rests⟩ := exists_mapM fun text member =>
    shownCell_of_free emoji limit (cells text member)
  refine ⟨⟨column.justify, header, others⟩, ?_, List.forall_mem_cons.mpr ⟨unstyled, ?_⟩⟩
  · unfold shownColumn
    rw [read, later]
    rfl
  · intro cell member
    obtain ⟨_, _, plain⟩ := rests cell member
    exact plain

theorem showsFlaw_of_unstyled {column : GridColumn Rendered}
    (unstyled : ∀ cell ∈ column.all, cell.spans = []) (width : Nat) :
    showsFlaw column width = false := by
  unfold showsFlaw
  have sound : (column.all.any fun cell =>
      cell.showsFlaw column.justify .ellipsis (width - padding)) = false := by
    refine List.any_eq_false.mpr fun cell member => Bool.eq_false_iff.mp ?_
    obtain ⟨text, spans⟩ := cell
    obtain rfl : spans = [] := unstyled _ member
    exact Rendered.showsFlaw_of_spans_eq_nil _ _ _ text
  rw [sound, Bool.and_false]

/-! ### The grid -/

/-- Columns of a table, their types and its name, in none of which a tag begins. -/
structure Unmarked (table : Table) (types : List String) : Prop where
  name : holdsTag table.name.toList = false
  columns : ∀ column ∈ table.columns, holdsTag (column.name.getD "").toList = false
  types : ∀ type ∈ types, holdsTag type.toList = false

theorem notMem_toDigits {c : Char} (other : c.isDigit = false) (number : Nat) :
    c ∉ Nat.toDigits 10 number := fun member =>
  Bool.eq_false_iff.mp other (Nat.isDigit_of_mem_toDigits (by decide) (by decide) member)

theorem free_of_gridColumns {table : Table} {types : List String}
    (unmarked : Unmarked table types) :
    ∀ column ∈ gridColumns table.columns types, ∀ text ∈ column.all, holdsTag text = false := by
  intro column member
  unfold gridColumns at member
  simp only [List.mem_cons, List.not_mem_nil, or_false] at member
  rcases member with rfl | rfl | rfl | rfl
  all_goals refine List.forall_mem_cons.mpr ⟨rfl, List.forall_mem_map.mpr ?_⟩
  · exact fun _ _ => holdsTag_of_notMem (notMem_toDigits (by decide) _)
  · exact unmarked.columns
  · exact unmarked.types
  · intro column _
    cases column.isNullable <;> rfl

theorem any_showsFlaw_of_unstyled {columns : List (GridColumn Rendered)}
    (unstyled : ∀ column ∈ columns, ∀ cell ∈ column.all, cell.spans = []) (widths : List Nat) :
    (List.zipWith showsFlaw columns widths).any id = false := by
  refine List.any_eq_false.mpr fun shows member => Bool.eq_false_iff.mp ?_
  rw [← List.map_uncurry_zip_eq_zipWith] at member
  obtain ⟨⟨column, width⟩, inZip, rfl⟩ := List.mem_map.mp member
  exact showsFlaw_of_unstyled (unstyled column (List.of_mem_zip inZip).1) width

theorem titledLines_of_unmarked (width : Nat) {table : Table} {types : List String}
    (unmarked : Unmarked table types) :
    ∃ found, titledLines emoji width table types = .ok found := by
  obtain ⟨columns, read, rests⟩ := exists_mapM fun column member =>
    shownColumn_of_free emoji (width - edges) (free_of_gridColumns unmarked column member)
  have unstyled : ∀ column ∈ columns, ∀ cell ∈ column.all, cell.spans = [] := by
    intro column member
    obtain ⟨_, _, plain⟩ := rests column member
    exact plain
  obtain ⟨heading, titled⟩ : ∃ heading, Markup.render emoji (title table) = .ok ⟨heading, []⟩ :=
    render_of_free (holdsTag_append_left (by decide) unmarked.name)
  unfold titledLines
  dsimp only
  rw [read]
  simp only [bind, pure, Except.bind, Except.pure]
  rw [titled]
  simp only [Rendered.linesWithin, Rendered.lines_of_spans_eq_nil, Except.map]
  rw [any_showsFlaw_of_unstyled unstyled]
  exact ⟨_, rfl⟩

/-- The summary of a table without tags is shown on a console of any width. -/
theorem lines_of_unmarked (width : Nat) {table : Table} {types : List String}
    (typed : (table.columns.mapM fun column => column.type.text?) = some types)
    (unmarked : Unmarked table types) : ∃ found, lines emoji width table = .ok found := by
  obtain ⟨found, shown⟩ := titledLines_of_unmarked emoji width unmarked
  unfold lines
  rw [typed]
  dsimp only
  split
  · exact ⟨_, rfl⟩
  · rw [shown]
    exact ⟨_, rfl⟩

end Summary

end CatalogReader
