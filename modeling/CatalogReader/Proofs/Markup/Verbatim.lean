/-
Texts that are shown as they are. But for emoji, what a marked-up text shows comes from the text, in
its order: rendering leaves characters out and adds none. It leaves out the brackets of a tag with
all that stands between them, or, where the tag is escaped, the backslash that escapes it. An emoji
stands for a code and takes the place of its colons, so where no colon is lost there are no emoji.
So a legible text is shown as it is if and only if no tag begins in it, none of its opening brackets
stands behind a backslash, and it holds no code of an emoji.
-/

import CatalogReader.Proofs.Markup.Interpolation
import CatalogReader.Proofs.Text.Legible
import Mathlib.Data.List.TakeWhile

namespace CatalogReader.Markup

open CatalogReader.Text

/-! ### Backslashes in front of brackets -/

theorem unescapeBrackets_sublist (text : List Char) : (unescapeBrackets text).Sublist text := by
  fun_induction unescapeBrackets text with
  | case1 rest inductionHypothesis => exact (inductionHypothesis.cons_cons '[').cons '\\'
  | case2 c rest _ inductionHypothesis => exact inductionHypothesis.cons_cons c
  | case3 => exact List.Sublist.refl []

theorem unescapeBrackets_eq_self_iff (text : List Char) :
    unescapeBrackets text = text ↔ ¬['\\', '['] <:+: text := by
  fun_induction unescapeBrackets text with
  | case1 rest inductionHypothesis =>
    have escaped : ['\\', '['] <:+: '\\' :: '[' :: rest :=
      (List.prefix_append ['\\', '['] rest).isInfix
    exact ⟨fun same => absurd (List.cons.inj same).1 (by decide), fun free => absurd escaped free⟩
  | case2 c rest plain inductionHypothesis =>
    have notHere : ¬['\\', '['] <+: c :: rest := by
      rintro ⟨others, same⟩
      cases same
      exact plain others rfl rfl
    rw [List.cons.injEq, eq_self, true_and, inductionHypothesis, List.infix_cons_iff, not_or]
    exact ⟨fun later => ⟨notHere, later⟩, fun free => free.2⟩
  | case3 => exact ⟨fun _ => by decide, fun _ => rfl⟩

theorem isDeleted_of_legible {text : List Char} (legible : IsLegible text) {c : Char}
    (member : c ∈ text) : isDeleted c = false := by
  have inside := legible c member
  simp only [isDeleted, List.contains_cons, List.contains_nil, Bool.or_false, Bool.or_eq_false_iff,
    beq_eq_false_iff_ne]
  omega

theorem filter_of_legible {text : List Char} (legible : IsLegible text) :
    (text.filter fun c => !isDeleted c) = text :=
  List.filter_eq_self.mpr fun _ member => by
    rw [isDeleted_of_legible legible member]
    rfl

/-- Leaving characters out takes no colon away. -/
theorem colons_filter (text : List Char) :
    (text.filter fun c => !isDeleted c).count ':' = text.count ':' :=
  List.count_filter (p := fun c => !isDeleted c) rfl

theorem shownText_empty (text : List Char) :
    shownText .empty text = text.filter fun c => !isDeleted c := by
  rw [shownText, EmojiTable.replaceCodes_of_uncoded (EmojiTable.holdsCode_empty text)]

theorem shownPlain_empty_sublist (text : List Char) : (shownPlain .empty text).Sublist text := by
  rw [shownPlain, shownText_empty]
  exact List.filter_sublist.trans (unescapeBrackets_sublist text)

/-! ### What the pieces show -/

/-- What pieces show, if their tags can be read. -/
def shownPieces (emoji : EmojiTable) (pieces : List Piece) : List Char :=
  pieces.flatMap fun
    | .plain text => shownPlain emoji text
    | .tag _ => []

section

variable {emoji : EmojiTable}

theorem shownPieces_append (pieces more : List Piece) :
    shownPieces emoji (pieces ++ more) = shownPieces emoji pieces ++ shownPieces emoji more :=
  List.flatMap_append

theorem shownPieces_plainPiece (text : List Char) :
    shownPieces emoji (plainPiece text) = shownPlain emoji text := by
  cases text with
  | nil => rfl
  | cons => exact List.append_nil _

namespace Rendering

theorem text_closeTag {rendering next : Rendering} {tag : OpenTag}
    (closed : rendering.closeTag tag = .ok next) : next.text = rendering.text := by
  unfold closeTag at closed
  split at closed
  · cases closed
    rfl
  · cases closed

/-- A tag shows nothing. -/
theorem text_tag {rendering next : Rendering} {text : List Char}
    (read : rendering.tag text = .ok next) : next.text = rendering.text := by
  unfold tag at read
  dsimp only at read
  split at read
  · split at read
    · split at read
      · cases read
      · exact text_closeTag read
    · split at read
      · cases read
      · split at read
        · cases read
        · exact text_closeTag read
  case h_2 =>
    cases named : tagName _ with
    | error =>
      rw [named] at read
      cases read
    | ok =>
      rw [named] at read
      cases read
      rfl

/-- What pieces show stands behind the text in front of them. -/
theorem text_pieces {rendering finished : Rendering} {pieces : List Piece}
    (read : rendering.pieces emoji pieces = .ok finished) :
    finished.text = rendering.text ++ shownPieces emoji pieces := by
  fun_induction Rendering.pieces emoji rendering pieces with
  | case1 rendering =>
    cases read
    exact (List.append_nil _).symm
  | case2 rendering text rest inductionHypothesis =>
    rw [inductionHypothesis read]
    exact List.append_assoc _ _ _
  | case3 => cases read
  | case4 rendering text rest next tagged inductionHypothesis =>
    rw [inductionHypothesis read, text_tag tagged]
    rfl

end Rendering

/-! ### Colons -/

/-- A text shows at most the colons that it shows without emoji, and if it shows them all, the
emoji make no difference. -/
theorem colons_shownText (text : List Char) :
    (shownText emoji text).count ':' ≤ (shownText .empty text).count ':' ∧
      ((shownText .empty text).count ':' ≤ (shownText emoji text).count ':' →
        shownText emoji text = shownText .empty text) := by
  rw [shownText_empty, shownText, colons_filter, colons_filter]
  refine ⟨(EmojiTable.count_replaceCodes text).1, fun kept => ?_⟩
  rw [EmojiTable.replaceCodes_of_uncoded (EmojiTable.holdsCode_of_count_le kept)]

theorem colons_shownPieces (pieces : List Piece) :
    (shownPieces emoji pieces).count ':' ≤ (shownPieces .empty pieces).count ':' ∧
      ((shownPieces .empty pieces).count ':' ≤ (shownPieces emoji pieces).count ':' →
        shownPieces emoji pieces = shownPieces .empty pieces) := by
  induction pieces with
  | nil => exact ⟨Nat.le_refl _, fun _ => rfl⟩
  | cons piece rest inductionHypothesis =>
    obtain ⟨most, same⟩ := inductionHypothesis
    cases piece with
    | tag => exact ⟨most, same⟩
    | plain text =>
      obtain ⟨here, alike⟩ := @colons_shownText emoji (unescapeBrackets text)
      show (shownPlain emoji text ++ shownPieces emoji rest).count ':' ≤
          (shownPlain .empty text ++ shownPieces .empty rest).count ':' ∧
        ((shownPlain .empty text ++ shownPieces .empty rest).count ':' ≤
            (shownPlain emoji text ++ shownPieces emoji rest).count ':' →
          shownPlain emoji text ++ shownPieces emoji rest =
            shownPlain .empty text ++ shownPieces .empty rest)
      unfold shownPlain
      rw [List.count_append, List.count_append]
      refine ⟨by omega, fun kept => ?_⟩
      rw [alike (by omega), same (by omega)]

end

/-! ### What is shown without emoji -/

/-- A text in reverse order begins with the backslashes at its end. -/
theorem exists_backslashes (before : List Char) :
    ∃ count front, before = List.replicate count '\\' ++ front ∧
      (before.takeWhile (· == '\\')).length = count ∧ before.drop count = front := by
  have same : ∀ c ∈ before.takeWhile (· == '\\'), c = '\\' := fun c member => by
    have test := List.mem_takeWhile_imp member
    exact beq_iff_eq.mp test
  have whole : before = List.replicate (before.takeWhile (· == '\\')).length '\\' ++
      before.dropWhile (· == '\\') := by
    rw [← List.eq_replicate_of_mem same]
    exact List.takeWhile_append_dropWhile.symm
  refine ⟨_, _, whole, rfl, ?_⟩
  conv_lhs => rw [whole]
  exact List.drop_left' (by rw [List.length_replicate, ← whole])

/-- A tag behind so many backslashes shows only a part of itself, and of itself and the backslashes
less than there is. -/
theorem exists_shownPieces_cons (inner : List Char) (count : Nat) (pieces : List Piece) :
    ∃ shown, shownPieces .empty
        ((if count % 2 = 0 then .tag inner else .plain ('[' :: inner ++ [']'])) :: pieces) =
          shown ++ shownPieces .empty pieces ∧
      shown.Sublist ('[' :: (inner ++ [']'])) ∧
      shown.length + count / 2 < count + (inner.length + 2) := by
  by_cases even : count % 2 = 0
  · rw [if_pos even]
    refine ⟨[], rfl, List.nil_sublist _, ?_⟩
    rw [List.length_nil]
    omega
  · rw [if_neg even]
    have part := shownPlain_empty_sublist ('[' :: (inner ++ [']']))
    refine ⟨_, rfl, part, ?_⟩
    have short := part.length_le
    rw [List.length_cons, List.length_append, List.length_singleton] at short
    show (shownPlain .empty ('[' :: (inner ++ [']']))).length + count / 2 < _
    omega

/-- A tag and the text in front of it show only a part of themselves. -/
theorem exists_shownPieces_of_tag {rest inner after : List Char}
    (found : tagAfterBracket? rest = some (inner, after)) (before : List Char) :
    ∃ shown, shownPieces .empty (piecesAfter before ('[' :: rest)) =
        shown ++ shownPieces .empty (piecesAfter [] after) ∧
      shown.Sublist (before.reverse ++ '[' :: (inner ++ [']'])) ∧
      shown.length < before.length + (inner.length + 2) := by
  obtain ⟨count, front, whole, counted, behind⟩ := exists_backslashes before
  obtain ⟨last, tagged, part, fewer⟩ :=
    exists_shownPieces_cons inner count (piecesAfter [] after)
  have first := shownPlain_empty_sublist front.reverse
  have halved := shownPlain_empty_sublist (List.replicate (count / 2) '\\')
  have slashes : (List.replicate (count / 2) '\\').Sublist (List.replicate count '\\') :=
    (List.replicate_sublist_replicate '\\').mpr (Nat.div_le_self count 2)
  have reversed : before.reverse = front.reverse ++ List.replicate count '\\' := by
    rw [whole, List.reverse_append, List.reverse_replicate]
  refine ⟨shownPlain .empty front.reverse ++
    shownPlain .empty (List.replicate (count / 2) '\\') ++ last, ?_, ?_, ?_⟩
  · rw [piecesAfter_of_tag found]
    dsimp only
    rw [counted, behind, shownPieces_append, shownPieces_append, shownPieces_plainPiece,
      shownPieces_plainPiece, tagged]
    simp only [List.append_assoc]
  · rw [reversed]
    exact (first.append (halved.trans slashes)).append part
  · have firstLength := first.length_le
    have halvedLength := halved.length_le
    rw [List.length_reverse] at firstLength
    rw [List.length_replicate] at halvedLength
    rw [whole, List.length_append, List.length_append, List.length_append, List.length_replicate]
    omega

/-- Without emoji, what the pieces of a text show is a part of the text, in its order. -/
theorem shownPieces_sublist (before text : List Char) :
    (shownPieces .empty (piecesAfter before text)).Sublist (before.reverse ++ text) := by
  induction before, text using piecesAfter.induct with
  | case1 before =>
    rw [piecesAfter, shownPieces_plainPiece, List.append_nil]
    exact shownPlain_empty_sublist _
  | case2 before rest unmarked inductionHypothesis =>
    rw [piecesAfter_of_none unmarked]
    rw [List.reverse_cons, List.append_assoc] at inductionHypothesis
    exact inductionHypothesis
  | case3 before rest inner after found _ inductionHypothesis =>
    obtain ⟨shown, split, part, -⟩ := exists_shownPieces_of_tag found before
    obtain ⟨-, cut, -⟩ := tagAfterBracket?_eq_some_iff.mp found
    have whole : before.reverse ++ '[' :: rest =
        (before.reverse ++ '[' :: (inner ++ [']'])) ++ after := by
      rw [((cutFirst?_eq_some_iff ']' _ _ _).mp cut).1]
      simp
    rw [split, whole]
    exact part.append inductionHypothesis
  | case4 before c rest other inductionHypothesis =>
    rw [piecesAfter_of_ne other]
    rw [List.reverse_cons, List.append_assoc] at inductionHypothesis
    exact inductionHypothesis

/-- Without emoji, a text in which a tag begins is not shown whole. -/
theorem length_shownPieces_lt {text : List Char} (tagged : holdsTag text = true)
    (before : List Char) :
    (shownPieces .empty (piecesAfter before text)).length < before.length + text.length := by
  induction before, text using piecesAfter.induct with
  | case1 => cases tagged
  | case2 before rest unmarked inductionHypothesis =>
    rw [holdsTag, unmarked] at tagged
    have fewer := inductionHypothesis tagged
    rw [List.length_cons] at fewer
    rw [piecesAfter_of_none unmarked, List.length_cons]
    omega
  | case3 before rest inner after found _ inductionHypothesis =>
    obtain ⟨shown, split, -, fewer⟩ := exists_shownPieces_of_tag found before
    obtain ⟨-, cut, -⟩ := tagAfterBracket?_eq_some_iff.mp found
    have later := (shownPieces_sublist [] after).length_le
    have whole := congrArg List.length ((cutFirst?_eq_some_iff ']' _ _ _).mp cut).1
    rw [split, List.length_append, List.length_cons]
    simp only [List.length_append, List.length_cons, List.reverse_nil, List.length_nil]
      at later whole
    omega
  | case4 before c rest other inductionHypothesis =>
    rw [holdsTag, beq_false_of_ne other] at tagged
    have fewer := inductionHypothesis tagged
    rw [List.length_cons] at fewer
    rw [piecesAfter_of_ne other, List.length_cons]
    omega

/-! ### Rendered texts -/

variable {emoji : EmojiTable}

theorem shownPlain_of_notMem {text : List Char} (absent : '[' ∉ text) :
    shownPlain emoji text = shownText emoji text := by
  have free : ¬['\\', '['] <:+: text := fun inside => absent (inside.subset (by decide))
  rw [shownPlain, (unescapeBrackets_eq_self_iff text).mpr free]

theorem text_render {text : List Char} {rendered : Rendered}
    (read : render emoji text = .ok rendered) :
    rendered.text = shownPieces emoji (piecesOf text) := by
  unfold render at read
  split at read
  case isTrue =>
    cases found : Rendering.start.pieces emoji (piecesOf text) with
    | error =>
      rw [found] at read
      cases read
    | ok finished =>
      rw [found] at read
      cases read
      exact Rendering.text_pieces found
  case isFalse bare =>
    have absent : '[' ∉ text := mt List.contains_iff_mem.mpr bare
    cases read
    rw [piecesOf_of_free (holdsTag_of_notMem absent), shownPieces_plainPiece,
      shownPlain_of_notMem absent]

/-- A rendered text holds at most the colons of the marked-up one. -/
theorem colons_render {text : List Char} {rendered : Rendered}
    (read : render emoji text = .ok rendered) : rendered.text.count ':' ≤ text.count ':' := by
  rw [text_render read]
  exact (colons_shownPieces _).1.trans ((shownPieces_sublist [] text).count_le ':')

section

variable {text : List Char} {rendered : Rendered} (read : render emoji text = .ok rendered)
  (kept : text.count ':' ≤ rendered.text.count ':')
include read kept

/-- Where all colons are kept, the emoji make no difference. -/
theorem text_render_of_colons : rendered.text = shownPieces .empty (piecesOf text) := by
  have most := (shownPieces_sublist [] text).count_le ':'
  rw [text_render read] at kept ⊢
  exact (colons_shownPieces _).2 (most.trans kept)

/-- Where all colons are kept, a rendered text is a part of the marked-up one, in its order. -/
theorem text_render_sublist : rendered.text.Sublist text := by
  rw [text_render_of_colons read kept]
  exact shownPieces_sublist [] text

end

theorem render_of_untagged {text : List Char} (untagged : holdsTag text = false) :
    render emoji text = .ok ⟨shownPlain emoji text, []⟩ := by
  obtain ⟨shown, read⟩ := @render_of_free emoji text untagged
  have same := text_render read
  rw [piecesOf_of_free untagged, shownPieces_plainPiece] at same
  rw [read, ← same]

/-! ### Plain texts -/

/-- A text in which no tag begins, no opening bracket stands behind a backslash, and no code stands
for an emoji. -/
structure IsPlain (emoji : EmojiTable) (text : List Char) : Prop where
  untagged : holdsTag text = false
  unescaped : ¬['\\', '['] <:+: text
  uncoded : emoji.holdsCode text = false

instance (text : List Char) : Decidable (IsPlain emoji text) :=
  decidable_of_iff
    (holdsTag text = false ∧ unescapeBrackets text = text ∧ emoji.holdsCode text = false)
    ⟨fun plain => ⟨plain.1, (unescapeBrackets_eq_self_iff text).mp plain.2.1, plain.2.2⟩,
      fun plain => ⟨plain.untagged, (unescapeBrackets_eq_self_iff text).mpr plain.unescaped,
        plain.uncoded⟩⟩

theorem isPlain_of_notMem {text : List Char} (bracket : '[' ∉ text) (colon : ':' ∉ text) :
    IsPlain emoji text where
  untagged := holdsTag_of_notMem bracket
  unescaped := fun inside => bracket (inside.subset (by decide))
  uncoded := EmojiTable.holdsCode_of_notMem colon

theorem infix_cons_iff_of_ne {c : Char} (backslash : c ≠ '\\') (rest : List Char) :
    ['\\', '['] <:+: c :: rest ↔ ['\\', '['] <:+: rest := by
  rw [List.infix_cons_iff, List.cons_prefix_cons]
  exact ⟨fun either => either.resolve_left fun here => backslash here.1.symm, Or.inr⟩

theorem infix_append_iff_of_notMem {lead : List Char} (absent : '\\' ∉ lead) (text : List Char) :
    ['\\', '['] <:+: lead ++ text ↔ ['\\', '['] <:+: text := by
  induction lead with
  | nil => rfl
  | cons c others inductionHypothesis =>
    rw [List.mem_cons, not_or] at absent
    rw [List.cons_append, infix_cons_iff_of_ne (Ne.symm absent.1), inductionHypothesis absent.2]

theorem holdsTag_append_of_notMem {lead : List Char} (absent : '[' ∉ lead) (text : List Char) :
    holdsTag (lead ++ text) = holdsTag text := by
  induction lead with
  | nil => rfl
  | cons c others inductionHypothesis =>
    rw [List.mem_cons, not_or] at absent
    rw [List.cons_append, holdsTag, beq_false_of_ne (Ne.symm absent.1), Bool.false_and,
      Bool.false_or, inductionHypothesis absent.2]

/-- A label in front, with a colon and a space behind it, changes nothing. -/
theorem isPlain_label_iff {label : List Char} (bracket : '[' ∉ label) (backslash : '\\' ∉ label)
    (colon : ':' ∉ label) (text : List Char) :
    IsPlain emoji (label ++ ':' :: ' ' :: text) ↔ IsPlain emoji text := by
  have lead : '[' ∉ label ++ [':', ' '] ∧ '\\' ∉ label ++ [':', ' '] :=
    ⟨List.not_mem_append bracket (by decide), List.not_mem_append backslash (by decide)⟩
  have whole : label ++ ':' :: ' ' :: text = label ++ [':', ' '] ++ text := by simp
  have tags : holdsTag (label ++ ':' :: ' ' :: text) = holdsTag text :=
    whole ▸ holdsTag_append_of_notMem lead.1 text
  have escapes : ['\\', '['] <:+: label ++ ':' :: ' ' :: text ↔ ['\\', '['] <:+: text :=
    whole ▸ infix_append_iff_of_notMem lead.2 text
  have codes := @EmojiTable.holdsCode_label emoji label colon text
  exact ⟨fun plain => ⟨tags ▸ plain.untagged, mt escapes.mpr plain.unescaped,
      codes ▸ plain.uncoded⟩,
    fun plain => ⟨tags ▸ plain.untagged, mt escapes.mp plain.unescaped, codes ▸ plain.uncoded⟩⟩

section

variable {text : List Char} (legible : IsLegible text)
include legible

theorem render_of_plain (plain : IsPlain emoji text) : render emoji text = .ok ⟨text, []⟩ := by
  rw [render_of_untagged plain.untagged, shownPlain,
    (unescapeBrackets_eq_self_iff text).mpr plain.unescaped, shownText,
    EmojiTable.replaceCodes_of_uncoded plain.uncoded, filter_of_legible legible]

/-- A legible text that is shown as it is is plain. -/
theorem isPlain_of_render {spans : List Span} (read : render emoji text = .ok ⟨text, spans⟩) :
    IsPlain emoji text := by
  have whole := text_render_of_colons read (Nat.le_refl _)
  have untagged : holdsTag text = false := Bool.eq_false_iff.mpr fun tagged => by
    have fewer := length_shownPieces_lt tagged []
    rw [← piecesOf, ← whole, List.length_nil, Nat.zero_add] at fewer
    exact Nat.lt_irrefl _ fewer
  have unescaped : unescapeBrackets text = text := by
    rw [piecesOf_of_free untagged, shownPieces_plainPiece, shownPlain, shownText_empty,
      filter_of_legible (legible.of_sublist (unescapeBrackets_sublist text))] at whole
    exact whole.symm
  have shown : shownPlain emoji text = text := congrArg Rendered.text
    (Except.ok.inj ((render_of_untagged untagged).symm.trans read))
  refine ⟨untagged, (unescapeBrackets_eq_self_iff text).mp unescaped,
    EmojiTable.holdsCode_of_count_le ?_⟩
  rw [shownPlain, unescaped, shownText] at shown
  rw [← colons_filter (emoji.replaceCodes text), shown]

end

end CatalogReader.Markup
