/-
Texts from outside between the tags of the program. The program sets what it says in a colour, with
a tag in front and a closing tag behind, and does not escape what it quotes in between. A text in
which no tag begins stays a text there: it opens no tag, closes none, and is not refused, so what
the program says is shown. If moreover no backslash of the text stands where one has a meaning, and
no character of it is one that is never shown, then the text is shown as it is.
-/

import CatalogReader.Console
import CatalogReader.Proofs.Layout.Wrapping
import CatalogReader.Proofs.Markup.Codes
import CatalogReader.Proofs.Url.Reading

namespace CatalogReader.Markup

open CatalogReader.Layout CatalogReader.Text

/-! ### Texts without tags -/

/-- Whether a tag begins anywhere in a text. -/
def holdsTag : List Char → Bool
  | [] => false
  | c :: rest => (c == '[' && (tagAfterBracket? rest).isSome) || holdsTag rest

theorem holdsTag_cons {c : Char} {rest : List Char} :
    holdsTag (c :: rest) = false ↔
      (c = '[' → tagAfterBracket? rest = none) ∧ holdsTag rest = false := by
  rw [holdsTag, Bool.or_eq_false_iff, Bool.and_eq_false_imp, beq_iff_eq,
    Option.isSome_eq_false_iff, Option.isNone_iff_eq_none]

theorem holdsTag_of_notMem {text : List Char} (absent : '[' ∉ text) : holdsTag text = false := by
  induction text with
  | nil => rfl
  | cons c rest inductionHypothesis =>
    rw [List.mem_cons, not_or] at absent
    exact holdsTag_cons.mpr
      ⟨fun bracket => absurd bracket.symm absent.1, inductionHypothesis absent.2⟩

theorem tagAfterBracket?_eq_some_iff {text inner after : List Char} :
    tagAfterBracket? text = some (inner, after) ↔
      text.head?.any opensTag = true ∧ cutFirst? ']' text = some (inner, after) ∧
        '[' ∉ inner := by
  cases text with
  | nil => exact ⟨nofun, nofun⟩
  | cons first rest =>
    unfold tagAfterBracket?
    show (if opensTag first = true then _ else _) = _ ↔ opensTag first = true ∧ _
    by_cases opens : opensTag first = true
    · rw [if_pos opens]
      cases cut : cutFirst? ']' (first :: rest) with
      | none => exact ⟨nofun, nofun⟩
      | some parts =>
        obtain ⟨found, behind⟩ := parts
        by_cases nested : '[' ∈ found
        · refine ⟨fun same => ?_, fun same => ?_⟩
          · dsimp only at same
            rw [if_pos (List.contains_iff_mem.mpr nested)] at same
            cases same
          · obtain ⟨-, same, absent⟩ := same
            cases same
            exact absurd nested absent
        · dsimp only
          rw [if_neg (mt List.contains_iff_mem.mp nested)]
          refine ⟨fun same => ?_, fun same => same.2.1⟩
          cases same
          exact ⟨opens, rfl, nested⟩
    · rw [if_neg opens]
      exact ⟨nofun, fun same => absurd same.1 opens⟩

/-- Text behind which a bracket that is open stays no tag: in front of its first closing bracket
there is an opening one. -/
def LeavesOpen (after : List Char) : Prop :=
  ∀ inner rest, cutFirst? ']' after = some (inner, rest) → '[' ∈ inner

theorem leavesOpen_of_notMem {after : List Char} (absent : ']' ∉ after) : LeavesOpen after := by
  intro inner rest cut
  rw [(cutFirst?_eq_none_iff ']' after).mpr absent] at cut
  cases cut

theorem leavesOpen_cons (after : List Char) : LeavesOpen ('[' :: after) := by
  intro inner rest cut
  obtain ⟨whole, -⟩ := (cutFirst?_eq_some_iff ']' _ _ _).mp cut
  cases inner with
  | nil => cases whole
  | cons first others =>
    cases whole
    exact List.mem_cons_self

theorem tagAfterBracket?_append {text after : List Char} (leaves : LeavesOpen after)
    (unmarked : tagAfterBracket? text = none) : tagAfterBracket? (text ++ after) = none := by
  refine Option.eq_none_iff_forall_ne_some.mpr fun (inner, rest) found => ?_
  obtain ⟨opens, cut, absent⟩ := tagAfterBracket?_eq_some_iff.mp found
  by_cases closed : ']' ∈ text
  · obtain ⟨⟨first, behind⟩, own⟩ := Option.ne_none_iff_exists'.mp
      (mt (cutFirst?_eq_none_iff ']' text).mp (not_not_intro closed))
    rw [Url.cutFirst?_append_of_mem own] at cut
    cases cut
    -- The tag would lie in the text itself.
    have begins : text.head?.any opensTag = true := by
      cases text with
      | nil => cases own
      | cons => exact opens
    rw [tagAfterBracket?_eq_some_iff.mpr ⟨begins, own, absent⟩] at unmarked
    cases unmarked
  · rw [Url.cutFirst?_append_of_notMem closed] at cut
    obtain ⟨⟨first, _⟩, own, same⟩ := Option.map_eq_some_iff.mp cut
    cases same
    exact absent (List.mem_append_right text (leaves first _ own))

theorem holdsTag_append {text after : List Char} (leaves : LeavesOpen after)
    (free : holdsTag text = false) (rest : holdsTag after = false) :
    holdsTag (text ++ after) = false := by
  induction text with
  | nil => exact rest
  | cons c others inductionHypothesis =>
    obtain ⟨unmarked, free⟩ := holdsTag_cons.mp free
    exact holdsTag_cons.mpr
      ⟨fun bracket => tagAfterBracket?_append leaves (unmarked bracket), inductionHypothesis free⟩

theorem holdsTag_append_left {lead : List Char} (absent : '[' ∉ lead) {text : List Char}
    (free : holdsTag text = false) : holdsTag (lead ++ text) = false := by
  induction lead with
  | nil => exact free
  | cons c others inductionHypothesis =>
    rw [List.mem_cons, not_or] at absent
    exact holdsTag_cons.mpr
      ⟨fun bracket => absurd bracket.symm absent.1, inductionHypothesis absent.2⟩

/-! ### Pieces -/

theorem piecesAfter_of_none {rest : List Char} (unmarked : tagAfterBracket? rest = none)
    (before : List Char) : piecesAfter before ('[' :: rest) = piecesAfter ('[' :: before) rest := by
  rw [piecesAfter]
  split
  · rfl
  case h_2 found =>
    rw [unmarked] at found
    cases found

theorem piecesAfter_of_ne {c : Char} (other : c ≠ '[') (before rest : List Char) :
    piecesAfter before (c :: rest) = piecesAfter (c :: before) rest := by
  rw [piecesAfter]
  exact fun bracket => other bracket

theorem piecesAfter_of_tag {rest inner after : List Char}
    (found : tagAfterBracket? rest = some (inner, after)) (before : List Char) :
    piecesAfter before ('[' :: rest) =
      let backslashes := (before.takeWhile (· == '\\')).length
      plainPiece (before.drop backslashes).reverse ++
        plainPiece (List.replicate (backslashes / 2) '\\') ++
          (if backslashes % 2 = 0 then .tag inner else .plain ('[' :: inner ++ [']'])) ::
            piecesAfter [] after := by
  rw [piecesAfter]
  split
  case h_1 unmarked =>
    rw [found] at unmarked
    cases unmarked
  case h_2 same =>
    rw [found] at same
    cases same
    rfl

/-- A text without tags goes on from the text before it. -/
theorem piecesAfter_append {text after : List Char} (leaves : LeavesOpen after)
    (free : holdsTag text = false) (before : List Char) :
    piecesAfter before (text ++ after) = piecesAfter (text.reverse ++ before) after := by
  induction text generalizing before with
  | nil => rfl
  | cons c rest inductionHypothesis =>
    obtain ⟨unmarked, free⟩ := holdsTag_cons.mp free
    rw [List.reverse_cons, List.append_assoc]
    refine Eq.trans ?_ (inductionHypothesis free (c :: before))
    by_cases bracket : c = '['
    · subst bracket
      exact piecesAfter_of_none (tagAfterBracket?_append leaves (unmarked rfl)) before
    · exact piecesAfter_of_ne bracket before (rest ++ after)

theorem piecesOf_of_free {text : List Char} (free : holdsTag text = false) :
    piecesOf text = plainPiece text := by
  have pieces := piecesAfter_append (leavesOpen_of_notMem List.not_mem_nil) free []
  rw [List.append_nil, List.append_nil] at pieces
  rw [piecesOf, pieces, piecesAfter, List.reverse_reverse]

/-! ### Rendering -/

variable {emoji : EmojiTable}

theorem pieces_plainPiece (rendering : Rendering) (text : List Char) (rest : List Piece) :
    rendering.pieces emoji (plainPiece text ++ rest) =
      (rendering.append (shownPlain emoji text)).pieces emoji rest := by
  cases text with
  | nil =>
    have same : rendering.append (shownPlain emoji []) = rendering :=
      congrArg (fun text => { rendering with text }) (List.append_nil _)
    rw [same]
    rfl
  | cons => rfl

/-- A text without tags is shown, and has no spans. -/
theorem render_of_free {text : List Char} (free : holdsTag text = false) :
    ∃ shown, render emoji text = .ok ⟨shown, []⟩ := by
  unfold render
  split
  · have pieces := @pieces_plainPiece emoji Rendering.start text []
    rw [List.append_nil] at pieces
    rw [piecesOf_of_free free, pieces]
    exact ⟨_, rfl⟩
  · exact ⟨_, rfl⟩

/-- A tag without parameters that is no closing one opens its style. -/
theorem Rendering.tag_of_bare (rendering : Rendering) {first : Char} {name : List Char}
    (bare : '=' ∉ first :: name) (opens : first ≠ '/') :
    rendering.tag (first :: name) =
      (tagName (first :: name)).map fun normal => rendering.openTag normal none := by
  unfold Rendering.tag
  rw [(cutFirst?_eq_none_iff '=' _).mpr bare]
  dsimp only
  split
  case h_1 same => exact absurd (List.cons.inj same).1 opens
  case h_2 => rfl

/-! ### Messages in a colour -/

/-- The colours in which the program says something. -/
inductive MessageColor where
  | red
  | yellow
  | green

namespace MessageColor

/-- The tag of a colour, without its brackets. -/
def word : MessageColor → List Char
  | red => "red".toList
  | yellow => "yellow".toList
  | green => "green".toList

/-- A text between the tags of a colour. -/
def mark (color : MessageColor) (text : List Char) : List Char :=
  '[' :: (color.word ++ ']' :: (text ++ '[' :: '/' :: (color.word ++ [']'])))

/-- The tag of a colour that is open from the beginning. -/
def openTag (color : MessageColor) : OpenTag := ⟨color.word, none, 0⟩

variable (color : MessageColor)

theorem tagAfterBracket?_word (rest : List Char) :
    tagAfterBracket? (color.word ++ ']' :: rest) = some (color.word, rest) := by
  cases color <;> rfl

theorem tagAfterBracket?_closing :
    tagAfterBracket? ('/' :: (color.word ++ [']'])) = some ('/' :: color.word, []) := by
  cases color <;> rfl

theorem tag_word :
    Rendering.start.tag color.word = .ok { Rendering.start with opened := [color.openTag] } := by
  cases color <;> rfl

theorem tag_closing {rendering : Rendering} (only : rendering.opened = [color.openTag]) :
    rendering.tag ('/' :: color.word) =
      .ok ⟨rendering.text, rendering.spans ++ [color.openTag.span rendering.text.length], []⟩ := by
  obtain ⟨text, spans, opened⟩ := rendering
  subst only
  cases color <;> rfl

theorem isFlawed_span (stop : Nat) : isFlawed (color.openTag.span stop) = false := by
  cases color <;> rfl

end MessageColor

/-- Whether each backslash of a text stands in front of a character other than a bracket, and no
character of the text is one that is never shown. -/
def keepsCharacters : List Char → Bool
  | [] => true
  | c :: rest => (c != '\\' || rest.head?.any (· != '[')) && !isDeleted c && keepsCharacters rest

/-- Whether a text without tags is shown as it is in front of a tag: its backslashes and all its
characters are kept, and it holds no code of an emoji. -/
def isVerbatim (emoji : EmojiTable) (text : List Char) : Bool :=
  keepsCharacters text && !emoji.holdsCode text

theorem isVerbatim_iff {text : List Char} :
    isVerbatim emoji text = true ↔ keepsCharacters text = true ∧ emoji.holdsCode text = false := by
  rw [isVerbatim, Bool.and_eq_true, Bool.not_eq_true']

theorem keepsCharacters_cons {c : Char} {rest : List Char} :
    keepsCharacters (c :: rest) = true ↔
      (c = '\\' → ∃ next others, rest = next :: others ∧ next ≠ '[') ∧ isDeleted c = false ∧
        keepsCharacters rest = true := by
  rw [keepsCharacters, Bool.and_eq_true, Bool.and_eq_true, Bool.not_eq_true', and_assoc]
  refine and_congr_left fun _ => ?_
  rw [Bool.or_eq_true, bne_iff_ne, ← imp_iff_not_or]
  refine imp_congr_right fun _ => ?_
  cases rest with
  | nil => exact ⟨nofun, nofun⟩
  | cons next others =>
    show (next != '[') = true ↔ _
    rw [bne_iff_ne]
    constructor
    · exact fun other => ⟨next, others, rfl, other⟩
    · rintro ⟨_, _, same, other⟩
      cases same
      exact other

theorem unescapeBrackets_of_kept {text : List Char} (kept : keepsCharacters text = true) :
    unescapeBrackets text = text := by
  induction text with
  | nil => rfl
  | cons c rest inductionHypothesis =>
    obtain ⟨followed, -, later⟩ := keepsCharacters_cons.mp kept
    rw [unescapeBrackets, inductionHypothesis later]
    intro others backslash same
    obtain ⟨next, behind, found, other⟩ := followed backslash
    cases found.symm.trans same
    exact other rfl

theorem filter_of_kept {text : List Char} (kept : keepsCharacters text = true) :
    (text.filter fun c => !isDeleted c) = text := by
  induction text with
  | nil => rfl
  | cons c rest inductionHypothesis =>
    obtain ⟨-, shown, later⟩ := keepsCharacters_cons.mp kept
    rw [List.filter_cons_of_pos (by rw [shown]; rfl), inductionHypothesis later]

theorem shownPlain_of_verbatim {text : List Char} (verbatim : isVerbatim emoji text = true) :
    shownPlain emoji text = text := by
  obtain ⟨kept, uncoded⟩ := isVerbatim_iff.mp verbatim
  rw [shownPlain, shownText, unescapeBrackets_of_kept kept,
    EmojiTable.replaceCodes_of_uncoded uncoded, filter_of_kept kept]

/-- A text whose backslashes are kept does not end in one. -/
theorem takeWhile_reverse_of_kept {text : List Char} (kept : keepsCharacters text = true) :
    text.reverse.takeWhile (· == '\\') = [] := by
  induction text with
  | nil => rfl
  | cons c rest inductionHypothesis =>
    obtain ⟨followed, -, later⟩ := keepsCharacters_cons.mp kept
    have ends := inductionHypothesis later
    rw [List.reverse_cons]
    cases reversed : rest.reverse with
    | nil =>
      refine List.takeWhile_cons_of_neg fun backslash => ?_
      obtain ⟨next, others, same, -⟩ := followed (beq_iff_eq.mp backslash)
      rw [same, List.reverse_cons] at reversed
      exact List.append_ne_nil_of_right_ne_nil _ (List.cons_ne_nil _ _) reversed
    | cons last others =>
      rw [reversed] at ends
      rw [List.cons_append, List.takeWhile_cons]
      rw [List.takeWhile_cons] at ends
      split at ends
      case isTrue => cases ends
      case isFalse other => exact if_neg other

/-- A label with a colon and a space is no part of a code, and keeps its characters. -/
theorem isVerbatim_label {label : List Char} (absent : ':' ∉ label)
    (same : ∀ text, keepsCharacters (label ++ ':' :: ' ' :: text) = keepsCharacters text)
    (text : List Char) :
    isVerbatim emoji (label ++ ':' :: ' ' :: text) = isVerbatim emoji text := by
  rw [isVerbatim, isVerbatim, same, EmojiTable.holdsCode_label absent]

namespace MessageColor

variable (color : MessageColor)

theorem render_mark_eq (text : List Char) :
    render emoji (color.mark text) =
      (Rendering.pieces emoji ⟨[], [], [color.openTag]⟩
        (piecesAfter [] (text ++ '[' :: '/' :: (color.word ++ [']'])))).map Rendering.finish := by
  have brackets : (color.mark text).contains '[' = true :=
    List.contains_iff_mem.mpr List.mem_cons_self
  have pieces : piecesOf (color.mark text) =
      .tag color.word :: piecesAfter [] (text ++ '[' :: '/' :: (color.word ++ [']'])) := by
    rw [piecesOf, mark, piecesAfter_of_tag (color.tagAfterBracket?_word _)]
    rfl
  unfold render
  rw [if_pos brackets, pieces, Rendering.pieces, tag_word]
  rfl

/-- A text without tags is shown between the tags of a colour, and its only style is that colour. -/
theorem render_mark {text : List Char} (free : holdsTag text = false) :
    ∃ rendered, render emoji (color.mark text) = .ok rendered ∧
      (∀ span ∈ rendered.spans, isFlawed span = false) ∧
      (isVerbatim emoji text = true → rendered.text = text) := by
  rw [render_mark_eq, piecesAfter_append (leavesOpen_cons _) free, List.append_nil,
    piecesAfter_of_tag color.tagAfterBracket?_closing]
  dsimp only
  rw [List.append_assoc]
  rw [pieces_plainPiece, pieces_plainPiece, piecesAfter]
  have unescaped (verbatim : isVerbatim emoji text = true) :
      (text.reverse.takeWhile (· == '\\')).length = 0 :=
    congrArg List.length (takeWhile_reverse_of_kept (isVerbatim_iff.mp verbatim).1)
  generalize (text.reverse.takeWhile (· == '\\')).length = backslashes at unescaped
  have whole (verbatim : isVerbatim emoji text = true) :
      shownPlain emoji (text.reverse.drop backslashes).reverse ++
        shownPlain emoji (List.replicate (backslashes / 2) '\\') = text := by
    rw [unescaped verbatim]
    show shownPlain emoji text.reverse.reverse ++ [] = text
    rw [List.append_nil, List.reverse_reverse, shownPlain_of_verbatim verbatim]
  by_cases even : backslashes % 2 = 0
  · rw [if_pos even, Rendering.pieces, color.tag_closing rfl]
    refine ⟨_, rfl, fun span member => ?_, whole⟩
    obtain rfl := List.mem_singleton.mp member
    exact color.isFlawed_span _
  · -- The closing tag stands behind a backslash, so the colour lasts to the end.
    rw [if_neg even]
    refine ⟨_, rfl, fun span member => ?_, fun verbatim => ?_⟩
    · obtain rfl := List.mem_singleton.mp member
      exact color.isFlawed_span _
    · rw [unescaped verbatim] at even
      exact absurd rfl even

/-- A message is refused whose first tag is refused. -/
theorem render_mark_of_refused {before inner after : List Char} {fault : Fault}
    (free : holdsTag before = false) (kept : keepsCharacters before = true)
    (begins : ∀ rest, tagAfterBracket? (inner ++ ']' :: rest) = some (inner, rest))
    (refused : ∀ rendering : Rendering, rendering.opened = [color.openTag] →
      rendering.tag inner = .error fault) :
    render emoji (color.mark (before ++ '[' :: (inner ++ ']' :: after))) = .error fault := by
  have plain : (before.reverse.takeWhile (· == '\\')).length = 0 :=
    congrArg List.length (takeWhile_reverse_of_kept kept)
  have whole : before ++ '[' :: (inner ++ ']' :: after) ++ '[' :: '/' :: (color.word ++ [']']) =
      before ++ '[' :: (inner ++ ']' :: (after ++ '[' :: '/' :: (color.word ++ [']']))) := by
    simp
  rw [render_mark_eq, whole, piecesAfter_append (leavesOpen_cons _) free, List.append_nil,
    piecesAfter_of_tag (begins _)]
  dsimp only
  rw [plain, if_pos rfl, List.append_assoc, pieces_plainPiece, pieces_plainPiece, Rendering.pieces,
    refused _ rfl]
  rfl

/-- A closing tag of anything but the colour closes nothing. -/
theorem tag_of_stray {rendering : Rendering} (only : rendering.opened = [color.openTag])
    {name normal : List Char} (bare : '=' ∉ name) (named : (trim name).isEmpty = false)
    (read : tagName (trim name) = .ok normal) (other : normal ≠ color.word) :
    rendering.tag ('/' :: name) = .error .nothingToClose := by
  have whole : cutFirst? '=' ('/' :: name) = none :=
    (cutFirst?_eq_none_iff '=' _).mpr (List.not_mem_cons_of_ne_of_not_mem (by decide) bare)
  have absent : ([color.openTag].find? fun tag => tag.name == normal) = none :=
    List.find?_cons_of_neg (fun same => other (beq_iff_eq.mp same).symm)
  unfold Rendering.tag
  rw [whole]
  show (if (trim name).isEmpty = true then _ else _) = _
  rw [if_neg (Bool.eq_false_iff.mp named), read, only]
  dsimp only
  rw [absent]

/-- A message is refused whose first tag is a closing one of anything but its colour. -/
theorem render_mark_of_stray {before name normal after : List Char} (free : holdsTag before = false)
    (kept : keepsCharacters before = true)
    (closing : ∀ rest, tagAfterBracket? ('/' :: (name ++ ']' :: rest)) = some ('/' :: name, rest))
    (bare : '=' ∉ name) (named : (trim name).isEmpty = false)
    (read : tagName (trim name) = .ok normal) (other : normal ≠ color.word) :
    render emoji (color.mark (before ++ '[' :: '/' :: (name ++ ']' :: after))) =
      .error .nothingToClose :=
  color.render_mark_of_refused free kept closing fun _ only =>
    color.tag_of_stray only bare named read other

end MessageColor

namespace Rendered

theorem lines_of_unflawed {rendered : Rendered}
    (sound : ∀ span ∈ rendered.spans, isFlawed span = false) (justify : Justify)
    (overflow : Overflow) (width : Nat) :
    rendered.lines justify overflow width = .ok (wrap justify overflow width rendered.text) := by
  have flawed : rendered.spans.filter isFlawed = [] :=
    List.filter_eq_nil_iff.mpr fun span member => Bool.eq_false_iff.mp (sound span member)
  have shows := showsFlaw_of_spans_eq_nil justify overflow width rendered.text
  unfold showsFlaw at shows
  unfold lines showsFlaw
  rw [flawed]
  exact if_neg (Bool.eq_false_iff.mp shows)

end Rendered

/-- A console that knows two emoji. -/
def emojiConsole : Console := ⟨80, twoEmoji⟩

/-- What the program writes in front of a text and behind it to say it in a colour: the tags, and
words of its own between them and the text. -/
structure MessageColor.Frames (color : MessageColor) (opening closing : String)
    (lead tail : List Char) : Prop where
  opens : opening.toList = '[' :: (color.word ++ ']' :: lead)
  closes : closing.toList = tail ++ '[' :: '/' :: (color.word ++ [']'])
  leadPlain : '[' ∉ lead
  tailPlain : '[' ∉ tail ∧ ']' ∉ tail

/-- A text without tags is printed where the program says it. On a console with room for every
character, a message that is verbatim is printed whole. -/
theorem MessageColor.Frames.printed {color : MessageColor} {opening closing : String}
    {lead tail : List Char} (frames : color.Frames opening closing lead tail) {text : String}
    (free : holdsTag text.toList = false) (console : Console) :
    ∃ shown, console.printed (opening ++ text ++ closing) = .ok shown ∧
      (2 ≤ console.width → isVerbatim console.emoji (lead ++ text.toList ++ tail) = true →
        ∃ lines, shown = String.ofList (Console.endLines lines) ∧
          Wraps lines (untabbed (lead ++ text.toList ++ tail))) := by
  have marked : (opening ++ text ++ closing).toList =
      color.mark (lead ++ text.toList ++ tail) := by
    rw [String.toList_append, String.toList_append, frames.opens, frames.closes]
    simp [mark]
  obtain ⟨rendered, read, sound, whole⟩ := @render_mark console.emoji color _
    (holdsTag_append (leavesOpen_of_notMem frames.tailPlain.2)
      (holdsTag_append_left frames.leadPlain free) (holdsTag_of_notMem frames.tailPlain.1))
  rw [Console.printed_eq_of_render (marked ▸ read)]
  split
  case isTrue narrow => exact ⟨_, rfl, fun wide => absurd narrow (by omega)⟩
  case isFalse =>
    rw [Rendered.lines_of_unflawed sound]
    refine ⟨_, rfl, fun wide verbatim => ⟨_, rfl, ?_⟩⟩
    rw [whole verbatim]
    exact wraps_wrap wide _

end CatalogReader.Markup
