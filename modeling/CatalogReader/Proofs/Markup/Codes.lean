/-
Emoji codes in a text. Replacing a code takes its two colons away, and no emoji brings one back. So
replacing never adds a colon, and a text that keeps as many colons as it had holds no code whose
name is known; such a text, and only such a one, is left as it is.
-/

import CatalogReader.Markup.Emoji

namespace CatalogReader

/-! ### Pieces between colons -/

namespace Text

theorem length_pieces (mark : Char) (text : List Char) :
    (pieces mark text).length = text.count mark + 1 := by
  induction text with
  | nil => rfl
  | cons c rest inductionHypothesis =>
    unfold pieces
    split
    case isTrue same =>
      subst same
      rw [List.length_cons, inductionHypothesis, List.count_cons_self]
    case isFalse other =>
      rw [List.count_cons_of_ne other]
      split
      case h_1 none => exact absurd none (pieces_ne_nil mark rest)
      case h_2 first others found =>
        rw [found] at inductionHypothesis
        exact inductionHypothesis

theorem join_cons (mark : Char) (first : List Char) (rest : List (List Char)) :
    join mark (first :: rest) = first ++ rest.flatMap (mark :: ·) := by
  induction rest generalizing first with
  | nil => exact (List.append_nil first).symm
  | cons second others inductionHypothesis =>
    rw [join, inductionHypothesis, List.flatMap_cons, List.cons_append]

end Text

namespace Markup

open CatalogReader.Text

namespace EmojiTable

variable (table : EmojiTable)

/-- Whether the pieces behind a colon begin with a code, or a later one of them does. -/
def codesBetween : List (List Char) → Bool
  | name :: next :: rest =>
    if name.any isBlank then codesBetween (next :: rest)
    else (table.ofCode? name).isSome || codesBetween rest
  | _ => false

/-- Whether a text holds a code whose name is known. -/
def holdsCode (text : List Char) : Bool :=
  table.codesBetween (pieces ':' text).tail

variable {table}

/-! ### Colons -/

theorem uncoloned_of_named? {name emoji : List Char} (found : table.named? name = some emoji) :
    ':' ∉ emoji := by
  obtain ⟨before, after, split, -⟩ := List.lookup_eq_some_iff.mp found
  refine table.uncoloned (lower name, emoji) ?_
  rw [split]
  exact List.mem_append_right before List.mem_cons_self

theorem uncoloned_of_ofCode? {code shown : List Char} (found : table.ofCode? code = some shown) :
    ':' ∉ shown := by
  unfold ofCode? at found
  split at found
  · exact uncoloned_of_named? found
  case h_2 ending selector chosen =>
    obtain ⟨emoji, named, rfl⟩ := Option.map_eq_some_iff.mp found
    have selectors : ∀ variant ∈ emojiVariants, ':' ≠ variant.2 := by decide
    refine List.not_mem_append (uncoloned_of_named? named) fun inSelector => ?_
    exact selectors _ (List.mem_of_find?_eq_some chosen) (List.mem_singleton.mp inSelector)

/-- Behind a colon as many colons are left as there are pieces, or fewer if a code is there. -/
theorem count_replaceBetween {parts : List (List Char)} (absent : ∀ part ∈ parts, ':' ∉ part) :
    (table.replaceBetween parts).count ':' ≤ parts.length ∧
      (table.codesBetween parts = true →
        (table.replaceBetween parts).count ':' < parts.length) := by
  fun_induction replaceBetween table parts with
  | case1 name next rest blank inductionHypothesis =>
    obtain ⟨here, later⟩ := List.forall_mem_cons.mp absent
    obtain ⟨most, fewer⟩ := inductionHypothesis later
    rw [codesBetween, if_pos blank, List.cons_append, List.count_cons_self, List.count_append,
      List.count_eq_zero_of_not_mem here, List.length_cons]
    exact ⟨by omega, fun coded => by have := fewer coded; omega⟩
  | case2 name next rest unblank inductionHypothesis =>
    obtain ⟨here, later⟩ := List.forall_mem_cons.mp absent
    obtain ⟨between, last⟩ := List.forall_mem_cons.mp later
    obtain ⟨most, fewer⟩ := inductionHypothesis last
    rw [codesBetween, if_neg unblank, List.count_append, List.count_append,
      List.count_eq_zero_of_not_mem between, List.length_cons, List.length_cons]
    cases found : table.ofCode? name with
    | none =>
      have two : (':' :: name ++ [':']).count ':' = 2 := by
        rw [List.cons_append, List.count_cons_self, List.count_append,
          List.count_eq_zero_of_not_mem here]
        rfl
      rw [Option.getD_none, two, Option.isSome_none, Bool.false_or]
      exact ⟨by omega, fun coded => by have := fewer coded; omega⟩
    | some shown =>
      rw [Option.getD_some, List.count_eq_zero_of_not_mem (uncoloned_of_ofCode? found)]
      omega
  | case3 last =>
    rw [List.count_cons_self, List.count_eq_zero_of_not_mem (absent last List.mem_cons_self)]
    exact ⟨Nat.le_refl _, nofun⟩
  | case4 => exact ⟨Nat.le_refl _, nofun⟩

theorem count_replaceCodes (text : List Char) :
    (table.replaceCodes text).count ':' ≤ text.count ':' ∧
      (table.holdsCode text = true → (table.replaceCodes text).count ':' < text.count ':') := by
  have counted := length_pieces ':' text
  have absent := notMem_of_mem_pieces ':' text
  unfold replaceCodes holdsCode
  split
  case h_1 first rest found =>
    rw [found] at counted absent ⊢
    obtain ⟨here, later⟩ := List.forall_mem_cons.mp absent
    obtain ⟨most, fewer⟩ := @count_replaceBetween table rest later
    rw [List.length_cons] at counted
    rw [List.count_append, List.count_eq_zero_of_not_mem here, List.tail_cons]
    exact ⟨by omega, fun coded => by have := fewer coded; omega⟩
  case h_2 none => exact absurd none (pieces_ne_nil ':' text)

theorem holdsCode_of_count_le {text : List Char}
    (kept : text.count ':' ≤ (table.replaceCodes text).count ':') :
    table.holdsCode text = false :=
  Bool.eq_false_iff.mpr fun coded => Nat.not_lt_of_le kept ((count_replaceCodes text).2 coded)

/-! ### Texts without codes -/

theorem replaceBetween_of_uncoded {parts : List (List Char)}
    (uncoded : table.codesBetween parts = false) :
    table.replaceBetween parts = parts.flatMap (':' :: ·) := by
  fun_induction replaceBetween table parts with
  | case1 name next rest blank inductionHypothesis =>
    rw [codesBetween, if_pos blank] at uncoded
    rw [inductionHypothesis uncoded]
    rfl
  | case2 name next rest unblank inductionHypothesis =>
    rw [codesBetween, if_neg unblank, Bool.or_eq_false_iff, Option.isSome_eq_false_iff,
      Option.isNone_iff_eq_none] at uncoded
    rw [uncoded.1, inductionHypothesis uncoded.2]
    simp
  | case3 last => exact (List.append_nil _).symm
  | case4 => rfl

theorem replaceCodes_of_uncoded {text : List Char} (uncoded : table.holdsCode text = false) :
    table.replaceCodes text = text := by
  have whole := join_pieces ':' text
  unfold holdsCode at uncoded
  unfold replaceCodes
  split
  case h_1 first rest found =>
    rw [found, List.tail_cons] at uncoded
    rw [found] at whole
    rw [replaceBetween_of_uncoded uncoded, ← join_cons]
    exact whole
  case h_2 none => exact absurd none (pieces_ne_nil ':' text)

/-- A text is left as it is if and only if it holds no code. -/
theorem replaceCodes_eq_self_iff (text : List Char) :
    table.replaceCodes text = text ↔ table.holdsCode text = false :=
  ⟨fun same => holdsCode_of_count_le (same.symm ▸ Nat.le_refl _), replaceCodes_of_uncoded⟩

theorem holdsCode_of_notMem {text : List Char} (absent : ':' ∉ text) :
    table.holdsCode text = false := by
  rw [holdsCode, pieces_of_notMem absent]
  rfl

theorem holdsCode_empty (text : List Char) : empty.holdsCode text = false := by
  have none (parts : List (List Char)) : empty.codesBetween parts = false := by
    fun_induction codesBetween empty parts with
    | case1 name next rest blank inductionHypothesis => exact inductionHypothesis
    | case2 name next rest unblank inductionHypothesis =>
      have unknown : empty.ofCode? name = none := by
        unfold ofCode?
        split <;> rfl
      rw [unknown, inductionHypothesis]
      rfl
    | case3 => rfl
  exact none _

/-- The colon behind a label begins no code, since a space follows it. -/
theorem holdsCode_label {label : List Char} (absent : ':' ∉ label) (text : List Char) :
    table.holdsCode (label ++ ':' :: ' ' :: text) = table.holdsCode text := by
  have space : ' ' ≠ ':' := by decide
  unfold holdsCode
  rw [pieces_append_cons absent, List.tail_cons, pieces, if_neg space]
  cases pieces ':' text with
  | nil => rfl
  | cons first rest =>
    cases rest with
    | nil => rfl
    | cons next others =>
      have blank : (' ' :: first).any isBlank = true := rfl
      exact if_pos blank

end EmojiTable

/-- Two emoji as they are named. -/
def twoEmoji : EmojiTable :=
  ⟨[("100".toList, "💯".toList), ("red_heart".toList, "❤".toList)], by decide⟩

example : twoEmoji.replaceCodes "[db8:100::Red_Heart-text: a]:".toList = "[db8💯❤︎ a]:".toList := by
  decide

end Markup

end CatalogReader
