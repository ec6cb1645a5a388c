/-
Reading the integers that settings are given. A text is read as the integer that it is written for:
blanks around it, a sign, zeros in front, underscores between groups of digits and zeros behind a
point change nothing of its value. So every integer that is not too long is read back from its
decimal text. A number with decimal places is read exactly when it is whole and 53 bits hold it, and
it counts as fractional only where its unit is less than one.
-/

import CatalogReader.Proofs.Text.Legible
import CatalogReader.Settings.Number
import Mathlib.Algebra.Group.Int.Defs
import Mathlib.Algebra.Group.Nat.Defs

namespace CatalogReader.Settings

open CatalogReader.Text

/-! ### Groups of digits -/

/-- Groups of digits that an integer may be written with: none of them is empty, and the first one
does not begin with a zero. -/
structure Grouped (groups : List (List Char)) : Prop where
  digits : ∀ group ∈ groups, group ≠ [] ∧ ∀ c ∈ group, c.isDigit = true
  leading : ∃ c rest, groups.flatten = c :: rest ∧ c ≠ '0'

/-- What may stand in front of the digits: nothing, or a zero with zeros and underscores behind. -/
def IsLead (lead : List Char) : Prop :=
  lead = [] ∨ lead.head? = some '0' ∧ ∀ c ∈ lead, c = '0' ∨ c = '_'

/-- What may stand behind the digits: nothing, or a point with zeros behind. -/
def IsZeroFraction (fraction : List Char) : Prop :=
  fraction = [] ∨ ∃ zeros, zeros ≠ [] ∧ (∀ c ∈ zeros, c = '0') ∧ fraction = '.' :: zeros

theorem valueOfDigits_eq (digits : List Char) :
    valueOfDigits digits = Nat.ofDigitChars 10 digits 0 := by
  simp only [valueOfDigits, Nat.ofDigitChars_eq_foldl, Nat.mul_comm 10]
  rfl

theorem valueOfDigits_lt {digits : List Char} (all : ∀ c ∈ digits, c.isDigit = true) :
    valueOfDigits digits < 10 ^ digits.length := by
  rw [valueOfDigits_eq]
  induction digits with
  | nil => decide
  | cons c rest inductionHypothesis =>
    obtain ⟨digit, others⟩ := List.forall_mem_cons.1 all
    have inside := toNat_of_isDigit digit
    have later := inductionHypothesis others
    have most : 10 ^ rest.length * (c.toNat - '0'.toNat) ≤ 10 ^ rest.length * 9 :=
      Nat.mul_le_mul_left _ (by simp; omega)
    rw [Nat.ofDigitChars_cons, Nat.ofDigitChars_eq_ofDigitChars_zero, List.length_cons,
      Nat.pow_succ, Nat.mul_zero, Nat.zero_add]
    omega

theorem followsZeros_of_isDigit {c : Char} (digit : c.isDigit = true) (other : c ≠ '0') :
    followsZeros c = true := by
  have inside := toNat_of_isDigit digit
  have nonzero : c.toNat ≠ 48 := fun same => other (Char.toNat_inj.1 same)
  have first : '1' ≤ c := by
    show '1'.toNat ≤ c.toNat
    simp; omega
  have last : c ≤ '9' := by
    show c.toNat ≤ '9'.toNat
    simp; omega
  simp [followsZeros, first, last]

theorem isWhiteSpace_of_isDigit {c : Char} (digit : c.isDigit = true) : isWhiteSpace c = false := by
  have inside := toNat_of_isDigit digit
  simp only [isWhiteSpace, Bool.or_eq_false_iff, Bool.and_eq_false_iff, decide_eq_false_iff_not,
    beq_eq_false_iff_ne]
  omega

namespace Grouped

variable {groups : List (List Char)}

theorem isDigit_of_mem (grouped : Grouped groups) {c : Char} (member : c ∈ groups.flatten) :
    c.isDigit = true := by
  obtain ⟨group, among, inside⟩ := List.mem_flatten.1 member
  exact (grouped.digits group among).2 c inside

theorem ne_nil (grouped : Grouped groups) : groups ≠ [] := by
  rintro rfl
  obtain ⟨c, rest, split, -⟩ := grouped.leading
  cases split

theorem notMem (grouped : Grouped groups) : ∀ group ∈ groups, '_' ∉ group :=
  fun group among inside => absurd ((grouped.digits group among).2 _ inside) (by decide)

theorem pieces_join (grouped : Grouped groups) : pieces '_' (join '_' groups) = groups :=
  Text.pieces_join grouped.ne_nil grouped.notMem

theorem mem_join (grouped : Grouped groups) {c : Char} (member : c ∈ join '_' groups) :
    c = '_' ∨ c.isDigit = true :=
  (mem_of_mem_join member).imp_right fun ⟨group, among, inside⟩ =>
    (grouped.digits group among).2 c inside

/-- The first character is that of the digits. -/
theorem head_join (grouped : Grouped groups) :
    ∃ c rest, join '_' groups = c :: rest ∧ c.isDigit = true ∧ c ≠ '0' := by
  obtain ⟨c, rest, split, other⟩ := grouped.leading
  have digit := grouped.isDigit_of_mem (split ▸ List.mem_cons_self)
  cases groups with
  | nil => cases split
  | cons first others =>
    cases first with
    | nil => exact absurd rfl (grouped.digits [] List.mem_cons_self).1
    | cons d more =>
      cases split
      cases others with
      | nil => exact ⟨c, _, rfl, digit, other⟩
      | cons second others => exact ⟨c, _, rfl, digit, other⟩

theorem dropUnderscores_join (grouped : Grouped groups) :
    dropUnderscores (join '_' groups) = groups.flatten := by
  unfold dropUnderscores
  rw [grouped.pieces_join]
  exact if_pos (by simpa using fun group among => (grouped.digits group among).1)

theorem dropUnderscores_minus (grouped : Grouped groups) :
    dropUnderscores ('-' :: join '_' groups) = '-' :: groups.flatten := by
  obtain ⟨first, others, rfl⟩ := List.exists_cons_of_ne_nil grouped.ne_nil
  have parts : pieces '_' ('-' :: join '_' (first :: others)) = ('-' :: first) :: others := by
    rw [pieces, if_neg (by decide), grouped.pieces_join]
  have filled : ∀ group ∈ others, group ≠ [] := fun group among =>
    (grouped.digits group (List.mem_cons_of_mem first among)).1
  unfold dropUnderscores
  rw [parts]
  exact if_pos (by simpa using filled)

theorem magnitudeOf_flatten (grouped : Grouped groups) {signLength : Nat}
    (short : signLength + groups.flatten.length ≤ mostCharacters) :
    magnitudeOf signLength groups.flatten = .ok (valueOfDigits groups.flatten) := by
  obtain ⟨c, rest, split, other⟩ := grouped.leading
  have all : groups.flatten.takeWhile Char.isDigit = groups.flatten := by
    simpa using @List.takeWhile_append_of_pos _ Char.isDigit groups.flatten []
      fun c member => grouped.isDigit_of_mem member
  have first : groups.flatten.head? ≠ some '0' := by simp [split, other]
  have filled : groups.flatten.isEmpty = false := by simp [split]
  unfold magnitudeOf
  rw [all, if_neg first, if_neg (Nat.not_lt.2 short), filled]
  exact if_neg (by simp)

end Grouped

/-! ### Texts that stand for integers -/

/-- The sign of an integer as it is written. -/
inductive Sign where
  | unwritten
  | plus
  | minus
  deriving DecidableEq, Repr

/-- The text of a sign. -/
def Sign.text : Sign → List Char
  | unwritten => []
  | plus => ['+']
  | minus => ['-']

/-- What is kept of a sign when the integer is read. -/
def Sign.kept : Sign → List Char
  | minus => ['-']
  | _ => []

/-- The integer of a sign and a magnitude. -/
def Sign.apply (value : Nat) : Sign → Int
  | minus => -(value : Int)
  | _ => value

theorem dropZeroFraction_append {text fraction : List Char} (pointless : '.' ∉ text)
    (zero : IsZeroFraction fraction) : dropZeroFraction (text ++ fraction) = some text := by
  unfold dropZeroFraction
  rcases zero with rfl | ⟨zeros, filled, all, rfl⟩
  · rw [List.append_nil, (cutFirst?_eq_none_iff '.' text).2 pointless]
  · rw [(cutFirst?_eq_some_iff '.' _ text zeros).2 ⟨rfl, pointless⟩]
    exact if_pos (by simpa [filled] using all)

theorem dropLeadingZeros?_append {lead rest : List Char} {c : Char} (isLead : IsLead lead)
    (digit : c.isDigit = true) (other : c ≠ '0') :
    dropLeadingZeros? (lead ++ c :: rest) = some (c :: rest) := by
  have follows := followsZeros_of_isDigit digit other
  have stops : (c == '0' || c == '_') = false := by
    have : c ≠ '_' := fun same => absurd (same ▸ digit) (by decide)
    simp [other, this]
  rcases isLead with rfl | ⟨first, all⟩
  · rw [List.nil_append, dropLeadingZeros?.eq_2 _ _ other, if_pos follows]
  · obtain ⟨more, rfl⟩ := List.head?_eq_some_iff.1 first
    have dropped : (more ++ c :: rest).dropWhile (fun c => c == '0' || c == '_') = c :: rest := by
      rw [List.dropWhile_append_of_pos fun d member => by
        simpa using all d (List.mem_cons_of_mem _ member)]
      exact List.dropWhile_cons_of_neg (by simp [stops])
    rw [List.cons_append, dropLeadingZeros?, dropped]
    exact if_pos follows

section

variable {lead fraction : List Char} {groups : List (List Char)}

theorem exists_head_append_join (isLead : IsLead lead) (grouped : Grouped groups) :
    ∃ c rest, lead ++ join '_' groups = c :: rest ∧ c.isDigit = true := by
  rcases isLead with rfl | ⟨first, -⟩
  · obtain ⟨c, rest, joined, digit, -⟩ := grouped.head_join
    exact ⟨c, rest, joined, digit⟩
  · obtain ⟨more, rfl⟩ := List.head?_eq_some_iff.1 first
    exact ⟨'0', more ++ join '_' groups, rfl, rfl⟩

theorem mem_append_join (isLead : IsLead lead) (grouped : Grouped groups) {c : Char}
    (member : c ∈ lead ++ join '_' groups) : c = '_' ∨ c.isDigit = true := by
  rcases List.mem_append.1 member with inLead | inGroups
  · rcases isLead with rfl | ⟨-, all⟩
    · cases inLead
    · rcases all c inLead with rfl | rfl
      · exact Or.inr rfl
      · exact Or.inl rfl
  · exact grouped.mem_join inGroups

/-- A text with all the parts that an integer may have comes down to its minus sign and digits. -/
theorem plainInteger?_of_groups (sign : Sign) (isLead : IsLead lead) (grouped : Grouped groups)
    (isFraction : IsZeroFraction fraction) :
    plainInteger? (sign.text ++ (lead ++ join '_' groups) ++ fraction) =
      some (sign.kept ++ groups.flatten) := by
  have pointless : '.' ∉ sign.text ++ (lead ++ join '_' groups) := by
    rw [List.mem_append, not_or]
    refine ⟨by cases sign <;> decide, fun inside => ?_⟩
    exact absurd (mem_append_join isLead grouped inside) (by decide)
  have dropped : dropLeadingZeros? (lead ++ join '_' groups) = some (join '_' groups) := by
    obtain ⟨c, rest, joined, digit, other⟩ := grouped.head_join
    rw [joined]
    exact dropLeadingZeros?_append isLead digit other
  obtain ⟨c, rest, opened, digit⟩ := exists_head_append_join isLead grouped
  have notPlus : c ≠ '+' := fun same => absurd (same ▸ digit) (by decide)
  have notMinus : c ≠ '-' := fun same => absurd (same ▸ digit) (by decide)
  unfold plainInteger?
  rw [dropZeroFraction_append pointless isFraction]
  rw [opened] at dropped ⊢
  cases sign with
  | unwritten =>
    simp [Sign.text, Sign.kept, dropped, notPlus, notMinus, grouped.dropUnderscores_join]
  | plus => simp [Sign.text, Sign.kept, dropped, notMinus, grouped.dropUnderscores_join]
  | minus => simp [Sign.text, Sign.kept, dropped, grouped.dropUnderscores_minus]

theorem signedInteger_kept (sign : Sign) (grouped : Grouped groups)
    (short : sign.kept.length + groups.flatten.length ≤ mostCharacters) :
    signedInteger (sign.kept ++ groups.flatten) =
      .ok (sign.apply (valueOfDigits groups.flatten)) := by
  have unsigned : ∀ rest, groups.flatten = '-' :: rest → False := by
    rintro rest split
    exact absurd (grouped.isDigit_of_mem (split ▸ List.mem_cons_self)) (by decide)
  cases sign with
  | minus =>
    have read : magnitudeOf 1 groups.flatten = _ := grouped.magnitudeOf_flatten short
    rw [Sign.kept, List.singleton_append, signedInteger, read]
    rfl
  | unwritten | plus =>
    have read : magnitudeOf 0 groups.flatten = _ := grouped.magnitudeOf_flatten short
    show signedInteger groups.flatten = _
    rw [signedInteger.eq_2 _ unsigned, read]
    rfl

/-- A text with blanks around it, a sign, zeros in front, groups of digits and zeros behind a point
is read as the integer of its sign and digits. -/
theorem integerOfText_of_groups {before after : List Char} (sign : Sign)
    (white : ∀ c ∈ before ++ after, isWhiteSpace c = true) (isLead : IsLead lead)
    (grouped : Grouped groups) (isFraction : IsZeroFraction fraction)
    (short : sign.kept.length + groups.flatten.length ≤ mostCharacters) :
    integerOfText (String.ofList
        (before ++ (sign.text ++ (lead ++ join '_' groups) ++ fraction) ++ after)) =
      .ok (sign.apply (valueOfDigits groups.flatten)) := by
  have black : ∀ c ∈ sign.text ++ (lead ++ join '_' groups) ++ fraction,
      isWhiteSpace c = false := by
    have ofSign : ∀ c ∈ sign.text, isWhiteSpace c = false := by
      cases sign <;> simp [Sign.text, isWhiteSpace]
    intro c member
    rcases List.mem_append.1 member with inFront | inFraction
    · rcases List.mem_append.1 inFront with inSign | inBody
      · exact ofSign c inSign
      · rcases mem_append_join isLead grouped inBody with rfl | digit
        · decide
        · exact isWhiteSpace_of_isDigit digit
    · rcases isFraction with rfl | ⟨zeros, -, all, rfl⟩
      · cases inFraction
      · rcases List.mem_cons.1 inFraction with rfl | inZeros
        · decide
        · rw [all c inZeros]
          decide
  unfold integerOfText
  rw [String.toList_ofList, trimBy_surrounded white black,
    plainInteger?_of_groups sign isLead grouped isFraction]
  exact signedInteger_kept sign grouped short

end

/-- The digits of a number that is not zero are a group. -/
theorem grouped_toDigits {value : Nat} (positive : 0 < value) :
    Grouped [Nat.toDigits 10 value] := by
  refine ⟨?_, ?_⟩
  · rintro group member
    cases List.mem_singleton.1 member
    exact ⟨Nat.toDigits_ne_nil, fun c inside =>
      Nat.isDigit_of_mem_toDigits (by decide) (by decide) inside⟩
  · obtain ⟨c, rest, digits⟩ := List.exists_cons_of_ne_nil (@Nat.toDigits_ne_nil value 10)
    have first := head?_toDigits positive
    rw [digits] at first
    exact ⟨c, rest, by simp [digits], fun same => first (congrArg some same)⟩

theorem integerOfText_of_digits (sign : Sign) {magnitude : Nat} (positive : 0 < magnitude)
    (short : sign.kept.length + (Nat.toDigits 10 magnitude).length ≤ mostCharacters) :
    integerOfText (String.ofList (sign.text ++ Nat.toDigits 10 magnitude)) =
      .ok (sign.apply magnitude) := by
  have read := @integerOfText_of_groups [] [] _ [] [] sign (by simp) (Or.inl rfl)
    (grouped_toDigits positive) (Or.inl rfl) (by simpa using short)
  simpa [join, valueOfDigits_eq, Nat.ofDigitChars_ten_toDigits] using read

/-- An integer that is not too long is read back from its decimal text. -/
theorem integerOfText_toString {value : Int} (short : (toString value).length ≤ mostCharacters) :
    integerOfText (toString value) = .ok value := by
  have written : toString value = String.ofList (toString value).toList := by simp
  rw [← String.length_toList] at short
  rcases Int.lt_trichotomy value 0 with negative | rfl | positive
  · obtain ⟨nonnegative, -⟩ | ⟨-, text⟩ := toList_toString_int value
    · omega
    · rw [text] at short
      rw [written, text]
      refine (integerOfText_of_digits .minus (by omega) ?_).trans ?_
      · simpa [Sign.kept, Nat.add_comm] using short
      · exact congrArg Except.ok (show -(value.natAbs : Int) = value by omega)
  · rfl
  · obtain ⟨-, text⟩ | ⟨negative, -⟩ := toList_toString_int value
    · rw [text] at short
      rw [written, text]
      refine (integerOfText_of_digits .unwritten (by omega) ?_).trans ?_
      · simpa [Sign.kept] using short
      · exact congrArg Except.ok (show (value.natAbs : Int) = value by omega)
    · omega

theorem magnitudeOf_lt {signLength magnitude : Nat} {text : List Char}
    (read : magnitudeOf signLength text = .ok magnitude) : magnitude < 10 ^ mostCharacters := by
  unfold magnitudeOf at read
  dsimp only at read
  split at read
  · split at read
    · cases read
      exact Nat.pow_pos (by decide)
    · cases read
  · split at read
    · cases read
    case isFalse short =>
      split at read
      · cases read
      · cases read
        refine Nat.lt_of_lt_of_le (valueOfDigits_lt ?_) (Nat.pow_le_pow_right (by decide) ?_)
        · exact fun c member => List.all_eq_true.1 List.all_takeWhile c member
        · omega

/-- An integer that is read has no more digits than are allowed. -/
theorem natAbs_lt_of_integerOfText {text : String} {value : Int}
    (read : integerOfText text = .ok value) : value.natAbs < 10 ^ mostCharacters := by
  unfold integerOfText at read
  split at read
  · cases read
  case h_2 plain _ =>
    unfold signedInteger at read
    split at read
    case h_1 digits _ =>
      cases found : magnitudeOf 1 digits with
      | error => rw [found] at read; cases read
      | ok magnitude =>
        rw [found] at read
        cases read
        simpa using magnitudeOf_lt found
    case h_2 =>
      cases found : magnitudeOf 0 plain with
      | error => rw [found] at read; cases read
      | ok magnitude =>
        rw [found] at read
        cases read
        exact magnitudeOf_lt found

/-! ### Numbers with a point -/

/-- A magnitude that 53 bits hold: its unit divides it. -/
def FitsDouble (whole : Nat) : Prop :=
  2 ^ (whole.log2 - wholeBits) ∣ whole

theorem wholeOf?_eq_none_iff (digits places : Nat) :
    wholeOf? digits places = none ↔
      digits / 10 ^ places < 2 ^ wholeBits ∧ ¬ 10 ^ places ∣ digits := by
  simp only [wholeOf?, Nat.pow_eq, Nat.dvd_iff_mod_eq_zero]
  split
  case isTrue small => simp [small]
  case isFalse large => simp [large]

theorem wholeOf?_mul {whole : Nat} (places : Nat) (exact : FitsDouble whole) :
    wholeOf? (whole * 10 ^ places) places = some whole := by
  have positive : 0 < 10 ^ places := Nat.pow_pos (by decide)
  simp only [wholeOf?, Nat.pow_eq, Nat.mul_div_cancel whole positive, Nat.mul_mod_left, if_true]
  split
  · rfl
  · obtain ⟨quotient, split⟩ := exact
    have positiveUnit : 0 < 2 ^ (whole.log2 - wholeBits) := Nat.pow_pos (by decide)
    generalize 2 ^ (whole.log2 - wholeBits) = unit at split positiveUnit ⊢
    have quotientOf : whole * 10 ^ places / (10 ^ places * unit) = quotient := by
      rw [split, Nat.mul_comm unit, Nat.mul_assoc, Nat.mul_comm unit]
      exact Nat.mul_div_cancel quotient (Nat.mul_pos positive positiveUnit)
    have divides : 10 ^ places * unit ∣ whole * 10 ^ places :=
      ⟨quotient, by rw [split]; ac_rfl⟩
    rw [nearestQuotient_of_dvd _ _ (Nat.mul_pos positive positiveUnit) divides, quotientOf, split,
      Nat.mul_comm]

/-- A whole number that 53 bits hold is read as it is, with any number of decimal places. -/
theorem integerOfDecimal_of_whole {value : Int} (places : Nat) (exact : FitsDouble value.natAbs)
    (fits : value.natAbs < 2 ^ 63) :
    integerOfDecimal (value * 10 ^ places) places = .ok value := by
  have magnitude : (value * 10 ^ places).natAbs = value.natAbs * 10 ^ places := by
    rw [Int.natAbs_mul, Int.natAbs_pow]
    rfl
  have sign : (value * 10 ^ places).sign = value.sign := by
    rw [Int.sign_mul, Int.sign_eq_one_of_pos (Int.pow_pos (by decide)), Int.mul_one]
  unfold integerOfDecimal
  rw [magnitude, wholeOf?_mul places exact, sign]
  exact (if_pos fits).trans (congrArg Except.ok (Int.sign_mul_natAbs value))

/-- A number is fractional when it has a fraction and its unit is less than one. -/
theorem integerOfDecimal_eq_fractional_iff (digits : Int) (places : Nat) :
    integerOfDecimal digits places = .error .fractional ↔
      digits.natAbs / 10 ^ places < 2 ^ wholeBits ∧ ¬ 10 ^ places ∣ digits.natAbs := by
  rw [← wholeOf?_eq_none_iff, integerOfDecimal]
  cases wholeOf? digits.natAbs places with
  | none => simp
  | some whole =>
    dsimp only
    split <;> simp

/-- An integer that is read from a number with a point has fewer than 64 bits. -/
theorem natAbs_lt_of_integerOfDecimal {digits value : Int} {places : Nat}
    (read : integerOfDecimal digits places = .ok value) : value.natAbs < 2 ^ 63 := by
  unfold integerOfDecimal at read
  split at read
  · cases read
  case h_2 whole _ =>
    split at read
    case isTrue fits =>
      cases read
      have sign : digits.sign.natAbs ≤ 1 := by
        rw [Int.natAbs_sign]
        split <;> decide
      rw [Int.natAbs_mul, Int.natAbs_natCast]
      exact Nat.lt_of_le_of_lt (Nat.mul_le_mul_right whole sign) (by simpa using fits)
    case isFalse => cases read

end CatalogReader.Settings
