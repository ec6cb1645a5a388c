/-
Quoted texts, read back. The reader takes one character after the other. In front of a character it
finds the closing quote, a backslash, or the character itself; behind a backslash it finds a letter
or the character that is escaped, and behind some letters the digits of a number. Quoting leaves no
quote of the sort in use without a backslash, so that a quoted text is read as the text itself and
the reading ends in front of whatever stands behind its closing quote.
-/

import CatalogReader.Text.Quoted
import Mathlib.Algebra.Group.Nat.Defs
import Mathlib.Tactic.SplitIfs

namespace CatalogReader.Text

/-! ### The reader -/

/-- Where a reader is between the quotes. -/
inductive QuoteState where
  /-- In front of a character. -/
  | ready
  /-- Behind a backslash. -/
  | escaping
  /-- In front of a digit, behind which there are so many more; those before it have a value. -/
  | numbering (more value : Nat)
  deriving DecidableEq, Repr

/-- Where a reader is behind a backslash and a letter that is followed by a number. -/
def numberingAfter? (letter : Char) : Option QuoteState :=
  if letter = 'x' then some (.numbering 1 0)
  else if letter = 'u' then some (.numbering 3 0)
  else if letter = 'U' then some (.numbering 7 0)
  else none

/-- The character that any other letter behind a backslash stands for. -/
def charOfEscape (letter : Char) : Char :=
  if letter = 'n' then '\n'
  else if letter = 'r' then '\r'
  else if letter = 't' then '\t'
  else letter

/-- What is read, with a character in front of the text. -/
def withFirst (c : Char) (read : Option (List Char × List Char)) :
    Option (List Char × List Char) :=
  read.map fun (text, rest) => (c :: text, rest)

/-- The text up to the closing quote, and what stands behind this quote. -/
def unquoteFrom? (quote : Char) : QuoteState → List Char → Option (List Char × List Char)
  | _, [] => none
  | .ready, c :: rest =>
    if c = quote then some ([], rest)
    else if c = '\\' then unquoteFrom? quote .escaping rest
    else withFirst c (unquoteFrom? quote .ready rest)
  | .escaping, letter :: rest =>
    match numberingAfter? letter with
    | some state => unquoteFrom? quote state rest
    | none => withFirst (charOfEscape letter) (unquoteFrom? quote .ready rest)
  | .numbering 0 value, digit :: rest =>
    match hexValue? digit with
    | none => none
    | some last => withFirst (Char.ofNat (value * 16 + last)) (unquoteFrom? quote .ready rest)
  | .numbering (more + 1) value, digit :: rest =>
    match hexValue? digit with
    | none => none
    | some next => unquoteFrom? quote (.numbering more (value * 16 + next)) rest

/-- The text between quotes in front of a text, and what stands behind it. -/
def unquote? : List Char → Option (List Char × List Char)
  | [] => none
  | quote :: rest =>
    if quote = apostrophe ∨ quote = doubleQuote then unquoteFrom? quote .ready rest else none

/-- The text between quotes in front of a text, or the bare word for a missing one, and what stands
behind it. -/
def unquoteOption? : List Char → Option (Option String × List Char)
  | 'N' :: 'o' :: 'n' :: 'e' :: rest => some (none, rest)
  | text => (unquote? text).map fun (inner, rest) => (some (String.ofList inner), rest)

/-! ### Numbers -/

variable {quote : Char}

/-- The digits of a number lead to its value, with those that were read before in front. -/
theorem unquoteFrom?_hexNumber {digits value : Nat} (fits : value < 16 ^ digits)
    (more before : Nat) (rest : List Char) :
    unquoteFrom? quote (.numbering (digits + more) before)
        (hexNumber .small digits value ++ rest) =
      unquoteFrom? quote (.numbering more (before * 16 ^ digits + value)) rest := by
  induction digits generalizing value more rest with
  | zero =>
    obtain rfl : value = 0 := Nat.lt_one_iff.mp fits
    simp [hexNumber]
  | succ digits inductionHypothesis =>
    have front : value / 16 < 16 ^ digits := by
      rw [Nat.pow_succ] at fits
      omega
    have last := hexValue?_hexDigit .small (value % 16) (Nat.mod_lt value (by decide))
    have joined : (before * 16 ^ digits + value / 16) * 16 + value % 16 =
        before * 16 ^ (digits + 1) + value := by
      rw [Nat.pow_succ, ← Nat.mul_assoc]
      omega
    rw [hexNumber, List.append_assoc, Nat.add_right_comm, Nat.add_assoc,
      inductionHypothesis front, List.singleton_append, unquoteFrom?, last]
    dsimp only
    rw [joined]

/-- The character whose number is written with all its digits. -/
theorem unquoteFrom?_number {digits : Nat} {c : Char} (fits : c.toNat < 16 ^ (digits + 1))
    (rest : List Char) :
    unquoteFrom? quote (.numbering digits 0) (hexNumber .small (digits + 1) c.toNat ++ rest) =
      withFirst c (unquoteFrom? quote .ready rest) := by
  have front : c.toNat / 16 < 16 ^ digits := by
    rw [Nat.pow_succ] at fits
    omega
  have last := hexValue?_hexDigit .small (c.toNat % 16) (Nat.mod_lt c.toNat (by decide))
  have read := @unquoteFrom?_hexNumber quote _ _ front 0 0
    (hexDigit .small (c.toNat % 16) :: rest)
  rw [Nat.zero_mul, Nat.zero_add, Nat.add_zero] at read
  rw [hexNumber, List.append_assoc, List.singleton_append, read, unquoteFrom?, last]
  dsimp only
  rw [Nat.div_add_mod', Char.ofNat_toNat]

/-! ### Characters -/

theorem quoteFor_cases (text : List Char) :
    quoteFor text = apostrophe ∨ quoteFor text = doubleQuote := by
  unfold quoteFor
  split
  · exact Or.inr rfl
  · exact Or.inl rfl

theorem unquoteFrom?_backslash (mark : quote = apostrophe ∨ quote = doubleQuote)
    (rest : List Char) :
    unquoteFrom? quote .ready ('\\' :: rest) = unquoteFrom? quote .escaping rest := by
  have other : '\\' ≠ quote := by rcases mark with rfl | rfl <;> decide
  rw [unquoteFrom?, if_neg other, if_pos rfl]

theorem unquoteFrom?_escaped {letter c : Char} (mark : quote = apostrophe ∨ quote = doubleQuote)
    (single : numberingAfter? letter = none) (meant : charOfEscape letter = c)
    (rest : List Char) :
    unquoteFrom? quote .ready ('\\' :: letter :: rest) =
      withFirst c (unquoteFrom? quote .ready rest) := by
  rw [unquoteFrom?_backslash mark, unquoteFrom?, single, ← meant]

theorem unquoteFrom?_numbered (mark : quote = apostrophe ∨ quote = doubleQuote) (c : Char)
    (rest : List Char) :
    unquoteFrom? quote .ready (numbered c ++ rest) =
      withFirst c (unquoteFrom? quote .ready rest) := by
  have bound : c.toNat < 0x110000 := by
    rcases c.valid with low | ⟨-, high⟩
    · exact Nat.lt_trans low (by decide)
    · exact high
  unfold numbered
  dsimp only
  split_ifs with two four
  · exact (unquoteFrom?_backslash mark _).trans (@unquoteFrom?_number quote 1 c two rest)
  · exact (unquoteFrom?_backslash mark _).trans (@unquoteFrom?_number quote 3 c four rest)
  · have eight : c.toNat < 16 ^ 8 := Nat.lt_trans bound (by decide)
    exact (unquoteFrom?_backslash mark _).trans (@unquoteFrom?_number quote 7 c eight rest)

/-- Whatever a character is written as, it is read. -/
theorem unquoteFrom?_quotedChar (mark : quote = apostrophe ∨ quote = doubleQuote) (c : Char)
    (rest : List Char) :
    unquoteFrom? quote .ready (quotedChar quote c ++ rest) =
      withFirst c (unquoteFrom? quote .ready rest) := by
  unfold quotedChar
  split_ifs with escaped line carriage tab printable
  · -- The quote in use or a backslash.
    have itself : numberingAfter? c = none ∧ charOfEscape c = c := by
      rcases escaped with rfl | rfl
      · rcases mark with rfl | rfl <;> exact ⟨rfl, rfl⟩
      · exact ⟨rfl, rfl⟩
    exact unquoteFrom?_escaped mark itself.1 itself.2 rest
  · subst line
    exact unquoteFrom?_escaped mark rfl rfl rest
  · subst carriage
    exact unquoteFrom?_escaped mark rfl rfl rest
  · subst tab
    exact unquoteFrom?_escaped mark rfl rfl rest
  · obtain ⟨unquoted, plain⟩ := not_or.mp escaped
    rw [List.singleton_append, unquoteFrom?, if_neg unquoted, if_neg plain]
  · exact unquoteFrom?_numbered mark c rest

/-! ### Texts -/

/-- What is quoted is read, up to the closing quote. -/
theorem unquote?_quoted (text rest : List Char) :
    unquote? (quoted text ++ rest) = some (text, rest) := by
  have mark := quoteFor_cases text
  unfold quoted
  rw [List.append_assoc, List.singleton_append, List.cons_append, unquote?, if_pos mark]
  generalize quoteFor text = quote at mark
  induction text with
  | nil => rw [List.flatMap_nil, List.nil_append, unquoteFrom?, if_pos rfl]
  | cons c others inductionHypothesis =>
    rw [List.flatMap_cons, List.append_assoc, unquoteFrom?_quotedChar mark, inductionHypothesis]
    rfl

example : unquote? ['"', '\'', '\\', 'x', '0', '7', '"', ' ', '('] =
    some (['\'', '\x07'], [' ', '(']) := by decide

theorem unquoteOption?_quoteOption (word : Option String) (rest : List Char) :
    unquoteOption? ((quoteOption word).toList ++ rest) = some (word, rest) := by
  cases word with
  | none => rfl
  | some text =>
    have read := unquote?_quoted text.toList rest
    have mark := quoteFor_cases text.toList
    rw [quoteOption, quote, String.toList_ofList]
    unfold unquoteOption?
    split
    case h_1 behind same =>
      -- No quote is the first letter of the bare word.
      have first : quoteFor text.toList = 'N' := (List.cons.inj same).1
      rw [first] at mark
      rcases mark with wrong | wrong <;> cases wrong
    case h_2 =>
      rw [read, Option.map_some]
      dsimp only
      rw [String.ofList_toList]

/-- Texts that may be missing are told apart in their quoted form, whatever stands behind it. -/
theorem quoteOption_append_inj {first second : Option String} {rest others : List Char} :
    (quoteOption first).toList ++ rest = (quoteOption second).toList ++ others ↔
      first = second ∧ rest = others := by
  constructor
  · intro same
    have read := unquoteOption?_quoteOption first rest
    rw [same, unquoteOption?_quoteOption] at read
    exact ⟨(Prod.mk.inj (Option.some.inj read)).1.symm, (Prod.mk.inj (Option.some.inj read)).2.symm⟩
  · rintro ⟨rfl, rfl⟩
    rfl

end CatalogReader.Text
