/-
Blank characters and trimming. Two sets are in use: the `White_Space` property of Unicode, and the
larger set that also holds the four information separators U+001C to U+001F. Messages, words and the
settings file go by the larger one; a number given as text is trimmed by the smaller one.
-/

namespace CatalogReader.Text

/-! ### The two sets -/

/-- The `White_Space` property. -/
def isWhiteSpace (c : Char) : Bool :=
  let code := c.toNat
  (0x09 ≤ code && code ≤ 0x0D) || code == 0x20 || code == 0x85 || code == 0xA0 ||
    code == 0x1680 || (0x2000 ≤ code && code ≤ 0x200A) || code == 0x2028 || code == 0x2029 ||
    code == 0x202F || code == 0x205F || code == 0x3000

/-- White space, or one of the information separators. -/
def isBlank (c : Char) : Bool :=
  isWhiteSpace c || (0x1C ≤ c.toNat && c.toNat ≤ 0x1F)

/-- Whether a character ends a line: the line breaks, the page and field separators, and the two
separators of Unicode. -/
def endsLine (c : Char) : Bool :=
  let code := c.toNat
  (0x0A ≤ code && code ≤ 0x0D) || (0x1C ≤ code && code ≤ 0x1E) || code == 0x85 ||
    code == 0x2028 || code == 0x2029

/-- A text with line feeds for all its line breaks. -/
def unifyLineBreaks : List Char → List Char
  | '\r' :: '\n' :: rest => '\n' :: unifyLineBreaks rest
  | '\r' :: rest => '\n' :: unifyLineBreaks rest
  | c :: rest => c :: unifyLineBreaks rest
  | [] => []

/-! ### Trimming -/

/-- Without the longest stretch at the end whose characters all satisfy the test. -/
def dropWhileAtEnd (test : Char → Bool) (text : List Char) : List Char :=
  (text.reverse.dropWhile test).reverse

/-- Without the characters at both ends that satisfy the test. -/
def trimBy (test : Char → Bool) (text : List Char) : List Char :=
  dropWhileAtEnd test (text.dropWhile test)

/-- Trimming takes off what surrounds a text, if the text holds nothing of that kind itself. -/
theorem trimBy_surrounded {test : Char → Bool} {before text after : List Char}
    (blank : ∀ c ∈ before ++ after, test c = true) (other : ∀ c ∈ text, test c = false) :
    trimBy test (before ++ text ++ after) = text := by
  obtain ⟨front, back⟩ := List.forall_mem_append.1 blank
  have kept : ∀ rest : List Char, (∀ c ∈ rest, test c = false) → rest.dropWhile test = rest := by
    intro rest none
    cases rest with
    | nil => rfl
    | cons c others => exact List.dropWhile_cons_of_neg (by simp [none])
  have behind : ∀ c ∈ after.reverse, test c = true := fun c member =>
    back c (List.mem_reverse.1 member)
  unfold trimBy dropWhileAtEnd
  rw [List.append_assoc, List.dropWhile_append_of_pos front, List.dropWhile_append, kept text other]
  split
  case isTrue empty =>
    rw [List.isEmpty_iff.1 empty, ← List.append_nil after, List.dropWhile_append_of_pos back]
    rfl
  case isFalse =>
    rw [List.reverse_append, List.dropWhile_append_of_pos behind, kept _ fun c member =>
      other c (List.mem_reverse.1 member), List.reverse_reverse]

/-- Without the blanks at the end. -/
def trimEnd (text : List Char) : List Char :=
  dropWhileAtEnd isBlank text

/-- Without the blanks at both ends. -/
def trim (text : List Char) : List Char :=
  trimBy isBlank text

/-- What is dropped at the end satisfies the test, and nothing else is changed. -/
theorem dropWhileAtEnd_append_takeWhile (test : Char → Bool) (text : List Char) :
    dropWhileAtEnd test text ++ (text.reverse.takeWhile test).reverse = text := by
  rw [dropWhileAtEnd, ← List.reverse_append, List.takeWhile_append_dropWhile, List.reverse_reverse]

/-- The maximal stretches of characters that are not blank. -/
def words (text : List Char) : List (List Char) :=
  (text.splitBy fun left right => isBlank left == isBlank right).filter fun stretch =>
    !stretch.all isBlank

end CatalogReader.Text
