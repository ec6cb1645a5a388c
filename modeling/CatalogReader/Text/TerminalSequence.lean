/-
Sequences that steer a terminal, which the `echo` of typer leaves out: the escape character, an
opening bracket, numbers with their separators, and a letter. Text that does not go to a terminal is
written without them. A sequence that is not finished stays as it is.
-/

namespace CatalogReader.Text

/-- Whether a character may stand between the bracket and the letter of a sequence. -/
def isSequenceParameter (c : Char) : Bool :=
  c.isDigit || c == ';' || c == '?'

/-- The text behind a sequence whose escape character and bracket stand in front. -/
def afterSequence? (text : List Char) : Option (List Char) :=
  match text.dropWhile isSequenceParameter with
  | [] => none
  | letter :: rest => if letter.isAlpha then some rest else none

theorem length_afterSequence? (text rest : List Char) (found : afterSequence? text = some rest) :
    rest.length < text.length := by
  have shorter := (List.dropWhile_sublist (l := text) isSequenceParameter).length_le
  unfold afterSequence? at found
  split at found
  case h_1 => cases found
  case h_2 letter behind cut =>
    rw [cut, List.length_cons] at shorter
    split at found
    · cases found
      omega
    · cases found

/-- A text without the sequences in it. -/
def dropSequences : List Char → List Char
  | [] => []
  | '\x1b' :: '[' :: rest =>
    match found : afterSequence? rest with
    | none => '\x1b' :: dropSequences ('[' :: rest)
    | some after =>
      have : after.length < rest.length := length_afterSequence? rest after found
      dropSequences after
  | c :: rest => c :: dropSequences rest
termination_by text => text.length

/-- A text without the escape character has no sequences to lose. -/
theorem dropSequences_of_notMem (text : List Char) (absent : '\x1b' ∉ text) :
    dropSequences text = text := by
  fun_induction dropSequences text with
  | case1 => rfl
  | case2 => simp at absent
  | case3 => simp at absent
  | case4 c rest _ inductionHypothesis =>
    rw [inductionHypothesis fun member => absent (List.mem_cons_of_mem c member)]

end CatalogReader.Text
