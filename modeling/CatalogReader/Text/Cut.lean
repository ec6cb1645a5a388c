/-
Cutting a text at a mark: at its first occurrence, at its last one, or at all of them. A cut loses
only the marks, and the part on the far side of the chosen mark holds no other one.
-/

namespace CatalogReader.Text

/-! ### One cut -/

/-- The texts before and after the first occurrence of a mark. -/
def cutFirst? (mark : Char) : List Char → Option (List Char × List Char)
  | [] => none
  | c :: rest =>
    if c = mark then some ([], rest)
    else (cutFirst? mark rest).map fun (before, after) => (c :: before, after)

/-- The texts before and after the last occurrence of a mark. -/
def cutLast? (mark : Char) (text : List Char) : Option (List Char × List Char) :=
  (cutFirst? mark text.reverse).map fun (after, before) => (before.reverse, after.reverse)

/-- The text before the first occurrence of a mark, which is all of it when there is none. -/
def beforeFirst (mark : Char) (text : List Char) : List Char :=
  text.takeWhile (· != mark)

theorem cutFirst?_eq_none_iff (mark : Char) (text : List Char) :
    cutFirst? mark text = none ↔ mark ∉ text := by
  induction text with
  | nil => simp [cutFirst?]
  | cons c rest inductionHypothesis =>
    by_cases same : c = mark
    · simp [cutFirst?, same]
    · simp [cutFirst?, same, inductionHypothesis, Ne.symm same]

theorem cutFirst?_eq_some_iff (mark : Char) (text before after : List Char) :
    cutFirst? mark text = some (before, after) ↔
      text = before ++ mark :: after ∧ mark ∉ before := by
  induction text generalizing before with
  | nil => simp [cutFirst?]
  | cons c rest inductionHypothesis =>
    by_cases same : c = mark
    · subst same
      cases before with
      | nil => simp [cutFirst?]
      | cons head tail => simp +contextual [cutFirst?]
    · cases before with
      | nil => simp [cutFirst?, same]
      | cons head tail =>
        simp only [cutFirst?, same, if_false, Option.map_eq_some_iff, Prod.exists, Prod.mk.injEq,
          List.cons.injEq, List.cons_append, List.mem_cons, not_or]
        constructor
        · rintro ⟨first, last, found, ⟨rfl, rfl⟩, rfl⟩
          obtain ⟨rfl, absent⟩ := (inductionHypothesis first).1 found
          exact ⟨⟨rfl, rfl⟩, Ne.symm same, absent⟩
        · rintro ⟨⟨rfl, rfl⟩, _, absent⟩
          exact ⟨tail, after, (inductionHypothesis tail).2 ⟨rfl, absent⟩, ⟨rfl, rfl⟩, rfl⟩

theorem cutLast?_eq_none_iff (mark : Char) (text : List Char) :
    cutLast? mark text = none ↔ mark ∉ text := by
  simp [cutLast?, cutFirst?_eq_none_iff]

theorem cutLast?_eq_some_iff (mark : Char) (text before after : List Char) :
    cutLast? mark text = some (before, after) ↔
      text = before ++ mark :: after ∧ mark ∉ after := by
  simp only [cutLast?, Option.map_eq_some_iff, Prod.exists, Prod.mk.injEq]
  constructor
  · rintro ⟨last, first, found, rfl, rfl⟩
    obtain ⟨split, absent⟩ := (cutFirst?_eq_some_iff mark text.reverse last first).1 found
    refine ⟨?_, by simpa using absent⟩
    simpa using congrArg List.reverse split
  · rintro ⟨rfl, absent⟩
    exact ⟨after.reverse, before.reverse,
      (cutFirst?_eq_some_iff mark _ _ _).2 (by simpa using absent), by simp, by simp⟩

/-! ### All cuts -/

/-- The pieces between the occurrences of a mark; their number is that of the marks plus one. -/
def pieces (mark : Char) : List Char → List (List Char)
  | [] => [[]]
  | c :: rest =>
    if c = mark then [] :: pieces mark rest
    else
      match pieces mark rest with
      | [] => [[c]]
      | first :: others => (c :: first) :: others

/-- Texts joined with a mark between each two of them. -/
def join (mark : Char) : List (List Char) → List Char
  | [] => []
  | [only] => only
  | first :: second :: others => first ++ mark :: join mark (second :: others)

theorem pieces_ne_nil (mark : Char) (text : List Char) : pieces mark text ≠ [] := by
  cases text with
  | nil => simp [pieces]
  | cons c rest =>
    unfold pieces
    split
    · simp
    · split <;> simp

/-- Joining the pieces with the mark gives the text back. -/
theorem join_pieces (mark : Char) (text : List Char) : join mark (pieces mark text) = text := by
  induction text with
  | nil => rfl
  | cons c rest inductionHypothesis =>
    unfold pieces
    split
    case isTrue same =>
      subst same
      cases found : pieces c rest with
      | nil => exact absurd found (pieces_ne_nil c rest)
      | cons first others =>
        rw [found] at inductionHypothesis
        simp [join, inductionHypothesis]
    case isFalse =>
      cases found : pieces mark rest with
      | nil => exact absurd found (pieces_ne_nil mark rest)
      | cons first others =>
        rw [found] at inductionHypothesis
        cases others with
        | nil => simpa [join] using inductionHypothesis
        | cons second more => simpa [join] using inductionHypothesis

theorem pieces_append_cons {mark : Char} {first : List Char} (absent : mark ∉ first)
    (rest : List Char) : pieces mark (first ++ mark :: rest) = first :: pieces mark rest := by
  induction first with
  | nil => exact if_pos rfl
  | cons c others inductionHypothesis =>
    rw [List.mem_cons, not_or] at absent
    rw [List.cons_append, pieces, if_neg (Ne.symm absent.1), inductionHypothesis absent.2]

theorem pieces_of_notMem {mark : Char} {text : List Char} (absent : mark ∉ text) :
    pieces mark text = [text] := by
  induction text with
  | nil => rfl
  | cons c others inductionHypothesis =>
    rw [List.mem_cons, not_or] at absent
    rw [pieces, if_neg (Ne.symm absent.1), inductionHypothesis absent.2]

/-- Texts without the mark are the pieces of what is joined from them. -/
theorem pieces_join {mark : Char} {parts : List (List Char)} (filled : parts ≠ [])
    (absent : ∀ part ∈ parts, mark ∉ part) : pieces mark (join mark parts) = parts := by
  induction parts with
  | nil => exact absurd rfl filled
  | cons first others inductionHypothesis =>
    obtain ⟨here, later⟩ := List.forall_mem_cons.1 absent
    cases others with
    | nil => exact pieces_of_notMem here
    | cons second more =>
      rw [join, pieces_append_cons here, inductionHypothesis (List.cons_ne_nil _ _) later]

theorem pieces_append_mark (mark : Char) (first rest : List Char) :
    pieces mark (first ++ mark :: rest) = pieces mark first ++ pieces mark rest := by
  induction first with
  | nil => exact if_pos rfl
  | cons c others inductionHypothesis =>
    rw [List.cons_append, pieces, pieces]
    split
    · rw [inductionHypothesis]
      rfl
    · rw [inductionHypothesis]
      cases found : pieces mark others with
      | nil => exact absurd found (pieces_ne_nil mark others)
      | cons piece more => rfl

/-- Texts without the mark are the pieces of what they make with the mark behind each one. -/
theorem pieces_flatMap_append {mark : Char} {parts : List (List Char)}
    (absent : ∀ part ∈ parts, mark ∉ part) :
    pieces mark (parts.flatMap (· ++ [mark])) = parts ++ [[]] := by
  induction parts with
  | nil => rfl
  | cons first others inductionHypothesis =>
    obtain ⟨here, later⟩ := List.forall_mem_cons.1 absent
    rw [List.flatMap_cons, List.append_assoc, List.singleton_append, pieces_append_cons here,
      inductionHypothesis later]
    rfl

/-- What is joined behind other texts is found at the end of the pieces. -/
theorem exists_pieces_join {mark : Char} (first : List (List Char)) {rest : List (List Char)}
    (filled : rest ≠ []) (absent : ∀ part ∈ rest, mark ∉ part) :
    ∃ before, pieces mark (join mark (first ++ rest)) = before ++ rest := by
  induction first with
  | nil => exact ⟨[], pieces_join filled absent⟩
  | cons part others inductionHypothesis =>
    obtain ⟨before, found⟩ := inductionHypothesis
    cases joined : others ++ rest with
    | nil => exact absurd (List.append_eq_nil_iff.1 joined).2 filled
    | cons second more =>
      rw [joined] at found
      rw [List.cons_append, joined, join, pieces_append_mark, found, ← List.append_assoc]
      exact ⟨_, rfl⟩

theorem mem_of_mem_join {mark c : Char} {parts : List (List Char)} (member : c ∈ join mark parts) :
    c = mark ∨ ∃ part ∈ parts, c ∈ part := by
  induction parts with
  | nil => cases member
  | cons first others inductionHypothesis =>
    cases others with
    | nil => exact Or.inr ⟨first, List.mem_cons_self, member⟩
    | cons second more =>
      rcases List.mem_append.1 member with here | later
      · exact Or.inr ⟨first, List.mem_cons_self, here⟩
      · rcases List.mem_cons.1 later with same | inside
        · exact Or.inl same
        · exact (inductionHypothesis inside).imp_right fun ⟨part, among, found⟩ =>
            ⟨part, List.mem_cons_of_mem first among, found⟩

/-- No piece holds the mark. -/
theorem notMem_of_mem_pieces (mark : Char) (text piece : List Char)
    (member : piece ∈ pieces mark text) : mark ∉ piece := by
  induction text generalizing piece with
  | nil => simp_all [pieces]
  | cons c rest inductionHypothesis =>
    unfold pieces at member
    split at member
    · rcases List.mem_cons.1 member with rfl | later
      · simp
      · exact inductionHypothesis piece later
    case isFalse different =>
      split at member
      case h_1 => simp_all [Ne.symm]
      case h_2 first others found =>
        rcases List.mem_cons.1 member with rfl | later
        · have absent := inductionHypothesis first (by simp [found])
          simp [absent, Ne.symm different]
        · exact inductionHypothesis piece (by simp [found, later])

end CatalogReader.Text
