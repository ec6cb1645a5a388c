/-
Files of variables, written and read again. Statements with names that need no quotes are read back
in their order, however their values are written, as long as the value is read for itself at the end
of its line: between single quotes any text is, and without quotes a text on one line that has no
comment. So settings that are written to a file load as they are.

Line breaks are unified before a file is read, and references are replaced afterwards. A value is
safe from both when it holds no carriage return and no dollar sign in front of a brace.
-/

import CatalogReader.Proofs.Settings.Loading
import CatalogReader.Settings.EnvFile

namespace CatalogReader

namespace EnvFile

open CatalogReader.Text

/-! ### Statements are cut off -/

theorem length_dropLine_le (text : List Char) : (dropLine text).length ≤ text.length :=
  ((List.drop_sublist 1 _).trans (List.dropWhile_sublist _)).length_le

theorem length_dropLine_lt {text : List Char} (filled : text ≠ []) :
    (dropLine text).length < text.length := by
  have shorter := (List.dropWhile_sublist (l := text) (· != '\n')).length_le
  have positive := List.length_pos_iff.2 filled
  unfold dropLine
  rw [List.length_drop]
  omega

theorem length_cutName?_lt {text name after : List Char}
    (cut : cutName? text = some (name, after)) : after.length < text.length := by
  unfold cutName? at cut
  dsimp only at cut
  split at cut
  case isTrue =>
    have shorter := (List.drop_sublist 1 text).length_le
    split at cut
    case h_1 => cases cut
    case h_2 first second found =>
      have parts := congrArg List.length ((cutFirst?_eq_some_iff _ _ _ _).1 found).1
      rw [List.length_append, List.length_cons] at parts
      split at cut
      · cases cut
      · cases cut
        omega
  case isFalse =>
    split at cut
    case isTrue => cases cut
    case isFalse filled =>
      cases cut
      have parts := congrArg List.length (@List.takeWhile_append_dropWhile _ isNameChar text)
      have positive := List.length_pos_iff.2 (mt List.isEmpty_iff.2 filled)
      rw [List.length_append] at parts
      omega

theorem length_cutQuoted?_lt {quote : Char} {text before after : List Char}
    (cut : cutQuoted? quote text = some (before, after)) : after.length < text.length := by
  induction text using cutQuoted?.induct quote generalizing before with
  | case1 => cases cut
  | case2 c rest inductionHypothesis =>
    obtain ⟨⟨first, last⟩, found, same⟩ := Option.map_eq_some_iff.1 cut
    cases same
    have shorter := inductionHypothesis found
    rw [List.length_cons, List.length_cons]
    omega
  | case3 rest unescaped =>
    rw [cutQuoted?.eq_3 _ _ _ unescaped, if_pos rfl] at cut
    cases cut
    exact Nat.lt_succ_self _
  | case4 c rest unescaped other inductionHypothesis =>
    rw [cutQuoted?.eq_3 _ _ _ unescaped, if_neg other] at cut
    obtain ⟨⟨first, last⟩, found, same⟩ := Option.map_eq_some_iff.1 cut
    cases same
    exact Nat.lt_succ_of_lt (inductionHypothesis found)

theorem length_cutValue?_le {text value after : List Char}
    (cut : cutValue? text = some (value, after)) : after.length ≤ text.length := by
  have shorter := (List.dropWhile_sublist (l := text) isGap).length_le
  have dropped := (List.drop_sublist 1 (text.dropWhile isGap)).length_le
  unfold cutValue? at cut
  dsimp only at cut
  split at cut
  · obtain ⟨⟨first, last⟩, found, same⟩ := Option.map_eq_some_iff.1 cut
    cases same
    have less := length_cutQuoted?_lt found
    dsimp only
    omega
  · split at cut
    · obtain ⟨⟨first, last⟩, found, same⟩ := Option.map_eq_some_iff.1 cut
      cases same
      have less := length_cutQuoted?_lt found
      dsimp only
      omega
    · cases cut
      exact (List.dropWhile_sublist _).length_le

theorem length_finish_le (binding : Binding) (text : List Char) :
    (finish binding text).2.length ≤ text.length := by
  have shorter := (List.dropWhile_sublist (l := text) isGap).length_le
  unfold finish
  split
  case h_1 rest ended =>
    unfold endLine? at ended
    split at ended
    · cases ended
      exact Nat.zero_le _
    case h_2 behind _ found =>
      cases ended
      rw [found, List.length_cons] at shorter
      exact Nat.le_of_succ_le shorter
    case h_3 behind found =>
      cases ended
      rw [found, List.length_cons] at shorter
      exact Nat.le_trans (length_dropLine_le behind) (Nat.le_of_succ_le shorter)
    · cases ended
  case h_2 => exact length_dropLine_le text

/-- A statement takes at least one character with it, so a file has an end. -/
theorem length_cutStatement_lt {text : List Char} (filled : text ≠ []) :
    (cutStatement text).2.length < text.length := by
  have started : (dropExport text).length ≤ text.length := by
    unfold dropExport
    dsimp only
    split
    · exact ((List.dropWhile_sublist _).trans (List.drop_sublist _ _)).length_le
    · exact Nat.le_refl _
  have lineDropped : (dropLine (dropExport text)).length < text.length := by
    cases start : dropExport text with
    | nil => exact List.length_pos_iff.2 filled
    | cons c rest =>
      exact Nat.lt_of_lt_of_le (length_dropLine_lt (List.cons_ne_nil c rest)) (start ▸ started)
  unfold cutStatement
  dsimp only
  split
  · exact lineDropped
  · split
    · exact lineDropped
    case h_2 name afterName cut =>
      have named := length_cutName?_lt cut
      have shorter := (List.dropWhile_sublist (l := afterName) isGap).length_le
      split
      case h_1 behind found =>
        rw [found, List.length_cons] at shorter
        split
        case h_1 =>
          have line := length_dropLine_le (behind.dropWhile isGap)
          have gap := (List.dropWhile_sublist (l := behind) isGap).length_le
          dsimp only
          omega
        case h_2 value afterValue read =>
          have ended := length_finish_le ⟨name, some value⟩ afterValue
          have valued := length_cutValue?_le read
          omega
      case h_2 =>
        have ended := length_finish_le ⟨name, none⟩ (afterName.dropWhile isGap)
        omega

theorem bindingsOf_of_blank {text : List Char} (blank : text.dropWhile isBlank = []) :
    bindingsOf text = [] := by
  rw [bindingsOf, blank]

/-- The bindings of a text are that of its first statement and those of what follows it. -/
theorem bindingsOf_of_start {text start : List Char} (dropped : text.dropWhile isBlank = start)
    (filled : start ≠ []) :
    bindingsOf text = (cutStatement start).1.toList ++ bindingsOf (cutStatement start).2 := by
  subst dropped
  have shorter := (List.dropWhile_sublist (l := text) isBlank).length_le
  have cut := length_cutStatement_lt filled
  rw [bindingsOf]
  split
  case h_1 empty => exact absurd empty filled
  case h_2 =>
    dsimp only
    rw [if_pos (by omega)]

/-! ### Values -/

/-- A text that is read as a value when it stands at the end of a line. -/
def ReadsAs (written value : List Char) : Prop :=
  ∀ rest, cutValue? (written ++ '\n' :: rest) = some (value, '\n' :: rest)

/-- A text with a backslash in front of each backslash and each single quote. -/
def escape (text : List Char) : List Char :=
  text.flatMap fun c => if c = '\\' ∨ c = singleQuote then ['\\', c] else [c]

/-- A text between single quotes. -/
def quoted (text : List Char) : List Char :=
  singleQuote :: escape text ++ [singleQuote]

theorem escape_cons (c : Char) (rest : List Char) :
    escape (c :: rest) = (if c = '\\' ∨ c = singleQuote then ['\\', c] else [c]) ++ escape rest :=
  List.flatMap_cons

theorem cutQuoted?_escape (text rest : List Char) :
    cutQuoted? singleQuote (escape text ++ singleQuote :: rest) = some (escape text, rest) := by
  induction text with
  | nil => rfl
  | cons c others inductionHypothesis =>
    rw [escape_cons]
    split
    case isTrue special =>
      show (cutQuoted? singleQuote (escape others ++ singleQuote :: rest)).map _ = _
      rw [inductionHypothesis]
      rfl
    case isFalse plain =>
      obtain ⟨notBackslash, notQuote⟩ := not_or.1 plain
      rw [List.singleton_append, List.cons_append, cutQuoted?.eq_3 _ _ _ (by simp [notBackslash]),
        if_neg notQuote, inductionHypothesis]
      rfl

theorem decodeEscapes_escape (text : List Char) :
    decodeEscapes singleMeaning? (escape text) = text := by
  induction text with
  | nil => rfl
  | cons c others inductionHypothesis =>
    rw [escape_cons]
    split
    case isTrue special =>
      have meaning : singleMeaning? c = some c := if_pos special
      rw [List.cons_append, List.singleton_append, decodeEscapes, meaning]
      exact congrArg (c :: ·) inductionHypothesis
    case isFalse plain =>
      rw [List.singleton_append, decodeEscapes.eq_3 _ _ _ fun c rest same => by
        simp_all, inductionHypothesis]

/-- Between single quotes any text is read for itself. -/
theorem readsAs_quoted (value : List Char) : ReadsAs (quoted value) value := by
  intro rest
  have closed : quoted value ++ '\n' :: rest =
      singleQuote :: (escape value ++ singleQuote :: '\n' :: rest) := by
    simp [quoted]
  have opened : (singleQuote :: (escape value ++ singleQuote :: '\n' :: rest)).dropWhile isGap =
      singleQuote :: (escape value ++ singleQuote :: '\n' :: rest) :=
    List.dropWhile_cons_of_neg (by decide)
  unfold cutValue?
  rw [closed, opened]
  dsimp only
  rw [if_pos List.head?_cons, List.drop_one, List.tail_cons, cutQuoted?_escape]
  simp [decodeEscapes_escape]

theorem isBlank_head_of_trim {c : Char} {others : List Char}
    (trimmed : trim (c :: others) = c :: others) : isBlank c = false := by
  rw [Bool.eq_false_iff]
  intro blank
  have shorter : (trim (c :: others)).length ≤ others.length := by
    unfold trim trimBy dropWhileAtEnd
    rw [List.dropWhile_cons_of_pos blank, List.length_reverse]
    refine Nat.le_trans (List.dropWhile_sublist _).length_le ?_
    rw [List.length_reverse]
    exact (List.dropWhile_sublist _).length_le
  rw [trimmed] at shorter
  exact Nat.not_succ_le_self _ shorter

theorem beforeComment_of_notMem {text : List Char} (uncommented : '#' ∉ text)
    (behindBlank : Bool) : beforeComment behindBlank text = text := by
  induction text generalizing behindBlank with
  | nil => rfl
  | cons c others inductionHypothesis =>
    rw [List.mem_cons, not_or] at uncommented
    rw [beforeComment, if_neg fun opened => uncommented.1 opened.1.symm,
      inductionHypothesis uncommented.2]

/-- A text on one line is read for itself without quotes, unless it begins with one, has a blank at
an end or holds a number sign. -/
theorem readsAs_self {value : List Char} (inLine : '\n' ∉ value) (trimmed : trim value = value)
    (unquoted : ∀ c ∈ value.head?, c ≠ singleQuote ∧ c ≠ doubleQuote) (uncommented : '#' ∉ value) :
    ReadsAs value value := by
  intro rest
  have inFront : ∀ c ∈ value, (c != '\n') = true := fun c member =>
    bne_iff_ne.2 fun same => inLine (same ▸ member)
  have head : ((value ++ '\n' :: rest).dropWhile isGap).head? = some (value.head?.getD '\n') := by
    cases value with
    | nil => rfl
    | cons c others =>
      have black := isBlank_head_of_trim trimmed
      rw [List.cons_append, List.dropWhile_cons_of_neg (by simp [isGap, black])]
      rfl
  have opens : value.head?.getD '\n' ≠ singleQuote ∧ value.head?.getD '\n' ≠ doubleQuote := by
    cases value with
    | nil => decide
    | cons c others => exact unquoted c rfl
  unfold cutValue?
  dsimp only
  rw [head, if_neg (by simpa using opens.1), if_neg (by simpa using opens.2),
    List.takeWhile_append_of_pos inFront, List.dropWhile_append_of_pos inFront,
    List.takeWhile_cons_of_neg (by decide), List.dropWhile_cons_of_neg (by decide),
    List.append_nil, beforeComment_of_notMem uncommented, trimmed]

/-! ### Files -/

/-- A name that needs no quotes and does not begin with a byte order mark. -/
structure IsName (name : List Char) : Prop where
  filled : name ≠ []
  chars : ∀ c ∈ name, isNameChar c = true
  unquoted : singleQuote ∉ name
  unmarked : ∀ c ∈ name, c.toNat ≠ 0xFEFF

/-- The first character of a name decides how its statement is read, and nothing special can stand
there. -/
theorem IsName.exists_head {name : List Char} (isName : IsName name) :
    ∃ c others, name = c :: others ∧ c ≠ '#' ∧ c ≠ singleQuote ∧ isBlank c = false ∧
      c.toNat ≠ 0xFEFF := by
  obtain ⟨c, others, rfl⟩ := List.exists_cons_of_ne_nil isName.filled
  have char := isName.chars c List.mem_cons_self
  simp only [isNameChar, Bool.not_eq_true', Bool.or_eq_false_iff, beq_eq_false_iff_ne] at char
  have unquoted : c ≠ singleQuote := fun same => isName.unquoted (same ▸ List.mem_cons_self)
  exact ⟨c, others, rfl, char.1.2, unquoted, char.2, isName.unmarked c List.mem_cons_self⟩

/-- A statement on lines of its own. -/
def statement (name written : List Char) : List Char :=
  name ++ '=' :: (written ++ ['\n'])

/-- A file with a statement for each name and value. -/
def fileOf (written : List Char → List Char) (entries : List (List Char × List Char)) : List Char :=
  entries.flatMap fun entry => statement entry.1 (written entry.2)

theorem dropExport_append {name : List Char} (chars : ∀ c ∈ name, isNameChar c = true)
    (rest : List Char) : dropExport (name ++ '=' :: rest) = name ++ '=' :: rest := by
  unfold dropExport
  dsimp only
  -- the word is followed by a character of the name or by the equals sign, and never by a gap
  refine if_neg fun opened => ?_
  obtain ⟨isFirst, gap⟩ := Bool.and_eq_true_iff.1 opened
  obtain ⟨behind, split⟩ := List.isPrefixOf_iff_prefix.1 isFirst
  rw [← split, List.drop_left] at gap
  rcases List.append_eq_append_iff.1 split with ⟨more, longer, rest'⟩ | ⟨more, longer, rest'⟩
  · subst longer rest'
    cases more with
    | nil => cases gap
    | cons c others =>
      have char := chars c (by simp)
      have blank : isBlank c = true := by
        simpa [isGap] using (Bool.and_eq_true_iff.1 gap).1
      simp [isNameChar, blank] at char
  · cases more with
    | nil =>
      cases rest'
      cases gap
    | cons c others =>
      cases rest'
      have word : '=' ∈ "export".toList := by simp [longer]
      exact absurd word (by decide)

theorem cutName?_append {name : List Char} (isName : IsName name) (rest : List Char) :
    cutName? (name ++ '=' :: rest) = some (name, '=' :: rest) := by
  have unquoted : (name ++ '=' :: rest).head? ≠ some singleQuote := by
    obtain ⟨c, others, rfl, -, notQuote, -⟩ := isName.exists_head
    exact fun opened => notQuote (Option.some.inj opened)
  unfold cutName?
  rw [if_neg unquoted]
  dsimp only
  rw [List.takeWhile_append_of_pos isName.chars, List.dropWhile_append_of_pos isName.chars,
    List.takeWhile_cons_of_neg (by decide), List.dropWhile_cons_of_neg (by decide), List.append_nil]
  exact if_neg (mt List.isEmpty_iff.1 isName.filled)

theorem cutStatement_statement {name written value : List Char} (isName : IsName name)
    (reads : ReadsAs written value) (rest : List Char) :
    cutStatement (statement name written ++ rest) = (some ⟨name, some value⟩, rest) := by
  have text : statement name written ++ rest = name ++ '=' :: (written ++ '\n' :: rest) := by
    simp [statement]
  have uncommented : (name ++ '=' :: (written ++ '\n' :: rest)).head? ≠ some '#' := by
    obtain ⟨c, others, rfl, notComment, -⟩ := isName.exists_head
    exact fun opened => notComment (Option.some.inj opened)
  unfold cutStatement
  dsimp only
  rw [text, dropExport_append isName.chars, if_neg uncommented, cutName?_append isName]
  dsimp only
  rw [List.dropWhile_cons_of_neg (by decide)]
  simp only [reads rest]
  rfl

/-- The statements of a file are read in their order, however their values are written. -/
theorem bindingsOf_fileOf {written : List Char → List Char}
    {entries : List (List Char × List Char)} (named : ∀ entry ∈ entries, IsName entry.1)
    (reads : ∀ entry ∈ entries, ReadsAs (written entry.2) entry.2) :
    bindingsOf (fileOf written entries) = entries.map fun entry => ⟨entry.1, some entry.2⟩ := by
  induction entries with
  | nil => exact bindingsOf_of_blank rfl
  | cons entry others inductionHypothesis =>
    obtain ⟨isName, others'⟩ := List.forall_mem_cons.1 named
    obtain ⟨readsFirst, readsOthers⟩ := List.forall_mem_cons.1 reads
    have first : fileOf written (entry :: others) =
        statement entry.1 (written entry.2) ++ fileOf written others := List.flatMap_cons
    obtain ⟨c, more, name, -, -, visible, -⟩ := isName.exists_head
    have opened : statement entry.1 (written entry.2) ++ fileOf written others =
        c :: (more ++ '=' :: (written entry.2 ++ ['\n']) ++ fileOf written others) := by
      simp [statement, name]
    rw [first, bindingsOf_of_start (by
      rw [opened, List.dropWhile_cons_of_neg (by simp [visible])]) (List.cons_ne_nil _ _), ← opened,
      cutStatement_statement isName readsFirst, inductionHypothesis others' readsOthers]
    rfl

/-! ### References -/

/-- A text without a dollar sign in front of a brace. -/
def Unreferenced (text : List Char) : Prop :=
  ¬ ['$', '\x7b'] <:+: text

theorem expand_of_unreferenced (valueOf : Reference → List Char) {text : List Char}
    (unreferenced : Unreferenced text) : expand valueOf text = text := by
  induction text with
  | nil => rw [expand]
  | cons c rest inductionHypothesis =>
    have later : Unreferenced rest := fun inside =>
      unreferenced (inside.trans (List.suffix_cons c rest).isInfix)
    have plain : ∀ more, c = '$' → rest = '\x7b' :: more → False := by
      rintro more rfl rfl
      exact unreferenced (List.prefix_append ['$', '\x7b'] more).isInfix
    rw [expand.eq_3 _ _ _ plain, inductionHypothesis later]

theorem bind_of_notMem {known : List Binding} {binding : Binding}
    (unbound : binding.name ∉ known.map Binding.name) :
    bind known binding = known ++ [binding] := by
  refine if_neg fun bound => ?_
  obtain ⟨other, member, same⟩ := List.any_eq_true.1 bound
  exact unbound (List.mem_map.2 ⟨other, member, eq_of_beq same⟩)

theorem resolve_of_unreferenced (environment : List (String × String))
    {known bindings : List Binding} (distinct : ((known ++ bindings).map Binding.name).Nodup)
    (unreferenced : ∀ binding ∈ bindings, ∀ value ∈ binding.value, Unreferenced value) :
    resolve environment known bindings = known ++ bindings := by
  induction bindings generalizing known with
  | nil => exact (List.append_nil known).symm
  | cons binding rest inductionHypothesis =>
    obtain ⟨first, others⟩ := List.forall_mem_cons.1 unreferenced
    have same : binding.value.map (expand (valueOf environment known)) = binding.value := by
      cases found : binding.value with
      | none => rfl
      | some value => exact congrArg some (expand_of_unreferenced _ (first value found))
    have appended : bind known binding = known ++ [binding] := by
      rw [List.map_append, List.nodup_append] at distinct
      exact bind_of_notMem fun bound =>
        distinct.2.2 _ bound _ (List.mem_map_of_mem List.mem_cons_self) rfl
    rw [resolve, same, appended, inductionHypothesis (by simpa using distinct) others,
      List.append_assoc]
    rfl

/-! ### Line breaks -/

theorem unifyLineBreaks_of_notMem {text : List Char} (unbroken : '\r' ∉ text) :
    unifyLineBreaks text = text := by
  induction text with
  | nil => rfl
  | cons c rest inductionHypothesis =>
    rw [List.mem_cons, not_or] at unbroken
    rw [unifyLineBreaks.eq_3 _ _ (fun _ same _ => unbroken.1 same.symm)
      (fun same => unbroken.1 same.symm), inductionHypothesis unbroken.2]

/-- A way of writing keeps a value: the value is read back, and neither the unifying of line breaks
nor the replacing of references changes anything. -/
structure Keeps (written : List Char → List Char) (value : List Char) : Prop where
  reads : ReadsAs (written value) value
  unbroken : '\r' ∉ written value
  unreferenced : Unreferenced value

theorem keeps_quoted {value : List Char} (unbroken : '\r' ∉ value)
    (unreferenced : Unreferenced value) : Keeps quoted value := by
  refine ⟨readsAs_quoted value, fun inside => ?_, unreferenced⟩
  have escaped : '\r' ∉ escape value := by
    intro member
    obtain ⟨c, among, written⟩ := List.mem_flatMap.1 member
    split at written
    · rcases List.mem_cons.1 written with same | same
      · exact absurd same (by decide)
      · exact unbroken (List.mem_singleton.1 same ▸ among)
    · exact unbroken (List.mem_singleton.1 written ▸ among)
  simp [quoted, escaped, singleQuote] at inside

theorem keeps_self {value : List Char} (unbroken : '\r' ∉ value) (inLine : '\n' ∉ value)
    (trimmed : trim value = value)
    (unquoted : ∀ c ∈ value.head?, c ≠ singleQuote ∧ c ≠ doubleQuote) (uncommented : '#' ∉ value)
    (unreferenced : Unreferenced value) : Keeps id value :=
  ⟨readsAs_self inLine trimmed unquoted uncommented, unbroken, unreferenced⟩

section FileOf

variable {written : List Char → List Char} {entries : List (List Char × List Char)}

theorem dropByteOrderMark_fileOf (named : ∀ entry ∈ entries, IsName entry.1) :
    dropByteOrderMark (fileOf written entries) = fileOf written entries := by
  cases entries with
  | nil => rfl
  | cons entry others =>
    obtain ⟨c, more, name, -, -, -, unmarked⟩ := (named entry List.mem_cons_self).exists_head
    rw [fileOf, List.flatMap_cons, statement, name]
    exact if_neg unmarked

theorem unbroken_fileOf (named : ∀ entry ∈ entries, IsName entry.1)
    (kept : ∀ entry ∈ entries, Keeps written entry.2) : '\r' ∉ fileOf written entries := by
  intro inside
  obtain ⟨entry, among, member⟩ := List.mem_flatMap.1 inside
  rcases List.mem_append.1 member with inName | inside
  · exact absurd ((named entry among).chars '\r' inName) (by decide)
  · have behind := (List.mem_cons.1 inside).resolve_left (by decide)
    rcases List.mem_append.1 behind with inValue | inBreak
    · exact (kept entry among).unbroken inValue
    · exact absurd (List.mem_singleton.1 inBreak) (by decide)

/-- The variables of a file are its names and values, when they are kept in writing. -/
theorem boundVariables_fileOf (environment : List (String × String))
    (named : ∀ entry ∈ entries, IsName entry.1) (distinct : (entries.map Prod.fst).Nodup)
    (kept : ∀ entry ∈ entries, Keeps written entry.2) :
    boundVariables environment (String.ofList (fileOf written entries)) =
      entries.map fun entry => (String.ofList entry.1, some (String.ofList entry.2)) := by
  have unreferenced : ∀ binding ∈ entries.map fun entry => (⟨entry.1, some entry.2⟩ : Binding),
      ∀ value ∈ binding.value, Unreferenced value := by
    intro binding member value held
    obtain ⟨entry, among, rfl⟩ := List.mem_map.1 member
    cases held
    exact (kept entry among).unreferenced
  have names : (entries.map fun entry => (⟨entry.1, some entry.2⟩ : Binding)).map Binding.name =
      entries.map Prod.fst := by
    rw [List.map_map]
    rfl
  unfold boundVariables
  dsimp only
  rw [String.toList_ofList, dropByteOrderMark_fileOf named,
    unifyLineBreaks_of_notMem (unbroken_fileOf named kept),
    bindingsOf_fileOf named fun entry member => (kept entry member).reads,
    resolve_of_unreferenced environment (names ▸ distinct) unreferenced]
  simp

end FileOf

end EnvFile

namespace Settings

/-- Settings are read back from a file with a statement for each of them, if the environment has no
variable for one. -/
theorem load_of_file {spelling : Name → String} (spelled : ∀ name, Spells (spelling name) name)
    (named : ∀ name, EnvFile.IsName (spelling name).toList) {settings : Settings}
    (short : HasShortTimeout settings) {written : List Char → List Char}
    (kept : ∀ name, ∀ text ∈ textOf settings name, EnvFile.Keeps written text.toList)
    {environment : List (String × String)}
    (silent : ∀ name, ∀ entry ∈ environment, ¬ Spells entry.1 name) :
    load ⟨[], environment, some (String.ofList (EnvFile.fileOf written
      ((spelledOut spelling (textOf settings)).map fun entry =>
        (entry.1.toList, entry.2.toList))))⟩ = .ok settings := by
  have entries : ∀ entry ∈ (spelledOut spelling (textOf settings)).map fun entry =>
      (entry.1.toList, entry.2.toList), EnvFile.IsName entry.1 ∧ EnvFile.Keeps written entry.2 := by
    intro entry member
    obtain ⟨⟨word, text⟩, among, rfl⟩ := List.mem_map.1 member
    obtain ⟨name, rfl, held⟩ := mem_spelledOut_iff.1 among
    exact ⟨named name, kept name text held⟩
  have distinct : (((spelledOut spelling (textOf settings)).map fun entry =>
      (entry.1.toList, entry.2.toList)).map Prod.fst).Nodup := by
    have words := nodup_spelledOut spelled (textOf settings)
    rw [List.Nodup, List.pairwise_map] at words
    rw [List.map_map, List.Nodup, List.pairwise_map]
    exact words.imp fun different same => different (String.toList_inj.1 same)
  have bound := EnvFile.boundVariables_fileOf environment
    (fun entry member => (entries entry member).1) distinct
    (fun entry member => (entries entry member).2)
  have found : ∀ name, lastOf? name.variable (((spelledOut spelling (textOf settings)).map
      fun entry => (entry.1.toList, entry.2.toList)).map fun entry =>
        (String.ofList entry.1, some (String.ofList entry.2))) =
          (textOf settings name).map some := by
    intro name
    have values := lastOf?_spelledOut spelled (fun name => (textOf settings name).map some) name
    rw [← map_spelledOut] at values
    simpa [Function.comp_def] using values
  refine load_of_texts short fun name => ?_
  have unset := lastOf?_eq_none_iff.2 (silent name)
  simp only [Sources.given?, List.find?_nil, unset, Sources.fileVariables, bound, found]
  cases textOf settings name <;> rfl

theorem isName_variable (name : Name) : EnvFile.IsName name.variable.toList where
  filled := by cases name <;> decide +kernel
  chars := by cases name <;> exact List.all_eq_true.1 (by decide +kernel)
  unquoted := by cases name <;> decide +kernel
  unmarked := by cases name <;> simp [Name.variable, Name.word]

/-- Between single quotes any settings are read back, unless a text of theirs has a carriage return
or a reference. -/
theorem load_of_quoted_file {settings : Settings} (short : HasShortTimeout settings)
    (unbroken : ∀ name, ∀ text ∈ textOf settings name, '\r' ∉ text.toList)
    (unreferenced : ∀ name, ∀ text ∈ textOf settings name, EnvFile.Unreferenced text.toList)
    {environment : List (String × String)}
    (silent : ∀ name, ∀ entry ∈ environment, ¬ Spells entry.1 name) :
    load ⟨[], environment, some (String.ofList (EnvFile.fileOf EnvFile.quoted
      ((spelledOut Name.variable (textOf settings)).map fun entry =>
        (entry.1.toList, entry.2.toList))))⟩ = .ok settings :=
  load_of_file (fun name => by cases name <;> decide +kernel) isName_variable short
    (fun name text held => EnvFile.keeps_quoted (unbroken name text held)
      (unreferenced name text held)) silent

end Settings

end CatalogReader
