/-
The forms of a table where there is no terminal. Text that does not go to a terminal is written
without the sequences that steer one, whatever the text is for. A text in the JSON format has none:
it is written with printable ASCII and line feeds, and an escape character in a name is told by its
number. A list of quoted names has those of the names and no others, since neither the quotes nor
the commas are a part of a sequence, so it is written as it is just if no name holds one.
-/

import CatalogReader.Reader
import CatalogReader.Text.TerminalSequence

namespace CatalogReader

/-! ### Texts that hold sequences -/

namespace Text

/-- Whether a sequence begins with an escape character in front of a text. -/
def beginsSequence : List Char → Bool
  | '[' :: rest => (afterSequence? rest).isSome
  | _ => false

/-- Whether a text holds a sequence. -/
def holdsSequence : List Char → Bool
  | [] => false
  | c :: rest => (c == '\x1b' && beginsSequence rest) || holdsSequence rest

theorem holdsSequence_cons {c : Char} {rest : List Char} :
    holdsSequence (c :: rest) = false ↔
      (c = '\x1b' → beginsSequence rest = false) ∧ holdsSequence rest = false := by
  rw [holdsSequence, Bool.or_eq_false_iff, Bool.and_eq_false_imp, beq_iff_eq]

theorem holdsSequence_cons_of_ne {c : Char} (other : c ≠ '\x1b') (rest : List Char) :
    holdsSequence (c :: rest) = holdsSequence rest := by
  rw [holdsSequence, beq_false_of_ne other, Bool.false_and, Bool.false_or]

theorem length_dropSequences_le (text : List Char) :
    (dropSequences text).length ≤ text.length := by
  fun_induction dropSequences text with
  | case1 => exact Nat.le_refl _
  | case2 rest _ inductionHypothesis => exact Nat.succ_le_succ inductionHypothesis
  | case3 rest after found shorter inductionHypothesis =>
    simp only [List.length_cons]
    omega
  | case4 c rest _ inductionHypothesis => exact Nat.succ_le_succ inductionHypothesis

theorem beginsSequence_of_ne {text : List Char} (other : ∀ rest, text ≠ '[' :: rest) :
    beginsSequence text = false := by
  cases text with
  | nil => rfl
  | cons first rest =>
    unfold beginsSequence
    split
    case h_1 same => exact absurd same (other _)
    case h_2 => rfl

/-- A text is written as it is just if it holds no sequence. -/
theorem dropSequences_eq_self_iff (text : List Char) :
    dropSequences text = text ↔ holdsSequence text = false := by
  fun_induction dropSequences text with
  | case1 => exact ⟨fun _ => rfl, fun _ => rfl⟩
  | case2 rest unfinished inductionHypothesis =>
    have begins : beginsSequence ('[' :: rest) = false := by
      rw [beginsSequence, unfinished]
      rfl
    rw [List.cons_inj_right, inductionHypothesis, @holdsSequence_cons '\x1b']
    exact ⟨fun free => ⟨fun _ => begins, free⟩, And.right⟩
  | case3 rest after found shorter inductionHypothesis =>
    have begins : beginsSequence ('[' :: rest) = true := by
      rw [beginsSequence, found]
      rfl
    have lost : dropSequences after ≠ '\x1b' :: '[' :: rest := by
      intro same
      have kept := length_dropSequences_le after
      rw [same, List.length_cons, List.length_cons] at kept
      omega
    rw [holdsSequence_cons]
    exact ⟨fun same => absurd same lost,
      fun free => absurd begins (Bool.eq_false_iff.mp (free.1 rfl))⟩
  | case4 c rest plain inductionHypothesis =>
    rw [List.cons_inj_right, inductionHypothesis, holdsSequence_cons]
    exact ⟨fun free => ⟨fun escape => beginsSequence_of_ne fun inner => plain inner escape, free⟩,
      And.right⟩

/-! ### Marks that part sequences -/

/-- Whether a character may stand in a sequence behind its escape character. -/
def isSequencePart (c : Char) : Bool :=
  c == '[' || isSequenceParameter c || c.isAlpha

theorem isSome_afterSequence?_cons (c : Char) (rest : List Char) :
    (afterSequence? (c :: rest)).isSome =
      if isSequenceParameter c then (afterSequence? rest).isSome else c.isAlpha := by
  unfold afterSequence?
  rw [List.dropWhile_cons]
  by_cases parameter : isSequenceParameter c = true
  · rw [if_pos parameter, if_pos parameter]
  · rw [if_neg parameter, if_neg parameter]
    dsimp only
    cases c.isAlpha <;> rfl

section

variable {mark : Char} (apart : isSequencePart mark = false)

include apart

theorem isSome_afterSequence?_of_apart (rest : List Char) :
    (afterSequence? (mark :: rest)).isSome = false := by
  obtain ⟨parameter, letter⟩ := Bool.or_eq_false_iff.mp apart
  rw [isSome_afterSequence?_cons, (Bool.or_eq_false_iff.mp parameter).2, letter]
  rfl

theorem isSome_afterSequence?_append (text rest : List Char) :
    (afterSequence? (text ++ mark :: rest)).isSome = (afterSequence? text).isSome := by
  induction text with
  | nil => exact isSome_afterSequence?_of_apart apart rest
  | cons c others inductionHypothesis =>
    rw [List.cons_append, isSome_afterSequence?_cons, isSome_afterSequence?_cons,
      inductionHypothesis]

theorem beginsSequence_append (text rest : List Char) :
    beginsSequence (text ++ mark :: rest) = beginsSequence text := by
  cases text with
  | nil =>
    refine beginsSequence_of_ne fun inner same => ?_
    rw [(List.cons.inj same).1] at apart
    cases apart
  | cons first others =>
    by_cases bracket : first = '['
    · subst bracket
      exact isSome_afterSequence?_append apart others rest
    · have other (text inner : List Char) : first :: text ≠ '[' :: inner :=
        fun same => bracket (List.cons.inj same).1
      rw [List.cons_append, beginsSequence_of_ne (other _), beginsSequence_of_ne (other _)]

/-- No sequence reaches over a mark that is no part of one. -/
theorem holdsSequence_append (text rest : List Char) :
    holdsSequence (text ++ mark :: rest) =
      (holdsSequence text || holdsSequence (mark :: rest)) := by
  induction text with
  | nil => rfl
  | cons c others inductionHypothesis =>
    rw [List.cons_append, holdsSequence, beginsSequence_append apart, inductionHypothesis,
      ← Bool.or_assoc]
    rfl

end

end Text

/-! ### Lists of quoted names -/

namespace SelectList

open CatalogReader.Text

theorem doubleQuotes_cons (c : Char) (rest : List Char) :
    doubleQuotes (c :: rest) = (if c = '"' then ['"', '"'] else [c]) ++ doubleQuotes rest := rfl

theorem isSome_afterSequence?_doubleQuotes (name : List Char) :
    (afterSequence? (doubleQuotes name)).isSome = (afterSequence? name).isSome := by
  induction name with
  | nil => rfl
  | cons c rest inductionHypothesis =>
    rw [doubleQuotes_cons]
    by_cases quote : c = '"'
    · subst quote
      exact (isSome_afterSequence?_of_apart rfl _).trans
        (isSome_afterSequence?_of_apart rfl rest).symm
    · rw [if_neg quote, List.singleton_append, isSome_afterSequence?_cons,
        isSome_afterSequence?_cons, inductionHypothesis]

theorem beginsSequence_doubleQuotes (name : List Char) :
    beginsSequence (doubleQuotes name) = beginsSequence name := by
  cases name with
  | nil => rfl
  | cons first rest =>
    rw [doubleQuotes_cons]
    by_cases quote : first = '"'
    · subst quote
      rfl
    · rw [if_neg quote, List.singleton_append]
      by_cases bracket : first = '['
      · subst bracket
        exact isSome_afterSequence?_doubleQuotes rest
      · have other (text inner : List Char) : first :: text ≠ '[' :: inner :=
          fun same => bracket (List.cons.inj same).1
        rw [beginsSequence_of_ne (other _), beginsSequence_of_ne (other _)]

/-- Doubling the quotes of a name makes no sequence and breaks none. -/
theorem holdsSequence_doubleQuotes (name : List Char) :
    holdsSequence (doubleQuotes name) = holdsSequence name := by
  induction name with
  | nil => rfl
  | cons c rest inductionHypothesis =>
    rw [doubleQuotes_cons]
    by_cases quote : c = '"'
    · subst quote
      exact inductionHypothesis
    · rw [if_neg quote, List.singleton_append, holdsSequence, beginsSequence_doubleQuotes,
        inductionHypothesis]
      rfl

theorem holdsSequence_quoteName_append (name rest : List Char) :
    holdsSequence (quoteName name ++ rest) = (holdsSequence name || holdsSequence rest) := by
  have whole : quoteName name ++ rest = '"' :: (doubleQuotes name ++ '"' :: rest) := by
    simp [quoteName]
  have quote : '"' ≠ '\x1b' := by decide
  rw [whole, holdsSequence_cons_of_ne quote, holdsSequence_append rfl, holdsSequence_doubleQuotes,
    holdsSequence_cons_of_ne quote]

/-- A list of quoted names holds a sequence just if one of the names does. -/
theorem holdsSequence_text (names : List (List Char)) :
    holdsSequence (text names) = names.any holdsSequence := by
  induction names with
  | nil => rfl
  | cons name others inductionHypothesis =>
    have comma : ',' ≠ '\x1b' := by decide
    have whole : text (name :: others) =
        quoteName name ++ (if others.isEmpty then [] else ',' :: text others) := by
      cases others <;> rfl
    have later : holdsSequence (if others.isEmpty then [] else ',' :: text others) =
        holdsSequence (text others) := by
      cases others with
      | nil => rfl
      | cons second rest => exact holdsSequence_cons_of_ne comma _
    rw [whole, holdsSequence_quoteName_append, later, inductionHypothesis, List.any_cons]

end SelectList

/-! ### Texts in the JSON format -/

namespace Json

open CatalogReader.Text

/-- Whether texts in the JSON format are written with a character: the printable ones of ASCII and
the line feed are. -/
def isWritten (c : Char) : Bool :=
  c == '\n' || (0x20 ≤ c.toNat && c.toNat < 0x7F)

theorem isWritten_hexDigit {value : Nat} (small : value < 16) :
    isWritten (hexDigit .small value) = true := by
  have all : ∀ value : Fin 16, isWritten (hexDigit .small value.val) = true := by decide
  exact all ⟨value, small⟩

theorem all_hexNumber (digits value : Nat) :
    (hexNumber .small digits value).all isWritten = true := by
  induction digits generalizing value with
  | zero => rfl
  | succ digits inductionHypothesis =>
    have last := isWritten_hexDigit (Nat.mod_lt value (by decide : 0 < 16))
    rw [hexNumber, List.all_append, inductionHypothesis, List.all_cons, last]
    rfl

theorem all_escapedUnit (unit : Nat) : (escapedUnit unit).all isWritten = true :=
  all_hexNumber 4 unit

theorem all_escapedChar (c : Char) : (escapedChar c).all isWritten = true := by
  unfold escapedChar
  dsimp only
  -- Seven characters have letters of their own.
  iterate 7
    split
    · rfl
  split
  case isTrue printable => simp [isWritten, printable.1, printable.2]
  case isFalse =>
    split
    · exact all_escapedUnit _
    · rw [List.all_append, all_escapedUnit, all_escapedUnit]
      rfl

theorem all_textLiteral (text : List Char) : (textLiteral text).all isWritten = true := by
  have inner : (text.flatMap escapedChar).all isWritten = true := by
    rw [List.all_flatMap]
    exact List.all_eq_true.mpr fun c _ => all_escapedChar c
  rw [textLiteral, List.cons_append, List.all_cons, List.all_append, inner]
  rfl

theorem isWritten_of_isDigit {c : Char} (digit : c.isDigit = true) : isWritten c = true := by
  unfold Char.isDigit at digit
  rw [Bool.and_eq_true, decide_eq_true_iff, decide_eq_true_iff] at digit
  have lower : 48 ≤ c.toNat := UInt32.le_iff_toNat_le.mp digit.1
  have upper : c.toNat ≤ 57 := UInt32.le_iff_toNat_le.mp digit.2
  unfold isWritten
  rw [Bool.or_eq_true, Bool.and_eq_true, decide_eq_true_iff, decide_eq_true_iff]
  exact Or.inr ⟨by omega, by omega⟩

theorem all_toDigits (value : Nat) : (Nat.toDigits 10 value).all isWritten = true :=
  List.all_eq_true.mpr fun _ member =>
    isWritten_of_isDigit (Nat.isDigit_of_mem_toDigits (by decide) (by decide) member)

theorem all_numberLiteral (value : Int) : (numberLiteral value).all isWritten = true := by
  cases value with
  | ofNat value => exact all_toDigits value
  | negSucc value => exact all_toDigits (value + 1)

theorem all_newLine (level : Nat) : (newLine level).all isWritten = true := by
  refine List.all_eq_true.mpr fun c member => ?_
  rcases List.mem_cons.mp member with rfl | blank
  · rfl
  · rw [List.eq_of_mem_replicate blank]
    rfl

mutual

theorem all_write (level : Nat) : ∀ value : Json, (write level value).all isWritten = true
  | null => rfl
  | bool true => rfl
  | bool false => rfl
  | number value => all_numberLiteral value
  | text value => all_textLiteral value.toList
  | array [] => rfl
  | array (first :: others) => by
    have here := all_write (level + 1) first
    have behind := all_writeItems (level + 1) others
    simp only [write, List.all_append, List.all_cons, all_newLine, here, behind]
    rfl
  | object [] => rfl
  | object ((name, first) :: others) => by
    have here := all_write (level + 1) first
    have behind := all_writeMembers (level + 1) others
    simp only [write, List.all_append, List.all_cons, all_newLine, all_textLiteral, here, behind]
    rfl

theorem all_writeItems (level : Nat) :
    ∀ items : List Json, (writeItems level items).all isWritten = true
  | [] => rfl
  | item :: rest => by
    have here := all_write level item
    have behind := all_writeItems level rest
    simp only [writeItems, List.all_append, List.all_cons, all_newLine, here, behind]
    rfl

theorem all_writeMembers (level : Nat) :
    ∀ members : List (String × Json), (writeMembers level members).all isWritten = true
  | [] => rfl
  | (name, value) :: rest => by
    have here := all_write level value
    have behind := all_writeMembers level rest
    simp only [writeMembers, List.all_append, List.all_cons, all_newLine, all_textLiteral, here,
      behind]
    rfl

end

/-- A text in the JSON format holds no sequence, whatever the names in it hold. -/
theorem holdsSequence_render (value : Json) : holdsSequence value.render.toList = false := by
  have written : (write 0 value).all isWritten = true := all_write 0 value
  have plain : '\x1b' ∉ write 0 value := fun member =>
    absurd (List.all_eq_true.mp written _ member) (by decide)
  rw [render, String.toList_ofList, ← dropSequences_eq_self_iff]
  exact dropSequences_of_notMem _ plain

end Json

/-! ### Tables -/

namespace Table

open CatalogReader.Text

/-- The name of no column holds a sequence. -/
def Unsteered (table : Table) : Prop :=
  ∀ column ∈ table.columns, ∀ name, column.name = some name → holdsSequence name.toList = false

theorem map_name_of_mapM {columns : List Column} {names : List String}
    (named : columns.mapM Column.name = some names) : columns.map Column.name = names.map some := by
  induction columns generalizing names with
  | nil =>
    cases named
    rfl
  | cons column others inductionHypothesis =>
    rw [List.mapM_cons] at named
    obtain ⟨first, here, later⟩ := Option.bind_eq_some_iff.mp named
    obtain ⟨rest, behind, same⟩ := Option.bind_eq_some_iff.mp later
    cases same
    rw [List.map_cons, List.map_cons, here, inductionHypothesis behind]

theorem holdsSequence_renderJson {table : Table} {text : String}
    (rendered : table.renderJson = .ok text) : holdsSequence text.toList = false := by
  unfold renderJson at rendered
  split at rendered
  · cases rendered
  case h_2 value _ =>
    cases rendered
    exact value.holdsSequence_render

/-- The list of the names of a table holds no sequence just if none of the names does. -/
theorem holdsSequence_selectList {table : Table} {text : String}
    (rendered : table.selectList = .ok text) :
    holdsSequence text.toList = false ↔ table.Unsteered := by
  unfold selectList at rendered
  cases named : table.columns.mapM Column.name with
  | none =>
    rw [named] at rendered
    cases rendered
  | some names =>
    rw [named] at rendered
    cases rendered
    have same := map_name_of_mapM named
    have held (column : Column) (name : String) (is : column.name = some name)
        (member : column ∈ table.columns) : name ∈ names := by
      have inNames : some name ∈ names.map some :=
        same ▸ is ▸ List.mem_map_of_mem member
      simpa using inNames
    have own (name : String) (member : name ∈ names) :
        ∃ column ∈ table.columns, column.name = some name := by
      have inColumns : some name ∈ table.columns.map Column.name :=
        same ▸ List.mem_map_of_mem member
      exact List.mem_map.mp inColumns
    rw [SelectList.render, String.toList_ofList, SelectList.holdsSequence_text, List.any_map,
      List.any_eq_false]
    constructor
    · intro free column member name is
      exact Bool.eq_false_iff.mpr (free name (held column name is member))
    · intro free name member
      obtain ⟨column, inTable, is⟩ := own name member
      exact Bool.eq_false_iff.mp (free column inTable name is)

end Table

end CatalogReader
