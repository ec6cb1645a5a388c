/-
Lists of quoted names, read back. The text of a list follows the grammar of delimited identifiers
with commas between them, in which a double quote inside an identifier is written twice. A scanner
reads this grammar and nothing else, so that a text has one reading; of the text of a list it reads
the names themselves, whatever quotes, commas and line breaks they hold, since the quote that closes
a name is the first one that is not one of a pair.
-/

import CatalogReader.Proofs.Exports.PlainForms

namespace CatalogReader

namespace SelectList

/-! ### The grammar -/

/-- What may stand between the quotes of an identifier, and the name that is meant by it. -/
inductive Inside : (text name : List Char) → Prop
  | nil : Inside [] []
  | plain {c : Char} {text name : List Char} (unquoted : c ≠ '"') (others : Inside text name) :
    Inside (c :: text) (c :: name)
  | pair {text name : List Char} (others : Inside text name) :
    Inside ('"' :: '"' :: text) ('"' :: name)

/-- Identifiers between quotes, with commas between them, and the names that are meant. -/
inductive Identifiers : (text : List Char) → (names : List (List Char)) → Prop
  | last {inner name : List Char} (inside : Inside inner name) :
    Identifiers ('"' :: inner ++ ['"']) [name]
  | cons {inner name text : List Char} {names : List (List Char)} (inside : Inside inner name)
      (others : Identifiers text names) :
    Identifiers ('"' :: inner ++ '"' :: ',' :: text) (name :: names)

/-- A list of identifiers, which may be empty. -/
inductive Lists : (text : List Char) → (names : List (List Char)) → Prop
  | nil : Lists [] []
  | identifiers {text : List Char} {names : List (List Char)} (listed : Identifiers text names) :
    Lists text names

/-! ### The scanner -/

/-- The name up to the closing quote of an identifier, and the text behind this quote. -/
def scanName? : List Char → Option (List Char × List Char)
  | [] => none
  | '"' :: '"' :: text => (scanName? text).map fun (name, rest) => ('"' :: name, rest)
  | '"' :: text => some ([], text)
  | c :: text => (scanName? text).map fun (name, rest) => (c :: name, rest)

theorem length_scanName? {text name rest : List Char} (read : scanName? text = some (name, rest)) :
    rest.length < text.length := by
  fun_induction scanName? text generalizing name with
  | case1 => cases read
  | case2 text inductionHypothesis =>
    obtain ⟨⟨inner, behind⟩, found, same⟩ := Option.map_eq_some_iff.mp read
    cases same
    have shorter := inductionHypothesis found
    simp only [List.length_cons]
    omega
  | case3 text _ =>
    cases read
    exact Nat.lt_succ_self _
  | case4 c text _ _ inductionHypothesis =>
    obtain ⟨⟨inner, behind⟩, found, same⟩ := Option.map_eq_some_iff.mp read
    cases same
    exact Nat.lt_succ_of_lt (inductionHypothesis found)

/-- The names of identifiers, of which there is at least one. -/
def scanNames? : List Char → Option (List (List Char))
  | '"' :: text =>
    match read : scanName? text with
    | some (name, []) => some [name]
    | some (name, ',' :: rest) =>
      have : rest.length + 1 < text.length := length_scanName? read
      (scanNames? rest).map (name :: ·)
    | _ => none
  | _ => none
termination_by text => text.length

/-- The names of a list of identifiers. The whole text is read. -/
def scan? (text : List Char) : Option (List (List Char)) :=
  if text.isEmpty then some [] else scanNames? text

/-! ### The scanner reads the grammar -/

theorem scanName?_of_closed {text : List Char} (closed : text.head? ≠ some '"') :
    scanName? ('"' :: text) = some ([], text) := by
  cases text with
  | nil => rfl
  | cons c rest =>
    have other : c ≠ '"' := fun same => closed (congrArg some same)
    rw [scanName?]
    exact fun behind same => other (List.cons.inj same).1

theorem scanName?_of_unquoted {c : Char} (unquoted : c ≠ '"') (text : List Char) :
    scanName? (c :: text) = (scanName? text).map fun (name, rest) => (c :: name, rest) := by
  rw [scanName?]
  · exact fun _ same => absurd same unquoted
  · exact unquoted

/-- The quote that closes an identifier is found, if no quote follows it. -/
theorem scanName?_of_inside {inner name text : List Char} (inside : Inside inner name)
    (closed : text.head? ≠ some '"') : scanName? (inner ++ '"' :: text) = some (name, text) := by
  induction inside with
  | nil => exact scanName?_of_closed closed
  | plain unquoted others inductionHypothesis =>
    rw [List.cons_append, scanName?_of_unquoted unquoted, inductionHypothesis]
    rfl
  | pair others inductionHypothesis =>
    rw [List.cons_append, List.cons_append, scanName?, inductionHypothesis]
    rfl

theorem inside_of_scanName? {text name rest : List Char}
    (read : scanName? text = some (name, rest)) :
    ∃ inner, text = inner ++ '"' :: rest ∧ Inside inner name := by
  fun_induction scanName? text generalizing name with
  | case1 => cases read
  | case2 text inductionHypothesis =>
    obtain ⟨⟨own, behind⟩, found, same⟩ := Option.map_eq_some_iff.mp read
    cases same
    obtain ⟨inner, rfl, inside⟩ := inductionHypothesis found
    exact ⟨'"' :: '"' :: inner, rfl, .pair inside⟩
  | case3 text _ =>
    cases read
    exact ⟨[], rfl, .nil⟩
  | case4 c text _ unquoted inductionHypothesis =>
    obtain ⟨⟨own, behind⟩, found, same⟩ := Option.map_eq_some_iff.mp read
    cases same
    obtain ⟨inner, rfl, inside⟩ := inductionHypothesis found
    exact ⟨c :: inner, rfl, .plain unquoted inside⟩

theorem identifiers_of_scanNames? {text : List Char} {names : List (List Char)}
    (read : scanNames? text = some names) : Identifiers text names := by
  fun_induction scanNames? text generalizing names with
  | case1 text name found =>
    cases read
    obtain ⟨inner, rfl, inside⟩ := inside_of_scanName? found
    exact .last inside
  | case2 text name rest found shorter inductionHypothesis =>
    obtain ⟨others, behind, rfl⟩ := Option.map_eq_some_iff.mp read
    obtain ⟨inner, rfl, inside⟩ := inside_of_scanName? found
    exact .cons inside (inductionHypothesis behind)
  | case3 => cases read
  | case4 => cases read

theorem scanNames?_of_last {text name : List Char} (read : scanName? text = some (name, [])) :
    scanNames? ('"' :: text) = some [name] := by
  rw [scanNames?]
  split <;> simp_all

theorem scanNames?_of_comma {text name rest : List Char}
    (read : scanName? text = some (name, ',' :: rest)) :
    scanNames? ('"' :: text) = (scanNames? rest).map (name :: ·) := by
  rw [scanNames?]
  split <;> simp_all

theorem scanNames?_of_identifiers {text : List Char} {names : List (List Char)}
    (identifiers : Identifiers text names) : scanNames? text = some names := by
  induction identifiers with
  | last inside => exact scanNames?_of_last (scanName?_of_inside inside nofun)
  | cons inside others inductionHypothesis =>
    rw [List.cons_append, scanNames?_of_comma (scanName?_of_inside inside nofun),
      inductionHypothesis]
    rfl

/-- The scanner reads the lists of the grammar, each as the names that are meant, and nothing else.
So no text is a list in two ways. -/
theorem scan?_eq_some_iff (text : List Char) (names : List (List Char)) :
    scan? text = some names ↔ Lists text names := by
  unfold scan?
  cases text with
  | nil =>
    constructor
    · intro read
      cases read
      exact .nil
    · rintro (_ | listed)
      · rfl
      · cases listed
  | cons c rest =>
    constructor
    · exact fun read => .identifiers (identifiers_of_scanNames? read)
    · rintro (_ | listed)
      exact scanNames?_of_identifiers listed

/-! ### What is read of a list of quoted names -/

theorem inside_doubleQuotes (name : List Char) : Inside (doubleQuotes name) name := by
  induction name with
  | nil => exact .nil
  | cons c rest inductionHypothesis =>
    rw [doubleQuotes_cons]
    by_cases quote : c = '"'
    · rw [if_pos quote, quote]
      exact .pair inductionHypothesis
    · rw [if_neg quote]
      exact .plain quote inductionHypothesis

theorem identifiers_text {names : List (List Char)} (some : names ≠ []) :
    Identifiers (text names) names := by
  induction names with
  | nil => exact absurd rfl some
  | cons name others inductionHypothesis =>
    cases others with
    | nil =>
      have whole : text [name] = '"' :: doubleQuotes name ++ ['"'] := by
        simp [text, tokens, quoteName]
      rw [whole]
      exact .last (inside_doubleQuotes name)
    | cons second rest =>
      have whole : text (name :: second :: rest) =
          '"' :: doubleQuotes name ++ '"' :: ',' :: text (second :: rest) := by
        simp [text, tokens, quoteName]
      rw [whole]
      exact .cons (inside_doubleQuotes name) (inductionHypothesis (List.cons_ne_nil _ _))

theorem lists_text (names : List (List Char)) : Lists (text names) names := by
  cases names with
  | nil => exact .nil
  | cons name others => exact .identifiers (identifiers_text (List.cons_ne_nil _ _))

theorem scan?_text (names : List (List Char)) : scan? (text names) = some names :=
  (scan?_eq_some_iff _ _).mpr (lists_text names)

theorem text_injective {first second : List (List Char)} (same : text first = text second) :
    first = second := by
  have read := scan?_text first
  rw [same, scan?_text second] at read
  exact (Option.some.inj read).symm

theorem render_injective {first second : List String} (same : render first = render second) :
    first = second := by
  have names : first.map String.toList = second.map String.toList :=
    text_injective (String.ofList_injective same)
  exact (List.map_inj_right fun _ _ => String.toList_inj.mp).mp names

end SelectList

/-! ### Tables -/

namespace Table

open SelectList

theorem mapM_name_of_map {columns : List Column} {names : List String}
    (named : columns.map Column.name = names.map some) : columns.mapM Column.name = some names := by
  induction columns generalizing names with
  | nil =>
    obtain rfl := List.map_eq_nil_iff.mp named.symm
    rfl
  | cons column others inductionHypothesis =>
    obtain ⟨name, rest, rfl, own, behind⟩ := List.map_eq_cons_iff.mp named.symm
    rw [List.mapM_cons, ← own, inductionHypothesis behind.symm]
    rfl

theorem selectList_eq_ok_iff (table : Table) (text : String) :
    table.selectList = .ok text ↔
      ∃ names, table.columns.map Column.name = names.map some ∧ text = render names := by
  unfold selectList
  constructor
  · intro rendered
    cases named : table.columns.mapM Column.name with
    | none =>
      rw [named] at rendered
      cases rendered
    | some names =>
      rw [named] at rendered
      exact ⟨names, map_name_of_mapM named, (Except.ok.inj rendered).symm⟩
  · rintro ⟨names, named, rfl⟩
    rw [mapM_name_of_map named]

/-- The select list of columns tells their names. Whatever the names are, the list can be written;
read by the grammar of delimited identifiers it gives these names, and no others in any other way of
reading it; it is empty for no columns only; and columns with other names have another list. The
quote behind a name is where a scanner ends it, whatever follows that is not a quote, and so no name
can end its own quoting. -/
theorem selectList_reads_back {table : Table} {names : List String}
    (named : table.columns.map Column.name = names.map some) :
    ∃ text, table.selectList = .ok text ∧
      scan? text.toList = some (names.map String.toList) ∧
      (∀ found, Lists text.toList found ↔ found = names.map String.toList) ∧
      (text = "" ↔ table.columns = []) ∧
      (∀ other : Table, other.selectList = .ok text →
        other.columns.map Column.name = table.columns.map Column.name) ∧
      ∀ name ∈ names, ∀ rest : List Char, rest.head? ≠ some '"' →
        scanName? (doubleQuotes name.toList ++ '"' :: rest) = some (name.toList, rest) := by
  have read : scan? (render names).toList = some (names.map String.toList) := by
    rw [render, String.toList_ofList, scan?_text]
  have rendered : table.selectList = .ok (render names) :=
    (selectList_eq_ok_iff table _).mpr ⟨names, named, rfl⟩
  refine ⟨render names, rendered, read, ?_, ?_, ?_, ?_⟩
  · intro found
    rw [← scan?_eq_some_iff, read, Option.some.injEq]
    exact eq_comm
  · have empty : render names = "" ↔ names = [] :=
      ⟨fun same => render_injective (show render names = render [] from same),
        fun same => same ▸ rfl⟩
    rw [empty, ← List.map_eq_nil_iff (f := some), ← named, List.map_eq_nil_iff]
  · intro other rendered
    obtain ⟨others, otherwise, same⟩ := (selectList_eq_ok_iff other _).mp rendered
    rw [named, otherwise, render_injective same]
  · intro name _ rest closed
    exact scanName?_of_inside (inside_doubleQuotes name.toList) closed

/-- A table whose columns are named by what stands in lists of names. -/
def quarrelsome : Table where
  name := "t"
  columns := ["\"", "", "\",\"", "a,\nb", "\"\""].map fun name =>
    ⟨some name, .other "x", false, none⟩

theorem selectList_reads_back_quarrelsome :
    quarrelsome.columns.map Column.name = ["\"", "", "\",\"", "a,\nb", "\"\""].map some ∧
      ∃ text, quarrelsome.selectList = .ok text ∧
        scan? text.toList =
          some (["\"", "", "\",\"", "a,\nb", "\"\""].map String.toList) := by
  have named :
      quarrelsome.columns.map Column.name = ["\"", "", "\",\"", "a,\nb", "\"\""].map some := rfl
  obtain ⟨text, rendered, read, -⟩ := selectList_reads_back named
  exact ⟨named, text, rendered, read⟩

end Table

end CatalogReader
