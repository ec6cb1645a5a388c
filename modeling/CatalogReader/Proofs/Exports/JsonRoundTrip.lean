/-
Values of the JSON format, written and read again. The text of a value is read as this value,
whatever characters its texts hold and however deep it is nested. So the text of a table, which is
plain ASCII, is read as the object of the table, and two tables with one text have one object.
-/

import CatalogReader.Proofs.Exports.JsonReading
import CatalogReader.Proofs.Exports.PlainForms
import CatalogReader.Proofs.Text.Legible
import Mathlib.Tactic.SplitIfs

namespace CatalogReader

open CatalogReader.Text

namespace Json

/-! ### Characters -/

theorem readUnit?_hexNumber {unit : Nat} (fits : unit < 0x10000) (rest : List Char) :
    readUnit? (hexNumber .small 4 unit ++ rest) = some (unit, rest) := by
  have digit (value : Nat) : hexValue? (hexDigit .small (value % 16)) = some (value % 16) :=
    hexValue?_hexDigit .small _ (Nat.mod_lt value (by decide))
  simp only [hexNumber, List.nil_append, List.cons_append, readUnit?, digit, Option.bind_eq_bind,
    Option.bind_some, Option.pure_def, Option.some.injEq, Prod.mk.injEq, and_true]
  omega

theorem toNat_cases (c : Char) : c.toNat < 0xD800 ∨ 0xDFFF < c.toNat ∧ c.toNat < 0x110000 :=
  c.valid

/-- The unit of a character that needs no second one. -/
theorem readUnits?_single {c : Char} (single : c.toNat < 0x10000) (rest : List Char) :
    readUnits? (hexNumber .small 4 c.toNat ++ rest) = some (c, rest) := by
  have whole := toNat_cases c
  unfold readUnits?
  rw [readUnit?_hexNumber single]
  dsimp only
  rw [if_pos (by omega), Char.ofNat_toNat]

theorem readPartner?_escapedUnit {leading trailing : Nat} (second : trailing < 0x400)
    (rest : List Char) :
    readPartner? (0xD800 + leading) (escapedUnit (0xDC00 + trailing) ++ rest) =
      some (Char.ofNat (0x10000 + leading * 0x400 + trailing), rest) := by
  rw [escapedUnit, List.cons_append, List.cons_append, readPartner?,
    readUnit?_hexNumber (by omega)]
  dsimp only
  rw [if_pos (by omega), Nat.add_sub_cancel_left, Nat.add_sub_cancel_left]

/-- The two surrogates of a character. -/
theorem readUnits?_pair {leading trailing : Nat} (first : leading < 0x400)
    (second : trailing < 0x400) (rest : List Char) :
    readUnits? (hexNumber .small 4 (0xD800 + leading) ++
        (escapedUnit (0xDC00 + trailing) ++ rest)) =
      some (Char.ofNat (0x10000 + leading * 0x400 + trailing), rest) := by
  unfold readUnits?
  rw [readUnit?_hexNumber (by omega)]
  dsimp only
  rw [if_neg (by omega), if_pos (by omega), readPartner?_escapedUnit second]

theorem readText?_escapedPair {leading trailing : Nat} (first : leading < 0x400)
    (second : trailing < 0x400) (rest : List Char) :
    readText? (escapedUnit (0xD800 + leading) ++ (escapedUnit (0xDC00 + trailing) ++ rest)) =
      (readText? rest).map fun (value, behind) =>
        (Char.ofNat (0x10000 + leading * 0x400 + trailing) :: value, behind) :=
  readText?_of_escape (readUnits?_pair first second rest)

/-- Whatever a character is written as, it is read. -/
theorem readText?_escapedChar (c : Char) (rest : List Char) :
    readText? (escapedChar c ++ rest) =
      (readText? rest).map fun (value, behind) => (c :: value, behind) := by
  unfold escapedChar
  dsimp only
  split_ifs with quote backslash line carriage tab back feed printable single
  · subst quote
    exact readText?_of_escape rfl
  · subst backslash
    exact readText?_of_escape rfl
  · subst line
    exact readText?_of_escape rfl
  · subst carriage
    exact readText?_of_escape rfl
  · subst tab
    exact readText?_of_escape rfl
  · obtain rfl : c = '\x08' := Char.toNat_inj.mp back
    exact readText?_of_escape rfl
  · obtain rfl : c = '\x0c' := Char.toNat_inj.mp feed
    exact readText?_of_escape rfl
  · exact readText?_of_plain quote backslash printable.1 rest
  · exact readText?_of_escape (readUnits?_single single rest)
  · have bound := toNat_cases c
    have first : (c.toNat - 0x10000) / 0x400 < 0x400 := by omega
    have second : (c.toNat - 0x10000) % 0x400 < 0x400 := Nat.mod_lt _ (by decide)
    have code : 0x10000 + (c.toNat - 0x10000) / 0x400 * 0x400 + (c.toNat - 0x10000) % 0x400 =
        c.toNat := by omega
    rw [List.append_assoc, readText?_escapedPair first second, code, Char.ofNat_toNat]

theorem readText?_textLiteral (text rest : List Char) :
    readText? (text.flatMap escapedChar ++ '"' :: rest) = some (text, rest) := by
  induction text with
  | nil =>
    rw [List.flatMap_nil, List.nil_append, readText?]
  | cons c others inductionHypothesis =>
    rw [List.flatMap_cons, List.append_assoc, readText?_escapedChar, inductionHypothesis]
    rfl

/-! ### Numbers -/

/-- A text that no number goes on with. -/
def EndsNumber (text : List Char) : Prop :=
  ∀ c ∈ text.head?, c.isDigit = false ∧ (c == '.' || c == 'e' || c == 'E') = false

theorem exists_digit (value : Nat) :
    ∃ c others, Nat.toDigits 10 value = c :: others ∧ c.isDigit = true := by
  obtain ⟨c, others, digits⟩ := List.exists_cons_of_ne_nil (@Nat.toDigits_ne_nil value 10)
  have member : c ∈ Nat.toDigits 10 value := by
    rw [digits]
    exact List.mem_cons_self
  exact ⟨c, others, digits, Nat.isDigit_of_mem_toDigits (by decide) (by decide) member⟩

theorem exists_head_numberLiteral (value : Int) :
    ∃ c others, numberLiteral value = c :: others ∧ opensNumber c = true := by
  cases value with
  | ofNat value =>
    obtain ⟨c, others, digits, digit⟩ := exists_digit value
    exact ⟨c, others, digits, Bool.or_eq_true_iff.mpr (Or.inl digit)⟩
  | negSucc value => exact ⟨_, _, rfl, rfl⟩

theorem numberOfDigits?_toDigits (value : Nat) :
    numberOfDigits? (Nat.toDigits 10 value) = some value := by
  rcases Nat.eq_zero_or_pos value with rfl | positive
  · rfl
  · have first := head?_toDigits positive
    unfold numberOfDigits?
    split
    case h_1 none => exact absurd none Nat.toDigits_ne_nil
    case h_2 zero => exact absurd (congrArg List.head? zero) first
    case h_3 zero => exact absurd (congrArg List.head? zero) first
    case h_4 => rw [Nat.ofDigitChars_ten_toDigits]

theorem readNatural?_toDigits (value : Nat) {rest : List Char} (ended : EndsNumber rest) :
    readNatural? (Nat.toDigits 10 value ++ rest) = some (value, rest) := by
  have digits : ∀ c ∈ Nat.toDigits 10 value, c.isDigit = true := fun c member =>
    Nat.isDigit_of_mem_toDigits (by decide) (by decide) member
  have stops : rest.takeWhile Char.isDigit = [] ∧ rest.dropWhile Char.isDigit = rest := by
    cases rest with
    | nil => exact ⟨rfl, rfl⟩
    | cons c others =>
      have other := (ended c rfl).1
      exact ⟨by rw [List.takeWhile_cons, if_neg (by simp [other])],
        by rw [List.dropWhile_cons, if_neg (by simp [other])]⟩
  have whole : rest.head?.any (fun c => c == '.' || c == 'e' || c == 'E') = false := by
    cases rest with
    | nil => rfl
    | cons c others => exact (ended c rfl).2
  unfold readNatural?
  rw [List.takeWhile_append_of_pos digits, List.dropWhile_append_of_pos digits, stops.1, stops.2,
    List.append_nil, numberOfDigits?_toDigits]
  dsimp only
  rw [whole]
  rfl

theorem readNumber?_numberLiteral (value : Int) {rest : List Char} (ended : EndsNumber rest) :
    readNumber? (numberLiteral value ++ rest) = some (value, rest) := by
  cases value with
  | ofNat value =>
    have plain : ∀ others, Nat.toDigits 10 value ++ rest ≠ '-' :: others := by
      intro others same
      obtain ⟨c, more, digits, digit⟩ := exists_digit value
      rw [digits, List.cons_append, List.cons.injEq] at same
      rw [same.1] at digit
      cases digit
    rw [numberLiteral, readNumber?, readNatural?_toDigits value ended]
    · rfl
    · exact plain
  | negSucc value =>
    rw [numberLiteral, List.cons_append, readNumber?, readNatural?_toDigits (value + 1) ended]
    rfl

/-! ### Values -/

/-- The items of an array as they stand between its brackets. -/
def itemsText (level : Nat) : List Json → List Char
  | [] => []
  | first :: others => write level first ++ writeItems level others

/-- The members of an object as they stand between its brackets. -/
def membersText (level : Nat) : List (String × Json) → List Char
  | [] => []
  | (name, first) :: others =>
    textLiteral name.toList ++ [':', ' '] ++ write level first ++ writeMembers level others

theorem skipSpace_newLine (level : Nat) (rest : List Char) :
    skipSpace (newLine level ++ rest) = skipSpace rest := by
  refine List.dropWhile_append_of_pos fun c member => ?_
  rcases List.mem_cons.mp member with rfl | blank
  · rfl
  · rw [List.eq_of_mem_replicate blank]
    rfl

/-- Whether a value can begin with a character. -/
def begins (c : Char) : Bool :=
  opensNumber c || ['"', '[', '\x7b', 'n', 't', 'f'].contains c

theorem isSpace_of_begins {c : Char} (opening : begins c = true) : isSpace c = false := by
  refine Bool.eq_false_iff.mpr fun space => ?_
  simp only [isSpace, Bool.or_eq_true, beq_iff_eq] at space
  rcases space with ((rfl | rfl) | rfl) | rfl <;> exact absurd opening (by decide)

theorem exists_head_write (level : Nat) (value : Json) :
    ∃ c rest, write level value = c :: rest ∧ begins c = true := by
  cases value with
  | null => exact ⟨_, _, rfl, rfl⟩
  | bool value => cases value <;> exact ⟨_, _, rfl, rfl⟩
  | number value =>
    obtain ⟨c, others, begun, opening⟩ := exists_head_numberLiteral value
    exact ⟨c, others, begun, Bool.or_eq_true_iff.mpr (Or.inl opening)⟩
  | text value => exact ⟨_, _, rfl, rfl⟩
  | array items => cases items <;> exact ⟨_, _, rfl, rfl⟩
  | object members => cases members <;> exact ⟨_, _, rfl, rfl⟩

theorem skipSpace_write (level : Nat) (value : Json) (rest : List Char) :
    skipSpace (write level value ++ rest) = write level value ++ rest := by
  obtain ⟨c, others, begun, opening⟩ := exists_head_write level value
  rw [begun, List.cons_append, skipSpace_cons (isSpace_of_begins opening)]

theorem write_append_ne (level : Nat) (value : Json) (behind rest : List Char) :
    write level value ++ behind ≠ ']' :: rest := by
  obtain ⟨c, others, begun, opening⟩ := exists_head_write level value
  rw [begun, List.cons_append]
  intro same
  rw [(List.cons.inj same).1] at opening
  cases opening

theorem endsNumber_cons {c : Char} (digit : c.isDigit = false)
    (mark : (c == '.' || c == 'e' || c == 'E') = false) (rest : List Char) :
    EndsNumber (c :: rest) := by
  intro first same
  cases same
  exact ⟨digit, mark⟩

theorem endsNumber_newLine (level : Nat) (rest : List Char) :
    EndsNumber (newLine level ++ rest) :=
  endsNumber_cons rfl rfl _

theorem skipSpace_itemsText (level : Nat) (first : Json) (others : List Json) (rest : List Char) :
    skipSpace (itemsText level (first :: others) ++ rest) =
      itemsText level (first :: others) ++ rest := by
  rw [itemsText, List.append_assoc, skipSpace_write]

theorem skipSpace_membersText (level : Nat) (first : String × Json)
    (others : List (String × Json)) (rest : List Char) :
    skipSpace (membersText level (first :: others) ++ rest) =
      membersText level (first :: others) ++ rest :=
  skipSpace_cons rfl _

theorem readValue?_text (value : String) (rest : List Char) :
    readValue? (textLiteral value.toList ++ rest) = some (text value, rest) := by
  have inner := readText?_textLiteral value.toList rest
  have whole : textLiteral value.toList ++ rest =
      '"' :: (value.toList.flatMap escapedChar ++ '"' :: rest) := by simp [textLiteral]
  rw [whole, readValue?, inner]
  exact congrArg (fun shown => some (text shown, rest)) String.ofList_toList

theorem readName?_text (name : String) (level : Nat) (value : Json) (rest : List Char) :
    readName? (textLiteral name.toList ++ ([':', ' '] ++ (write level value ++ rest))) =
      some (name, write level value ++ rest) := by
  have inner := readText?_textLiteral name.toList (':' :: ' ' :: (write level value ++ rest))
  have whole : textLiteral name.toList ++ ([':', ' '] ++ (write level value ++ rest)) =
      '"' :: (name.toList.flatMap escapedChar ++
        '"' :: ':' :: ' ' :: (write level value ++ rest)) := by
    simp [textLiteral]
  have behind : skipSpace (' ' :: (write level value ++ rest)) = write level value ++ rest :=
    skipSpace_write level value rest
  rw [whole, readName?_of_colon inner (skipSpace_cons rfl _), behind, String.ofList_toList]

mutual

/-- A value that is written is read again, and the reader stops behind it. -/
theorem readValue?_write (level : Nat) :
    ∀ (value : Json) (rest : List Char), EndsNumber rest →
      readValue? (write level value ++ rest) = some (value, rest)
  | null, rest, _ => readValue?_of_plain (by decide) (by decide) (by decide) _
  | bool true, rest, _ => readValue?_of_plain (by decide) (by decide) (by decide) _
  | bool false, rest, _ => readValue?_of_plain (by decide) (by decide) (by decide) _
  | number value, rest, ended => by
    obtain ⟨c, others, begun, opening⟩ := exists_head_numberLiteral value
    have other {mark : Char} (unmarked : opensNumber mark = false) : c ≠ mark := fun same =>
      Bool.false_ne_true (unmarked.symm.trans (same ▸ opening))
    rw [write, begun, List.cons_append, readValue?_of_plain (other rfl) (other rfl) (other rfl),
      readPlain?_of_number opening, ← List.cons_append, ← begun,
      readNumber?_numberLiteral value ended]
    rfl
  | text value, rest, _ => readValue?_text value rest
  | array [], rest, _ => by
    rw [write, List.cons_append, List.singleton_append, readValue?, skipSpace_cons rfl]
    rfl
  | array (first :: others), rest, _ => by
    have inner := readItems?_itemsText (level + 1) level (first :: others) rest
      (List.cons_ne_nil _ _)
    have shown := skipSpace_itemsText (level + 1) first others (newLine level ++ ']' :: rest)
    have whole : write level (array (first :: others)) ++ rest =
        '[' :: (newLine (level + 1) ++
          (itemsText (level + 1) (first :: others) ++ (newLine level ++ ']' :: rest))) := by
      simp [write, itemsText]
    rw [whole, readValue?_of_items, skipSpace_newLine, shown, inner]
    · rfl
    · intro behind same
      rw [skipSpace_newLine, shown, itemsText, List.append_assoc] at same
      exact write_append_ne _ _ _ _ same
  | object [], rest, _ => by
    rw [write, List.cons_append, List.singleton_append, readValue?, skipSpace_cons rfl]
    rfl
  | object ((name, first) :: others), rest, _ => by
    have inner := readMembers?_membersText (level + 1) level ((name, first) :: others) rest
      (List.cons_ne_nil _ _)
    have shown :=
      skipSpace_membersText (level + 1) (name, first) others (newLine level ++ '\x7d' :: rest)
    have whole : write level (object ((name, first) :: others)) ++ rest =
        '\x7b' :: (newLine (level + 1) ++
          (membersText (level + 1) ((name, first) :: others) ++
            (newLine level ++ '\x7d' :: rest))) := by
      simp [write, membersText]
    rw [whole, readValue?_of_members, skipSpace_newLine, shown, inner]
    · rfl
    · intro behind same
      rw [skipSpace_newLine, shown] at same
      exact absurd (List.cons.inj same).1 (by decide)

theorem readItems?_itemsText (level below : Nat) :
    ∀ (items : List Json) (rest : List Char), items ≠ [] →
      readItems? (itemsText level items ++ (newLine below ++ ']' :: rest)) = some (items, rest)
  | [], _, nonempty => absurd rfl nonempty
  | [item], rest, _ => by
    have read := readValue?_write level item (newLine below ++ ']' :: rest)
      (endsNumber_newLine below _)
    rw [itemsText, writeItems, List.append_nil]
    refine readItems?_of_last read ?_
    rw [skipSpace_newLine, skipSpace_cons rfl]
  | item :: second :: others, rest, _ => by
    have later := readItems?_itemsText level below (second :: others) rest (List.cons_ne_nil _ _)
    have shown := skipSpace_itemsText level second others (newLine below ++ ']' :: rest)
    have whole : itemsText level (item :: second :: others) ++ (newLine below ++ ']' :: rest) =
        write level item ++ ',' :: (newLine level ++
          (itemsText level (second :: others) ++ (newLine below ++ ']' :: rest))) := by
      simp [itemsText, writeItems]
    rw [whole, readItems?_of_comma (readValue?_write level item _ (endsNumber_cons rfl rfl _))
      (skipSpace_cons rfl _), skipSpace_newLine, shown, later]
    · rfl
    · simp only [List.length_append, List.length_cons]
      omega

theorem readMembers?_membersText (level below : Nat) :
    ∀ (members : List (String × Json)) (rest : List Char), members ≠ [] →
      readMembers? (membersText level members ++ (newLine below ++ '\x7d' :: rest)) =
        some (members, rest)
  | [], _, nonempty => absurd rfl nonempty
  | [(name, item)], rest, _ => by
    have read := readValue?_write level item (newLine below ++ '\x7d' :: rest)
      (endsNumber_newLine below _)
    have named := readName?_text name level item (newLine below ++ '\x7d' :: rest)
    rw [membersText, writeMembers, List.append_nil, List.append_assoc, List.append_assoc]
    refine readMembers?_of_last named ?_ read ?_
    · simp only [List.length_append, List.length_cons]
      omega
    · rw [skipSpace_newLine, skipSpace_cons rfl]
  | (name, item) :: second :: others, rest, _ => by
    have later := readMembers?_membersText level below (second :: others) rest
      (List.cons_ne_nil _ _)
    have shown := skipSpace_membersText level second others (newLine below ++ '\x7d' :: rest)
    have whole : membersText level ((name, item) :: second :: others) ++
          (newLine below ++ '\x7d' :: rest) =
        textLiteral name.toList ++ ([':', ' '] ++ (write level item ++ ',' :: (newLine level ++
          (membersText level (second :: others) ++ (newLine below ++ '\x7d' :: rest))))) := by
      simp [membersText, writeMembers]
    rw [whole, readMembers?_of_comma (readName?_text name level item _) ?_
      (readValue?_write level item _ (endsNumber_cons rfl rfl _)) (skipSpace_cons rfl _),
      skipSpace_newLine, shown, later]
    · rfl
    · simp only [List.length_append, List.length_cons]
      omega
    · simp only [List.length_append, List.length_cons]
      omega

end

/-- The text of a value is read as this value. -/
theorem read?_render (value : Json) : read? value.render.toList = some value := by
  have shown := skipSpace_write 0 value []
  have read := readValue?_write 0 value [] nofun
  rw [List.append_nil] at shown read
  unfold read?
  rw [render, String.toList_ofList, shown, read]
  rfl

theorem lt_of_mem_render {value : Json} {c : Char} (member : c ∈ value.render.toList) :
    c.toNat < 0x80 := by
  rw [render, String.toList_ofList] at member
  have written := List.all_eq_true.mp (all_write 0 value) c member
  simp only [isWritten, Bool.or_eq_true, beq_iff_eq, Bool.and_eq_true, decide_eq_true_eq] at written
  rcases written with rfl | ⟨-, printable⟩
  · decide
  · omega

end Json

/-! ### Tables -/

namespace Table

/-- A column whose type has a text, as an object. -/
def columnObject (column : Column) (type : String) : Json :=
  .object [("name", Json.ofOption column.name), ("data_type", .text type),
    ("is_nullable", .bool column.isNullable), ("comment", Json.ofOption column.comment)]

theorem mapM_toJson?_of_text {columns : List Column} {types : List String}
    (named : columns.map (fun column => column.type.text?) = types.map some) :
    columns.mapM Column.toJson? = some (List.zipWith columnObject columns types) := by
  induction columns generalizing types with
  | nil => rfl
  | cons column others inductionHypothesis =>
    obtain ⟨type, rest, rfl, own, behind⟩ := List.map_eq_cons_iff.mp named.symm
    have typed : column.type.text? = some type := own.symm
    rw [List.mapM_cons, inductionHypothesis behind.symm, Column.toJson?, typed]
    rfl

theorem renderJson_eq_ok_iff (table : Table) (text : String) :
    table.renderJson = .ok text ↔ ∃ value, table.toJson? = some value ∧ text = value.render := by
  unfold renderJson
  cases table.toJson? with
  | none => exact ⟨nofun, nofun⟩
  | some value =>
    exact ⟨fun same => ⟨value, rfl, (Except.ok.inj same).symm⟩,
      fun ⟨_, same, rendered⟩ => by cases same; rw [rendered]⟩

/-- The JSON text of a table tells its object. Whatever the names, comments and types of its columns
are, as long as the types have a text, it can be written, in characters of ASCII alone; and a reader
of the format reads it as the object with the name of the table and, in their order, with the name,
the type, the nullability and the comment of each column. So a table with another object has
another text. -/
theorem renderJson_reads_back {table : Table} {types : List String}
    (named : table.columns.map (fun column => column.type.text?) = types.map some) :
    ∃ text, table.renderJson = .ok text ∧
      (∀ c ∈ text.toList, c.toNat < 0x80) ∧
      Json.read? text.toList = table.toJson? ∧
      table.toJson? = some (.object [("name", .text table.name),
        ("columns", .array (List.zipWith columnObject table.columns types))]) ∧
      ∀ other : Table, other.toJson? ≠ table.toJson? → other.renderJson ≠ .ok text := by
  have object : table.toJson? = some (.object [("name", .text table.name),
      ("columns", .array (List.zipWith columnObject table.columns types))]) := by
    rw [toJson?, mapM_toJson?_of_text named]
    rfl
  refine ⟨_, (renderJson_eq_ok_iff table _).mpr ⟨_, object, rfl⟩, ?_, ?_, object, ?_⟩
  · exact fun c member => Json.lt_of_mem_render member
  · rw [object, Json.read?_render]
  · intro other different rendered
    obtain ⟨value, own, same⟩ := (renderJson_eq_ok_iff other _).mp rendered
    have read := Json.read?_render value
    rw [← same, Json.read?_render] at read
    exact different (own.trans (read.symm.trans object.symm))

/-- A table of the empty name, with names and types of all sorts. -/
def motley : Table where
  name := ""
  columns :=
    [⟨some "a\"\\\x7f\n", .array (.array (.portable .text)), true, none⟩,
      ⟨none, .other "😀/é", false, some "\x00"⟩]

theorem renderJson_reads_back_motley :
    motley.columns.map (fun column => column.type.text?) = ["text[][]", "😀/é"].map some ∧
      ∃ text, motley.renderJson = .ok text ∧ (∀ c ∈ text.toList, c.toNat < 0x80) ∧
        Json.read? text.toList = motley.toJson? := by
  have named :
      motley.columns.map (fun column => column.type.text?) = ["text[][]", "😀/é"].map some := by
    decide
  obtain ⟨text, rendered, plain, read, -⟩ := renderJson_reads_back named
  exact ⟨named, text, rendered, plain, read⟩

end Table

end CatalogReader
