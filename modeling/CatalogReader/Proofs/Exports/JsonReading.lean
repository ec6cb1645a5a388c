/-
The JSON format, read. The reader takes every text of the format whose numbers are whole: blanks
where the format allows them, escapes with a letter or with the four digits of a unit of sixteen
bits, two units that are the surrogates of one character, and nested arrays and objects. Each step
of reading an array or an object begins further on in the text, which is why it ends. The lemmas
tell what the reader does by what stands in front of a text.
-/

import CatalogReader.Json

namespace CatalogReader.Json

open CatalogReader.Text

/-! ### Blanks -/

/-- Whether a character may stand between the parts of a value. -/
def isSpace (c : Char) : Bool :=
  c == ' ' || c == '\t' || c == '\n' || c == '\r'

/-- A text from its first character on that is no blank. -/
def skipSpace (text : List Char) : List Char :=
  text.dropWhile isSpace

theorem length_skipSpace_le (text : List Char) : (skipSpace text).length ≤ text.length :=
  (List.dropWhile_sublist isSpace).length_le

theorem skipSpace_cons {c : Char} (shown : isSpace c = false) (rest : List Char) :
    skipSpace (c :: rest) = c :: rest :=
  List.dropWhile_cons_of_neg (Bool.eq_false_iff.mp shown)

/-! ### Texts -/

/-- A unit of sixteen bits by its four digits, and the text behind them. -/
def readUnit? : List Char → Option (Nat × List Char)
  | first :: second :: third :: fourth :: rest => do
    let first ← hexValue? first
    let second ← hexValue? second
    let third ← hexValue? third
    let fourth ← hexValue? fourth
    return (((first * 16 + second) * 16 + third) * 16 + fourth, rest)
  | _ => none

/-- The character of an escape with a letter. -/
def charOfLetter? : Char → Option Char
  | '"' => some '"'
  | '\\' => some '\\'
  | '/' => some '/'
  | 'b' => some '\x08'
  | 'f' => some '\x0c'
  | 'n' => some '\n'
  | 'r' => some '\r'
  | 't' => some '\t'
  | _ => none

/-- The character whose leading surrogate is read, by the trailing one that is to follow. -/
def readPartner? (leading : Nat) : List Char → Option (Char × List Char)
  | '\\' :: 'u' :: input =>
    match readUnit? input with
    | none => none
    | some (trailing, rest) =>
      if 0xDC00 ≤ trailing ∧ trailing < 0xE000 then
        some (Char.ofNat (0x10000 + (leading - 0xD800) * 0x400 + (trailing - 0xDC00)), rest)
      else none
  | _ => none

/-- The character of a unit, or of two that are its surrogates. A surrogate without its partner is
no character. -/
def readUnits? (input : List Char) : Option (Char × List Char) :=
  match readUnit? input with
  | none => none
  | some (unit, rest) =>
    if unit < 0xD800 ∨ 0xE000 ≤ unit then some (Char.ofNat unit, rest)
    else if unit < 0xDC00 then readPartner? unit rest
    else none

/-- The character of the escape behind a backslash, and the text behind it. -/
def readEscape? : List Char → Option (Char × List Char)
  | [] => none
  | 'u' :: rest => readUnits? rest
  | letter :: rest => (charOfLetter? letter).map fun c => (c, rest)

theorem length_readUnit? {input rest : List Char} {unit : Nat}
    (read : readUnit? input = some (unit, rest)) : rest.length < input.length := by
  unfold readUnit? at read
  split at read
  case h_1 first second third fourth behind =>
    simp only [Option.bind_eq_bind, Option.bind_eq_some_iff] at read
    obtain ⟨_, -, _, -, _, -, _, -, same⟩ := read
    cases same
    simp only [List.length_cons]
    omega
  case h_2 => cases read

theorem length_readPartner? {leading : Nat} {input rest : List Char} {c : Char}
    (read : readPartner? leading input = some (c, rest)) : rest.length < input.length := by
  unfold readPartner? at read
  split at read
  case h_1 input =>
    split at read
    case h_1 => cases read
    case h_2 trailing behind second =>
      have shorter := length_readUnit? second
      split at read
      · obtain ⟨-, rfl⟩ := Prod.mk.inj (Option.some.inj read)
        simp only [List.length_cons]
        omega
      · cases read
  case h_2 => cases read

theorem length_readUnits? {input rest : List Char} {c : Char}
    (read : readUnits? input = some (c, rest)) : rest.length < input.length := by
  unfold readUnits? at read
  split at read
  case h_1 => cases read
  case h_2 unit behind first =>
    have shorter := length_readUnit? first
    split at read
    · cases read
      exact shorter
    · split at read
      · exact Nat.lt_trans (length_readPartner? read) shorter
      · cases read

theorem length_readEscape? {input rest : List Char} {c : Char}
    (read : readEscape? input = some (c, rest)) : rest.length < input.length := by
  unfold readEscape? at read
  split at read
  case h_1 => cases read
  case h_2 => exact Nat.lt_succ_of_lt (length_readUnits? read)
  case h_3 =>
    obtain ⟨_, -, same⟩ := Option.map_eq_some_iff.mp read
    cases same
    exact Nat.lt_succ_self _

/-- The text up to the closing quote, and what stands behind the quote. -/
def readText? : List Char → Option (List Char × List Char)
  | [] => none
  | '"' :: rest => some ([], rest)
  | '\\' :: rest =>
    match read : readEscape? rest with
    | none => none
    | some (c, behind) =>
      have : behind.length < rest.length := length_readEscape? read
      (readText? behind).map fun (value, rest) => (c :: value, rest)
  | c :: rest =>
    if c.toNat < 0x20 then none
    else (readText? rest).map fun (value, behind) => (c :: value, behind)
termination_by text => text.length

/-! ### Numbers -/

/-- The whole number of some digits. Only zero begins with a zero. -/
def numberOfDigits? : List Char → Option Nat
  | [] => none
  | ['0'] => some 0
  | '0' :: _ => none
  | digits => some (Nat.ofDigitChars 10 digits 0)

/-- A whole number, and the text behind it, which does not go on with a fraction or an exponent. -/
def readNatural? (text : List Char) : Option (Nat × List Char) :=
  let rest := text.dropWhile Char.isDigit
  if rest.head?.any fun c => c == '.' || c == 'e' || c == 'E' then none
  else (numberOfDigits? (text.takeWhile Char.isDigit)).map fun value => (value, rest)

/-- A number, which has a minus sign below zero, and the text behind it. -/
def readNumber? (input : List Char) : Option (Int × List Char) :=
  match input with
  | '-' :: rest => (readNatural? rest).map fun (value, behind) => (-(value : Int), behind)
  | _ => (readNatural? input).map fun (value, behind) => ((value : Int), behind)

/-! ### Values -/

/-- A value that is no more than a number or one of the three words, and the text behind it. -/
def readPlain? (input : List Char) : Option (Json × List Char) :=
  match input with
  | 'n' :: 'u' :: 'l' :: 'l' :: rest => some (null, rest)
  | 't' :: 'r' :: 'u' :: 'e' :: rest => some (bool true, rest)
  | 'f' :: 'a' :: 'l' :: 's' :: 'e' :: rest => some (bool false, rest)
  | _ => (readNumber? input).map fun (value, behind) => (number value, behind)

/-- The name of a member, and its value with all that follows it. -/
def readName? : List Char → Option (String × List Char)
  | '"' :: rest =>
    match readText? rest with
    | none => none
    | some (name, behind) =>
      match skipSpace behind with
      | ':' :: value => some (String.ofList name, skipSpace value)
      | _ => none
  | _ => none

mutual

/-- The value in front of a text, and the text behind it. -/
def readValue? (input : List Char) : Option (Json × List Char) :=
  match input with
  | '"' :: rest => (readText? rest).map fun (value, behind) => (text (String.ofList value), behind)
  | '[' :: rest =>
    have := length_skipSpace_le rest
    match skipSpace rest with
    | ']' :: behind => some (array [], behind)
    | _ => (readItems? (skipSpace rest)).map fun (items, behind) => (array items, behind)
  | '\x7b' :: rest =>
    have := length_skipSpace_le rest
    match skipSpace rest with
    | '\x7d' :: behind => some (object [], behind)
    | _ => (readMembers? (skipSpace rest)).map fun (members, behind) => (object members, behind)
  | _ => readPlain? input
termination_by (input.length, 0)

/-- Items, of which there is at least one, up to the closing bracket, and the text behind it. -/
def readItems? (input : List Char) : Option (List Json × List Char) :=
  match readValue? input with
  | none => none
  | some (item, behind) =>
    match skipSpace behind with
    | ']' :: rest => some ([item], rest)
    | ',' :: rest =>
      have := length_skipSpace_le rest
      if rest.length < input.length then
        (readItems? (skipSpace rest)).map fun (items, behind) => (item :: items, behind)
      else none
    | _ => none
termination_by (input.length, 1)

/-- Members, of which there is at least one, up to the closing bracket, and the text behind it. -/
def readMembers? (input : List Char) : Option (List (String × Json) × List Char) :=
  match readName? input with
  | none => none
  | some (name, value) =>
    if value.length < input.length then
      match readValue? value with
      | none => none
      | some (item, behind) =>
        match skipSpace behind with
        | '\x7d' :: rest => some ([(name, item)], rest)
        | ',' :: rest =>
          have := length_skipSpace_le rest
          if rest.length < input.length then
            (readMembers? (skipSpace rest)).map fun (members, behind) =>
              ((name, item) :: members, behind)
          else none
        | _ => none
    else none
termination_by (input.length, 1)

end

/-- The value of a text, with nothing but blanks around it. -/
def read? (input : List Char) : Option Json :=
  match readValue? (skipSpace input) with
  | none => none
  | some (value, rest) => if (skipSpace rest).isEmpty then some value else none

example : read? " [0, \x7b\"a\" : null\x7d]\n".toList =
    some (array [number 0, object [("a", null)]]) := by cbv

example : read? "\"\\ud83d\\ude00\\/\"".toList = some (text "😀/") := by cbv

example : (["[1,]", "01", "\"\\ud83d\"", "null null"].all fun input =>
    (read? input.toList).isNone) = true := by cbv

/-! ### The rules of reading -/

theorem readText?_of_escape {c : Char} {input rest : List Char}
    (read : readEscape? input = some (c, rest)) :
    readText? ('\\' :: input) =
      (readText? rest).map fun (value, behind) => (c :: value, behind) := by
  rw [readText?]
  split <;> simp_all

theorem readText?_of_plain {c : Char} (unquoted : c ≠ '"') (unescaped : c ≠ '\\')
    (shown : 0x20 ≤ c.toNat) (rest : List Char) :
    readText? (c :: rest) = (readText? rest).map fun (value, behind) => (c :: value, behind) := by
  rw [readText?]
  · exact if_neg (Nat.not_lt_of_le shown)
  · exact unquoted
  · exact unescaped

/-- Whether a number can begin with a character. -/
def opensNumber (c : Char) : Bool :=
  c.isDigit || c == '-'

theorem readValue?_of_plain {c : Char} (unquoted : c ≠ '"') (noArray : c ≠ '[')
    (noObject : c ≠ '\x7b') (rest : List Char) :
    readValue? (c :: rest) = readPlain? (c :: rest) := by
  rw [readValue?]
  · exact fun _ same => unquoted (List.cons.inj same).1
  · exact fun _ same => noArray (List.cons.inj same).1
  · exact fun _ same => noObject (List.cons.inj same).1

theorem readPlain?_of_number {c : Char} (opening : opensNumber c = true) (rest : List Char) :
    readPlain? (c :: rest) =
      (readNumber? (c :: rest)).map fun (value, behind) => (number value, behind) := by
  rw [readPlain?]
  all_goals
    intro others same
    rw [(List.cons.inj same).1] at opening
    cases opening

theorem readName?_of_colon {input behind value name : List Char}
    (read : readText? input = some (name, behind)) (shown : skipSpace behind = ':' :: value) :
    readName? ('"' :: input) = some (String.ofList name, skipSpace value) := by
  rw [readName?, read]
  dsimp only
  rw [shown]
  rfl

theorem readValue?_of_items {input : List Char} (some : ∀ rest, skipSpace input ≠ ']' :: rest) :
    readValue? ('[' :: input) =
      (readItems? (skipSpace input)).map fun (items, behind) => (array items, behind) := by
  rw [readValue?]
  split
  case h_1 rest shown => exact absurd shown (some rest)
  case h_2 => rfl

theorem readValue?_of_members {input : List Char}
    (some : ∀ rest, skipSpace input ≠ '\x7d' :: rest) :
    readValue? ('\x7b' :: input) =
      (readMembers? (skipSpace input)).map fun (members, behind) => (object members, behind) := by
  rw [readValue?]
  split
  case h_1 rest shown => exact absurd shown (some rest)
  case h_2 => rfl

section

variable {input behind rest : List Char} {item : Json}

theorem readItems?_of_last (read : readValue? input = some (item, behind))
    (shown : skipSpace behind = ']' :: rest) : readItems? input = some ([item], rest) := by
  rw [readItems?, read]
  dsimp only
  rw [shown]
  rfl

theorem readItems?_of_comma (read : readValue? input = some (item, behind))
    (shown : skipSpace behind = ',' :: rest) (shorter : rest.length < input.length) :
    readItems? input =
      (readItems? (skipSpace rest)).map fun (items, behind) => (item :: items, behind) := by
  rw [readItems?, read]
  dsimp only
  rw [shown]
  exact if_pos shorter

variable {value : List Char} {name : String}

theorem readMembers?_of_last (named : readName? input = some (name, value))
    (smaller : value.length < input.length) (read : readValue? value = some (item, behind))
    (shown : skipSpace behind = '\x7d' :: rest) :
    readMembers? input = some ([(name, item)], rest) := by
  rw [readMembers?, named]
  dsimp only
  rw [if_pos smaller, read]
  dsimp only
  rw [shown]
  rfl

theorem readMembers?_of_comma (named : readName? input = some (name, value))
    (smaller : value.length < input.length) (read : readValue? value = some (item, behind))
    (shown : skipSpace behind = ',' :: rest) (shorter : rest.length < input.length) :
    readMembers? input =
      (readMembers? (skipSpace rest)).map fun (members, behind) =>
        ((name, item) :: members, behind) := by
  rw [readMembers?, named]
  dsimp only
  rw [if_pos smaller, read]
  dsimp only
  rw [shown]
  exact if_pos shorter

end

end CatalogReader.Json
