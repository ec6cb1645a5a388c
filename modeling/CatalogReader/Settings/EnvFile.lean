/-
Files of environment variables, by the rules of dotenv, with which pydantic-settings reads them. A
statement is a name, an equals sign and a value, with `export` in front if one likes. A value stands
between quotes, and may then cover several lines, or is the rest of its line up to a comment. A
statement that goes wrong is skipped to the end of the line on which it goes wrong, and the next one
is read.

Values may refer to other variables. A reference is to a binding above it in the file, or else to
the environment, or else gives way to its default.
-/

import CatalogReader.Text.Blank
import CatalogReader.Text.Cut

namespace CatalogReader.EnvFile

open CatalogReader.Text

/-! ### Lines -/

/-- A text without the byte order mark in front of it. -/
def dropByteOrderMark : List Char → List Char
  | [] => []
  | c :: rest => if c.toNat = 0xFEFF then rest else c :: rest

/-- Whether a character is a blank within a line. -/
def isGap (c : Char) : Bool :=
  isBlank c && c != '\n'

/-- The text after the current line. -/
def dropLine (text : List Char) : List Char :=
  (text.dropWhile (· != '\n')).drop 1

/-- The text after the current line, if nothing but a comment is left in the line. -/
def endLine? (text : List Char) : Option (List Char) :=
  match text.dropWhile isGap with
  | [] => some []
  | '\n' :: rest => some rest
  | '#' :: rest => some (dropLine rest)
  | _ => none

/-! ### Names and values -/

/-- The quote that keeps backslashes, save those in front of itself and of backslashes. -/
def singleQuote : Char := '\x27'

/-- The quote between which backslashes stand for other characters. -/
def doubleQuote : Char := '\x22'

/-- The text after the word `export`, if there is the word and a gap behind it. -/
def dropExport (text : List Char) : List Char :=
  let word := "export".toList
  let behind := text.drop word.length
  if word.isPrefixOf text && behind.head?.any isGap then behind.dropWhile isGap else text

/-- Whether a character may stand in a name without quotes. -/
def isNameChar (c : Char) : Bool :=
  !(c == '=' || c == '#' || isBlank c)

/-- The name at the beginning of a text and the text after it. -/
def cutName? (text : List Char) : Option (List Char × List Char) :=
  if text.head? = some singleQuote then
    match cutFirst? singleQuote (text.drop 1) with
    | none => none
    | some (name, after) => if name.isEmpty then none else some (name, after)
  else
    let name := text.takeWhile isNameChar
    if name.isEmpty then none else some (name, text.dropWhile isNameChar)

/-- The texts before and after the quote that ends a value. A backslash takes the character behind
it along, so a quote behind a backslash ends nothing. -/
def cutQuoted? (quote : Char) : List Char → Option (List Char × List Char)
  | [] => none
  | '\\' :: c :: rest =>
    (cutQuoted? quote rest).map fun (before, after) => ('\\' :: c :: before, after)
  | c :: rest =>
    if c = quote then some ([], rest)
    else (cutQuoted? quote rest).map fun (before, after) => (c :: before, after)

/-- What a backslash and a character stand for between single quotes. -/
def singleMeaning? (c : Char) : Option Char :=
  if c = '\\' ∨ c = singleQuote then some c else none

/-- What a backslash and a character stand for between double quotes. -/
def doubleMeaning? (c : Char) : Option Char :=
  if c = '\\' ∨ c = singleQuote ∨ c = doubleQuote then some c
  else
    match c with
    | 'a' => some '\x07'
    | 'b' => some '\x08'
    | 'f' => some '\x0c'
    | 'n' => some '\n'
    | 'r' => some '\r'
    | 't' => some '\t'
    | 'v' => some '\x0b'
    | _ => none

/-- A text in which backslashes have their meaning. A backslash without one is itself. -/
def decodeEscapes (meaning? : Char → Option Char) : List Char → List Char
  | [] => []
  | '\\' :: c :: rest =>
    match meaning? c with
    | some meant => meant :: decodeEscapes meaning? rest
    | none => '\\' :: decodeEscapes meaning? (c :: rest)
  | c :: rest => c :: decodeEscapes meaning? rest

/-- The text in front of a comment, which begins with a number sign behind a blank. -/
def beforeComment (behindBlank : Bool) : List Char → List Char
  | [] => []
  | c :: rest => if c = '#' ∧ behindBlank then [] else c :: beforeComment (isBlank c) rest

/-- The value that a text behind an equals sign begins with, and the text after it. -/
def cutValue? (text : List Char) : Option (List Char × List Char) :=
  let behindGap := text.dropWhile isGap
  if behindGap.head? = some singleQuote then
    (cutQuoted? singleQuote (behindGap.drop 1)).map fun (value, after) =>
      (decodeEscapes singleMeaning? value, after)
  else if behindGap.head? = some doubleQuote then
    (cutQuoted? doubleQuote (behindGap.drop 1)).map fun (value, after) =>
      (decodeEscapes doubleMeaning? value, after)
  else
    let line := text.takeWhile (· != '\n')
    some (trim (beforeComment false line), text.dropWhile (· != '\n'))

/-! ### Statements -/

/-- A name and its value, if it has one. -/
structure Binding where
  name : List Char
  value : Option (List Char)
  deriving DecidableEq, Repr

/-- A binding whose statement must end here, and the text after the line. -/
def finish (binding : Binding) (text : List Char) : Option Binding × List Char :=
  match endLine? text with
  | some rest => (some binding, rest)
  | none => (none, dropLine text)

/-- The binding of the statement that a text begins with, and the text after the statement. Comments
and statements that go wrong bind nothing. -/
def cutStatement (text : List Char) : Option Binding × List Char :=
  let start := dropExport text
  if start.head? = some '#' then (none, dropLine start)
  else
    match cutName? start with
    | none => (none, dropLine start)
    | some (name, afterName) =>
      match afterName.dropWhile isGap with
      | '=' :: behind =>
        match cutValue? behind with
        | none => (none, dropLine (behind.dropWhile isGap))
        | some (value, afterValue) => finish ⟨name, some value⟩ afterValue
      | behind => finish ⟨name, none⟩ behind

/-- The bindings of the statements of a text, in order. -/
def bindingsOf (text : List Char) : List Binding :=
  match text.dropWhile isBlank with
  | [] => []
  | start =>
    let (binding, rest) := cutStatement start
    if rest.length < text.length then binding.toList ++ bindingsOf rest else binding.toList
termination_by text.length

/-! ### References -/

/-- A reference to a variable. -/
structure Reference where
  name : List Char
  default : List Char
  deriving DecidableEq, Repr

/-- The reference whose name follows, and the text after the reference. -/
def cutReference? (text : List Char) : Option (Reference × List Char) :=
  let name := text.takeWhile fun c => !(c == '\x7d' || c == ':')
  match text.dropWhile fun c => !(c == '\x7d' || c == ':') with
  | '\x7d' :: rest => some (⟨name, []⟩, rest)
  | ':' :: '-' :: rest =>
    match cutFirst? '\x7d' rest with
    | none => none
    | some (default, after) => some (⟨name, default⟩, after)
  | _ => none

theorem length_cutReference? (text rest : List Char) (reference : Reference)
    (found : cutReference? text = some (reference, rest)) : rest.length < text.length := by
  have shorter : (text.dropWhile fun c => !(c == '\x7d' || c == ':')).length ≤ text.length :=
    (List.dropWhile_sublist _).length_le
  unfold cutReference? at found
  dsimp only at found
  split at found
  case h_1 after cut =>
    cases found
    rw [cut, List.length_cons] at shorter
    omega
  case h_2 after cut =>
    rw [cut, List.length_cons, List.length_cons] at shorter
    split at found
    · cases found
    case h_2 default behind split =>
      cases found
      have parts := ((cutFirst?_eq_some_iff '\x7d' _ _ _).1 split).1
      rw [parts, List.length_append, List.length_cons] at shorter
      omega
  case h_3 => cases found

/-- A text with each reference replaced by what it stands for. -/
def expand (valueOf : Reference → List Char) : List Char → List Char
  | [] => []
  | '$' :: '\x7b' :: rest =>
    match found : cutReference? rest with
    | none => '$' :: expand valueOf ('\x7b' :: rest)
    | some (reference, after) =>
      have : after.length < rest.length := length_cutReference? rest after reference found
      valueOf reference ++ expand valueOf after
  | c :: rest => c :: expand valueOf rest
termination_by text => text.length

/-- Bindings with one more, which takes the place of an earlier one of the same name. -/
def bind (bindings : List Binding) (binding : Binding) : List Binding :=
  if bindings.any fun other => other.name == binding.name then
    bindings.map fun other => if other.name = binding.name then binding else other
  else bindings ++ [binding]

/-- What a reference stands for behind some bindings. A name that is bound without a value stands
for nothing. -/
def valueOf (environment : List (String × String)) (known : List Binding) (reference : Reference) :
    List Char :=
  match known.find? fun binding => binding.name == reference.name with
  | some binding => binding.value.getD []
  | none =>
    match environment.find? fun entry => entry.1.toList == reference.name with
    | some entry => entry.2.toList
    | none => reference.default

/-- Bindings with their references replaced, behind bindings that are known. -/
def resolve (environment : List (String × String)) (known : List Binding) :
    List Binding → List Binding
  | [] => known
  | binding :: rest =>
    let value := binding.value.map (expand (valueOf environment known))
    resolve environment (bind known { binding with value }) rest

/-- The variables that a file binds, in the order of their first bindings. -/
def boundVariables (environment : List (String × String)) (file : String) :
    List (String × Option String) :=
  let text := unifyLineBreaks (dropByteOrderMark file.toList)
  (resolve environment [] (bindingsOf text)).map fun binding =>
    (String.ofList binding.name, binding.value.map String.ofList)

end CatalogReader.EnvFile
