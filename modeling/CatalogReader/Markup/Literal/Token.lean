/-
The tokens of literals that `literal_eval` reads: numbers, texts in quotes, constants, signs,
brackets and separators. Blanks and comments stand between tokens; a backslash joins a line with the
next one. Lines without a token may come first, and the first line with a token is not indented.
-/

import CatalogReader.Markup.Literal.Number
import CatalogReader.Markup.Literal.Quoted
import CatalogReader.Text.LetterForm

namespace CatalogReader.Markup.Literal

open CatalogReader.Text

/-- A pair of brackets. -/
inductive Bracket where
  | round
  | curly
  deriving DecidableEq, Repr

/-- A token of a literal. -/
inductive Token where
  | number (kind : NumberKind)
  | quoted (octets : Bool)
  /-- The name of a constant, or an ellipsis. -/
  | constant
  /-- The name of sets, behind which an empty pair of brackets stands for the empty set. -/
  | setName
  | sign
  | opening (bracket : Bracket)
  | closing (bracket : Bracket)
  | comma
  | colon
  | lineBreak
  deriving DecidableEq, Repr

/-! ### The first line -/

/-- Whether the first token of a line is indented, as far as the line is read. -/
structure Indentation where
  /-- Whether a blank stands in front, behind the last form feed. -/
  blank : Bool
  /-- Whether a blank stood in front where the line was joined with the one before. -/
  joined : Bool
  deriving DecidableEq, Repr

/-- The beginning of a line. -/
def Indentation.start : Indentation := ⟨false, false⟩

/-- A text from its first token on, without the lines in front that hold none. There must be no
indentation in front of the token. -/
def fromFirstToken? (before : Indentation) (text : List Char) : Option (List Char) :=
  match text with
  | '\n' :: rest => fromFirstToken? .start rest
  | '\x0c' :: rest => fromFirstToken? { before with blank := false } rest
  | ' ' :: rest => fromFirstToken? { before with blank := true } rest
  | '\t' :: rest => fromFirstToken? { before with blank := true } rest
  | '\\' :: '\n' :: rest =>
    fromFirstToken? { before with joined := before.joined || before.blank } rest
  | '#' :: rest =>
    have : (rest.dropWhile (· != '\n')).length ≤ rest.length :=
      (List.dropWhile_sublist _).length_le
    fromFirstToken? before (rest.dropWhile (· != '\n'))
  | token => if before.blank || before.joined then none else some token
termination_by text.length

/-! ### The tokens -/

/-- Whether a character separates tokens of one line. -/
def isGap (c : Char) : Bool :=
  c == ' ' || c == '\t' || c == '\x0c'

/-- The names of the constants. -/
def constantNames : List String := ["True", "False", "None"]

/-- The token of a name and the text after it. A name directly in front of a quote says how the
quoted text is read. The letters of the constants are plain, those of the sets have any form. -/
def nameToken? (text : List Char) : Option (Token × List Char) :=
  let name := text.takeWhile isNameCharacter
  let after := text.dropWhile isNameCharacter
  if after.head? = some '\x27' ∨ after.head? = some '\x22' then
    (QuotedKind.ofName? name).bind fun kind =>
      (afterQuoted? kind after).map fun rest => (.quoted kind.octets, rest)
  else if constantNames.any fun constant => constant.toList == name then some (.constant, after)
  else if isFormOfWord "set".toList name then some (.setName, after)
  else none

/-- The token at the beginning of a text that begins with none of the separators, and the text after
it. -/
def token? : List Char → Option (Token × List Char)
  | [] => none
  | '\n' :: rest => some (.lineBreak, rest)
  | '+' :: rest => some (.sign, rest)
  | '-' :: rest => some (.sign, rest)
  | '(' :: rest => some (.opening .round, rest)
  | ')' :: rest => some (.closing .round, rest)
  | '\x7b' :: rest => some (.opening .curly, rest)
  | '\x7d' :: rest => some (.closing .curly, rest)
  | ',' :: rest => some (.comma, rest)
  | ':' :: rest => some (.colon, rest)
  | '.' :: '.' :: '.' :: rest => some (.constant, rest)
  | c :: rest =>
    if c.isDigit || (c == '.' && rest.head?.any Char.isDigit) then
      (number? (c :: rest)).map fun (kind, after) => (.number kind, after)
    else nameToken? (c :: rest)

/-- The tokens of a text from its first token on, unless it holds something else. -/
def tokens? (text : List Char) : Option (List Token) :=
  match text with
  | [] => some []
  | '\\' :: '\n' :: rest => tokens? rest
  | c :: rest =>
    if isGap c then tokens? rest
    else if c = '#' then
      have : (rest.dropWhile (· != '\n')).length ≤ rest.length :=
        (List.dropWhile_sublist _).length_le
      tokens? (rest.dropWhile (· != '\n'))
    else
      match token? (c :: rest) with
      | none => none
      | some (token, after) =>
        if after.length ≤ rest.length then (tokens? after).map (token :: ·) else none
termination_by text.length

end CatalogReader.Markup.Literal
