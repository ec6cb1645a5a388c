/-
Texts in quotes as literals, for the arguments of handlers, which rich hands to `literal_eval`. A
text stands between two equal quotes, or between two triples of them, and then it may hold line
feeds. A backslash takes the character behind it along. A text of octets holds ASCII only; a raw
text keeps its backslashes, and in any other one those that stand for a character by its number or
its name must be complete.
-/

import CatalogReader.Text.Hex

namespace CatalogReader.Markup.Literal

open CatalogReader.Text

/-- How a text in quotes is read. -/
structure QuotedKind where
  octets : Bool
  raw : Bool
  deriving DecidableEq, Repr

/-- The kind of the texts behind a name. -/
def QuotedKind.ofName? (name : List Char) : Option QuotedKind :=
  match name.map Char.toLower with
  | [] => some ⟨false, false⟩
  | ['u'] => some ⟨false, false⟩
  | ['r'] => some ⟨false, true⟩
  | ['b'] => some ⟨true, false⟩
  | ['b', 'r'] => some ⟨true, true⟩
  | ['r', 'b'] => some ⟨true, true⟩
  | _ => none

/-- The text up to the quotes that end it, and the text after them. -/
def untilQuotes? (ending : List Char) : List Char → Option (List Char × List Char)
  | [] => none
  | '\\' :: c :: rest =>
    (untilQuotes? ending rest).map fun (before, after) => ('\\' :: c :: before, after)
  | c :: rest =>
    if ending.isPrefixOf (c :: rest) then some ([], (c :: rest).drop ending.length)
    else if c = '\n' ∧ ending.length = 1 then none
    else (untilQuotes? ending rest).map fun (before, after) => (c :: before, after)

/-- Whether a text begins with so many hexadecimal digits. -/
def beginsWithHex (count : Nat) (text : List Char) : Bool :=
  (text.take count).length == count && (text.take count).all isHexDigit

/-- The value of hexadecimal digits. -/
def hexValue (digits : List Char) : Nat :=
  digits.foldl (fun value digit => value * 16 + (hexValue? digit).getD 0) 0

/-- Whether a text begins with the name of a character between braces. -/
def beginsWithName (text : List Char) : Bool :=
  match text with
  | '\x7b' :: rest =>
    let name := rest.takeWhile fun c => c.isAlphanum || c == ' ' || c == '-'
    !name.isEmpty && (rest.drop name.length).head? == some '\x7d'
  | _ => false

/-- Whether what follows a backslash is complete. -/
def isCompleteEscape (octets : Bool) : List Char → Bool
  | 'x' :: rest => beginsWithHex 2 rest
  | 'u' :: rest => octets || beginsWithHex 4 rest
  | 'U' :: rest => octets || (beginsWithHex 8 rest && hexValue (rest.take 8) ≤ 0x10FFFF)
  | 'N' :: rest => octets || beginsWithName rest
  | _ => true

/-- Whether what follows each backslash of a text is complete. -/
def escapesComplete (octets : Bool) : List Char → Bool
  | [] => true
  | '\\' :: c :: rest => isCompleteEscape octets (c :: rest) && escapesComplete octets rest
  | _ :: rest => escapesComplete octets rest

/-- Whether a text may stand between the quotes of a kind. -/
def QuotedKind.allows (kind : QuotedKind) (body : List Char) : Bool :=
  (!kind.octets || body.all fun c => c.toNat < 0x80) &&
    (kind.raw || escapesComplete kind.octets body)

/-- The text after a text in quotes, whose first quote stands in front. -/
def afterQuoted? (kind : QuotedKind) : List Char → Option (List Char)
  | [] => none
  | quote :: rest =>
    let triple := [quote, quote].isPrefixOf rest
    let ending := List.replicate (if triple then 3 else 1) quote
    match untilQuotes? ending (if triple then rest.drop 2 else rest) with
    | none => none
    | some (body, after) => if kind.allows body then some after else none

end CatalogReader.Markup.Literal
