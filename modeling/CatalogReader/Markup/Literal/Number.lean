/-
Numbers as literals, for the arguments of handlers, which rich hands to `literal_eval`: whole
numbers in four bases, numbers with a point or an exponent, and imaginary numbers, which end in a
letter. Single underscores may stand between digits. A whole number in decimal digits has no zeros
in front, unless it is zero, and a limited length.
-/

import CatalogReader.Text.Hex

namespace CatalogReader.Markup.Literal

open CatalogReader.Text

/-! ### Digits -/

/-- The digits behind the first one, with single underscores between them, and the text after them;
an underscore must have a digit behind it. -/
def moreDigits? (isDigit : Char → Bool) : List Char → Option (List Char × List Char)
  | [] => some ([], [])
  | '_' :: digit :: rest =>
    if isDigit digit then
      (moreDigits? isDigit rest).map fun (digits, after) => (digit :: digits, after)
    else none
  | c :: rest =>
    if isDigit c then
      (moreDigits? isDigit rest).map fun (digits, after) => (c :: digits, after)
    else if c = '_' then none
    else some ([], c :: rest)

/-- The digits at the beginning of a text, of which there is one at least, and the text after them.
-/
def digits? (isDigit : Char → Bool) : List Char → Option (List Char × List Char)
  | [] => none
  | c :: rest =>
    if isDigit c then
      (moreDigits? isDigit rest).map fun (digits, after) => (c :: digits, after)
    else none

/-! ### Numbers -/

/-- The two kinds of numbers. -/
inductive NumberKind where
  | real
  | imaginary
  deriving DecidableEq, Repr

/-- Whether a character may stand in a name. -/
def isNameCharacter (c : Char) : Bool :=
  c.isAlphanum || c == '_' || 0x80 ≤ c.toNat

/-- The text after a number, which no character of a name may follow directly. -/
def endNumber? (text : List Char) : Option (List Char) :=
  if text.head?.any isNameCharacter then none else some text

/-- The digits of the base that a letter behind a zero names. -/
def baseDigits? (letter : Char) : Option (Char → Bool) :=
  match letter.toLower with
  | 'x' => some isHexDigit
  | 'o' => some fun c => '0' ≤ c && c ≤ '7'
  | 'b' => some fun c => c == '0' || c == '1'
  | _ => none

/-- The text after the digits behind the letter of a base, in front of which an underscore may
stand. -/
def afterBase? (isDigit : Char → Bool) (text : List Char) : Option (List Char) :=
  let digits := if text.head? = some '_' then text.drop 1 else text
  (digits? isDigit digits).bind fun (_, after) => endNumber? after

/-- The text after the fraction of a number, and whether there is one. -/
def afterFraction? (text : List Char) : Option (Bool × List Char) :=
  match text with
  | '.' :: rest =>
    if rest.head?.any Char.isDigit then
      (digits? Char.isDigit rest).map fun (_, after) => (true, after)
    else some (true, rest)
  | _ => some (false, text)

/-- The text after the exponent of a number, and whether there is one. -/
def afterExponent? (text : List Char) : Option (Bool × List Char) :=
  match text with
  | [] => some (false, [])
  | letter :: rest =>
    if letter.toLower = 'e' then
      let unsigned := if rest.head? = some '+' ∨ rest.head? = some '-' then rest.drop 1 else rest
      (digits? Char.isDigit unsigned).map fun (_, after) => (true, after)
    else some (false, text)

/-- The most digits of a whole number in decimal digits. -/
def mostDigits : Nat := 4300

/-- Whether decimal digits may be a whole number. -/
def isWholeNumber (digits : List Char) : Bool :=
  digits.length ≤ mostDigits && (digits.head? != some '0' || digits.all (· == '0'))

/-- The kind of a number with these digits in front of its point, and the text after the number. -/
def decimalNumber? (whole text : List Char) : Option (NumberKind × List Char) := do
  let (hasFraction, text) ← afterFraction? text
  let (hasExponent, text) ← afterExponent? text
  match text with
  | letter :: rest =>
    if letter.toLower = 'j' then return (.imaginary, ← endNumber? rest)
  | [] => pure ()
  if hasFraction || hasExponent || isWholeNumber whole then return (.real, ← endNumber? text)
  else none

/-- The kind of the number at the beginning of a text, and the text after it. -/
def number? (text : List Char) : Option (NumberKind × List Char) :=
  match text with
  | '.' :: _ => decimalNumber? [] text
  | '0' :: letter :: rest =>
    match baseDigits? letter with
    | some isDigit => (afterBase? isDigit rest).map fun after => (.real, after)
    | none => (digits? Char.isDigit text).bind fun (whole, after) => decimalNumber? whole after
  | _ => (digits? Char.isDigit text).bind fun (whole, after) => decimalNumber? whole after

end CatalogReader.Markup.Literal
