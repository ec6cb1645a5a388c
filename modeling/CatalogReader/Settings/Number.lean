/-
Integers as settings give them, by the rules of pydantic for a field that is an integer. A text is
an integer when it is one after trimming: a sign if one likes, digits with single underscores
between them, and a point with zeros behind it if one likes. Zeros in front are dropped, and
underscores between them with them; what they leave may begin with the minus sign. A number with a
point is an integer when it has no fraction and fits into 64 bits.
-/

import CatalogReader.Rounding
import CatalogReader.Text.Blank
import CatalogReader.Text.Cut

namespace CatalogReader.Settings

open CatalogReader.Text

/-- How a value fails to be an integer. -/
inductive IntegerFault where
  /-- A text that is no integer. -/
  | unreadable
  /-- An integer that is too large, or that is written with too many characters. -/
  | tooLarge
  /-- A number with a fraction. -/
  | fractional
  deriving DecidableEq, Repr

/-! ### Texts -/

/-- The value of digits. -/
def valueOfDigits (digits : List Char) : Nat :=
  digits.foldl (fun value digit => value * 10 + (digit.toNat - 0x30)) 0

/-- A text without the point and the zeros at its end, unless the point has no zeros behind it or
other characters. -/
def dropZeroFraction (text : List Char) : Option (List Char) :=
  match cutFirst? '.' text with
  | none => some text
  | some (whole, fraction) =>
    if !fraction.isEmpty && fraction.all (· == '0') then some whole else none

/-- Whether a character may follow the zeros in front of an integer: another digit or the minus
sign. -/
def followsZeros (c : Char) : Bool :=
  ('1' ≤ c && c ≤ '9') || c == '-'

/-- A text without the zeros in front of it and the underscores among them. Of a text that holds
nothing else a zero is left, provided that it ends in one. -/
def dropLeadingZeros? (text : List Char) : Option (List Char) :=
  match text with
  | '0' :: rest =>
    match rest.dropWhile fun c => c == '0' || c == '_' with
    | [] => if text.getLast? = some '0' then some ['0'] else none
    | c :: more => if followsZeros c then some (c :: more) else none
  | c :: rest => if followsZeros c then some (c :: rest) else none
  | [] => none

/-- A text without its underscores, unless one of them stands at an end or beside another one. -/
def dropUnderscores (text : List Char) : List Char :=
  let groups := pieces '_' text
  if groups.all fun group => !group.isEmpty then groups.flatten else text

/-- The most characters of an integer, its sign included. -/
def mostCharacters : Nat := 4300

/-- The magnitude of an integer whose sign has so many characters. -/
def magnitudeOf (signLength : Nat) (text : List Char) : Except IntegerFault Nat :=
  let digits := text.takeWhile Char.isDigit
  if digits.head? = some '0' then if text = ['0'] then .ok 0 else .error .unreadable
  else if mostCharacters < signLength + digits.length then .error .tooLarge
  else if digits.isEmpty || digits.length < text.length then .error .unreadable
  else .ok (valueOfDigits digits)

/-- The integer of a text without zeros in front. -/
def signedInteger : List Char → Except IntegerFault Int
  | '-' :: text => (magnitudeOf 1 text).map fun value => -(value : Int)
  | text => (magnitudeOf 0 text).map Int.ofNat

/-- A trimmed text without a plus sign, the zeros in front, the zeros behind its point, and
underscores. -/
def plainInteger? (text : List Char) : Option (List Char) :=
  match dropZeroFraction text with
  | none => none
  | some ('+' :: '-' :: _) => none
  | some ('+' :: rest) => (dropLeadingZeros? rest).map dropUnderscores
  | some ('-' :: rest) =>
    (dropLeadingZeros? rest).map fun digits => dropUnderscores ('-' :: digits)
  | some rest => (dropLeadingZeros? rest).map dropUnderscores

/-- The integer that a text stands for. -/
def integerOfText (text : String) : Except IntegerFault Int :=
  match plainInteger? (trimBy isWhiteSpace text.toList) with
  | none => .error .unreadable
  | some plain => signedInteger plain

/-! ### Numbers with a point -/

/-- The bits that the whole part of a number has at least when its unit is one or more. -/
def wholeBits : Nat := 52

/-- The whole number of a magnitude with decimal places that has no fraction. From its 53rd bit on a
number is rounded to 53 bits, which leaves no fraction. -/
def wholeOf? (digits places : Nat) : Option Nat :=
  let scale := Nat.pow 10 places
  let whole := digits / scale
  if whole < Nat.pow 2 wholeBits then if digits % scale = 0 then some whole else none
  else
    let unit := Nat.pow 2 (whole.log2 - wholeBits)
    some (nearestQuotient digits (scale * unit) * unit)

/-- The integer of a number with decimal places. -/
def integerOfDecimal (digits : Int) (places : Nat) : Except IntegerFault Int :=
  match wholeOf? digits.natAbs places with
  | none => .error .fractional
  | some whole => if whole < Nat.pow 2 63 then .ok (digits.sign * whole) else .error .tooLarge

end CatalogReader.Settings
