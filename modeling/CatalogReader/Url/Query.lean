/-
Queries as lists of fields, by the rules of `parse_qsl`, which keeps blank values, and `urlencode`,
for which the asterisk is safe. Pieces between ampersands that are not empty are fields; a field is
a name and a value, which is empty when there is no equals sign. In both a plus sign stands for a
space and a percent sign with two hexadecimal digits for an octet of UTF-8. Writing escapes all
characters but the unreserved ones and the asterisk.
-/

import CatalogReader.Text.Cut
import CatalogReader.Text.Hex
import CatalogReader.Text.Utf8

namespace CatalogReader.Url

open CatalogReader.Text

/-- A name and its value. -/
structure Field where
  name : List Char
  value : List Char
  deriving DecidableEq, Repr

/-! ### Reading -/

/-- The octets that a coded text stands for. A percent sign without two digits is itself. -/
def octetsOfCoded : List Char → List UInt8
  | [] => []
  | '+' :: rest => 0x20 :: octetsOfCoded rest
  | '%' :: high :: low :: rest =>
    match hexValue? high, hexValue? low with
    | some upper, some lower => UInt8.ofNat (upper * 16 + lower) :: octetsOfCoded rest
    | _, _ => 0x25 :: octetsOfCoded (high :: low :: rest)
  | c :: rest => String.utf8EncodeChar c ++ octetsOfCoded rest

/-- The text that a coded text stands for. -/
def decodeText (coded : List Char) : List Char :=
  decodeUtf8 (octetsOfCoded coded)

/-- The field that a piece of a query stands for. -/
def fieldOfPiece (piece : List Char) : Field :=
  match cutFirst? '=' piece with
  | none => ⟨decodeText piece, []⟩
  | some (name, value) => ⟨decodeText name, decodeText value⟩

/-- The fields of a query, in order. -/
def fieldsOfQuery (query : List Char) : List Field :=
  ((pieces '&' query).filter fun piece => !piece.isEmpty).map fieldOfPiece

/-! ### Writing -/

/-- Whether a character is written as it is. -/
def isUnreserved (c : Char) : Bool :=
  c.isAlphanum || c == '_' || c == '.' || c == '-' || c == '~' || c == '*'

/-- An octet behind a percent sign. -/
def percentCoded (octet : UInt8) : List Char :=
  '%' :: hexNumber .capital 2 octet.toNat

/-- One character in its coded form. -/
def encodeChar (c : Char) : List Char :=
  if c = ' ' then ['+']
  else if isUnreserved c then [c]
  else (String.utf8EncodeChar c).flatMap percentCoded

/-- A text in its coded form. -/
def encodeText (text : List Char) : List Char :=
  text.flatMap encodeChar

/-- A field as a piece of a query. -/
def pieceOfField (field : Field) : List Char :=
  encodeText field.name ++ '=' :: encodeText field.value

/-- Fields as a query. -/
def queryOfFields (fields : List Field) : List Char :=
  join '&' (fields.map pieceOfField)

end CatalogReader.Url
