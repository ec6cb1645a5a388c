/-
Values of the JSON format, and their text as `render_json` asks for it. The text is plain ASCII,
with two blanks of indent for each level, one item or member on a line, and empty arrays and objects
closed on the spot. A character beyond U+FFFF is written as its two surrogates.
-/

import CatalogReader.Text.Hex

namespace CatalogReader

open CatalogReader.Text

/-- A JSON value. The members of an object keep their order. -/
inductive Json where
  | null
  | bool (value : Bool)
  | number (value : Int)
  | text (value : String)
  | array (items : List Json)
  | object (members : List (String × Json))
  deriving Repr, Inhabited

namespace Json

/-! ### Texts -/

/-- A unit of sixteen bits behind its escape. -/
def escapedUnit (unit : Nat) : List Char :=
  '\\' :: 'u' :: hexNumber .small 4 unit

/-- One character between the quotes. -/
def escapedChar (c : Char) : List Char :=
  let code := c.toNat
  if c = '"' then ['\\', '"']
  else if c = '\\' then ['\\', '\\']
  else if c = '\n' then ['\\', 'n']
  else if c = '\r' then ['\\', 'r']
  else if c = '\t' then ['\\', 't']
  else if code = 0x08 then ['\\', 'b']
  else if code = 0x0C then ['\\', 'f']
  else if 0x20 ≤ code ∧ code < 0x7F then [c]
  else if code < 0x10000 then escapedUnit code
  else
    escapedUnit (0xD800 + (code - 0x10000) / 0x400) ++
      escapedUnit (0xDC00 + (code - 0x10000) % 0x400)

/-- A text between its quotes. -/
def textLiteral (text : List Char) : List Char :=
  '"' :: text.flatMap escapedChar ++ ['"']

/-! ### Values -/

/-- A number in decimal digits, with a minus sign below zero. -/
def numberLiteral : Int → List Char
  | .ofNat value => Nat.toDigits 10 value
  | .negSucc value => '-' :: Nat.toDigits 10 (value + 1)

/-- A line break and the indent of a level. -/
def newLine (level : Nat) : List Char :=
  '\n' :: List.replicate (2 * level) ' '

mutual

/-- The text of a value on a level. -/
def write (level : Nat) : Json → List Char
  | null => ['n', 'u', 'l', 'l']
  | bool true => ['t', 'r', 'u', 'e']
  | bool false => ['f', 'a', 'l', 's', 'e']
  | number value => numberLiteral value
  | text value => textLiteral value.toList
  | array [] => ['[', ']']
  | array (first :: others) =>
    '[' :: newLine (level + 1) ++ write (level + 1) first ++ writeItems (level + 1) others ++
      newLine level ++ [']']
  | object [] => ['\x7b', '\x7d']
  | object ((name, first) :: others) =>
    '\x7b' :: newLine (level + 1) ++ textLiteral name.toList ++ [':', ' '] ++
      write (level + 1) first ++ writeMembers (level + 1) others ++ newLine level ++ ['\x7d']

/-- The items after the first one, each behind a comma and on its own line. -/
def writeItems (level : Nat) : List Json → List Char
  | [] => []
  | item :: rest => ',' :: newLine level ++ write level item ++ writeItems level rest

/-- The members after the first one, each behind a comma and on its own line. -/
def writeMembers (level : Nat) : List (String × Json) → List Char
  | [] => []
  | (name, value) :: rest =>
    ',' :: newLine level ++ textLiteral name.toList ++ [':', ' '] ++ write level value ++
      writeMembers level rest

end

/-- The text of a value. -/
def render (value : Json) : String :=
  String.ofList (write 0 value)

/-- The optional text as a value. -/
def ofOption : Option String → Json
  | none => null
  | some value => text value

end Json

end CatalogReader
