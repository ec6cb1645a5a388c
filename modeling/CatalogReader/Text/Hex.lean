/-
Hexadecimal digits. Numbers are written with small or capital digits and read with either.
-/

namespace CatalogReader.Text

/-- The two spellings of the digits above nine. -/
inductive HexStyle where
  | small
  | capital
  deriving DecidableEq, Repr

/-- The digit for a value below sixteen. -/
def hexDigit (style : HexStyle) (value : Nat) : Char :=
  if value < 10 then Char.ofNat (0x30 + value)
  else
    match style with
    | .small => Char.ofNat (0x61 + (value - 10))
    | .capital => Char.ofNat (0x41 + (value - 10))

/-- A number with a fixed count of digits, the most significant one first. -/
def hexNumber (style : HexStyle) : (digits value : Nat) → List Char
  | 0, _ => []
  | digits + 1, value => hexNumber style digits (value / 16) ++ [hexDigit style (value % 16)]

/-- The value of a digit. -/
def hexValue? (c : Char) : Option Nat :=
  let code := c.toNat
  if 0x30 ≤ code ∧ code ≤ 0x39 then some (code - 0x30)
  else if 0x41 ≤ code ∧ code ≤ 0x46 then some (code - 0x41 + 10)
  else if 0x61 ≤ code ∧ code ≤ 0x66 then some (code - 0x61 + 10)
  else none

/-- Whether a character is a hexadecimal digit. -/
def isHexDigit (c : Char) : Bool := (hexValue? c).isSome

/-- A digit has the value it was made for. -/
theorem hexValue?_hexDigit (style : HexStyle) (value : Nat) (small : value < 16) :
    hexValue? (hexDigit style value) = some value := by
  have all : ∀ style : HexStyle, ∀ value : Fin 16,
      hexValue? (hexDigit style value) = some value.val := by
    intro style value
    cases style <;> revert value <;> decide
  exact all style ⟨value, small⟩

end CatalogReader.Text
