/-
The forms of the small Latin letters that the compatibility forms of Unicode take for them:
full-width letters, the letters of the mathematical alphabets, and the raised, lowered and old
letters. A name written with such forms is the name written with the plain letters.
-/

namespace CatalogReader.Text

/-- The place of a small Latin letter in its alphabet. -/
def alphabetIndex (letter : Char) : Nat := letter.toNat - 0x61

/-- The places in the mathematical alphabets at which no letter stands; the letter that would stand
there is an older character. -/
def vacantForms : List Nat := [0x1D455, 0x1D4BA, 0x1D4BC, 0x1D4C4]

/-- The forms of a small letter in the mathematical alphabets, each of which has the capital letters
first. -/
def mathematicalForms (letter : Char) : List Nat :=
  ((List.range 13).map fun alphabet => 0x1D41A + 52 * alphabet + alphabetIndex letter).filter
    fun code => !vacantForms.contains code

/-- The full-width form of a small letter. -/
def fullWidthForm (letter : Char) : Nat := 0xFF41 + alphabetIndex letter

/-- The forms of the small letters that belong to no row of forms. -/
def scatteredForms : List (Char × List Nat) :=
  [('a', [0x00AA, 0x1D43, 0x2090]), ('b', [0x1D47]), ('c', [0x1D9C, 0x217D]),
   ('d', [0x1D48, 0x2146, 0x217E]), ('e', [0x1D49, 0x2091, 0x212F, 0x2147]), ('f', [0x1DA0]),
   ('g', [0x1D4D, 0x210A]), ('h', [0x02B0, 0x2095, 0x210E]),
   ('i', [0x1D62, 0x2071, 0x2139, 0x2148, 0x2170]), ('j', [0x02B2, 0x2149, 0x2C7C]),
   ('k', [0x1D4F, 0x2096]), ('l', [0x02E1, 0x2097, 0x2113, 0x217C]),
   ('m', [0x1D50, 0x2098, 0x217F]), ('n', [0x207F, 0x2099]),
   ('o', [0x00BA, 0x1D52, 0x2092, 0x2134]), ('p', [0x1D56, 0x209A]), ('q', [0x107A5]),
   ('r', [0x02B3, 0x1D63]), ('s', [0x017F, 0x02E2, 0x209B]), ('t', [0x1D57, 0x209C]),
   ('u', [0x1D58, 0x1D64]), ('v', [0x1D5B, 0x1D65, 0x2174]), ('w', [0x02B7]),
   ('x', [0x02E3, 0x2093, 0x2179]), ('y', [0x02B8]), ('z', [0x1DBB])]

/-- Whether a character is a small Latin letter or one of its forms. -/
def isFormOf (letter c : Char) : Bool :=
  c == letter || c.toNat == fullWidthForm letter || (mathematicalForms letter).contains c.toNat ||
    ((scatteredForms.lookup letter).getD []).contains c.toNat

/-- Whether a text is a word of small Latin letters, each in one of its forms. -/
def isFormOfWord : List Char → List Char → Bool
  | [], [] => true
  | letter :: letters, c :: text => isFormOf letter c && isFormOfWord letters text
  | _, _ => false

end CatalogReader.Text
