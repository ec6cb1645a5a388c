/-
Colours as the styles of rich name them, by the rules of `Color.parse`: the default colour, a colour
of the palette by its name or its number, and a colour by its three components. A colour is known by
its words in small letters.
-/

import CatalogReader.Text.Blank
import CatalogReader.Text.Cut
import CatalogReader.Text.LetterCase
import CatalogReader.Text.Ranges

namespace CatalogReader.Markup

open CatalogReader.Text

/-! ### Names of the palette -/

/-- The shades of grey that the palette numbers; both spellings of the word are names. -/
def greyShades : List String :=
  ["0", "3", "7", "11", "15", "19", "23", "27", "30", "35", "37", "39", "42", "46", "50", "53",
    "54", "58", "62", "63", "66", "69", "70", "74", "78", "82", "84", "85", "89", "93", "100"]

/-- The names of the palette other than the greys. -/
def paletteNames : List String :=
  ["black", "red", "green", "yellow", "blue", "magenta", "cyan", "white", "bright_black",
    "bright_red", "bright_green", "bright_yellow", "bright_blue", "bright_magenta", "bright_cyan",
    "bright_white", "navy_blue", "dark_blue", "blue3", "blue1", "dark_green", "deep_sky_blue4",
    "dodger_blue3", "dodger_blue2", "green4", "spring_green4", "turquoise4", "deep_sky_blue3",
    "dodger_blue1", "green3", "spring_green3", "dark_cyan", "light_sea_green", "deep_sky_blue2",
    "deep_sky_blue1", "spring_green2", "cyan3", "dark_turquoise", "turquoise2", "green1",
    "spring_green1", "medium_spring_green", "cyan2", "cyan1", "dark_red", "deep_pink4", "purple4",
    "purple3", "blue_violet", "orange4", "medium_purple4", "slate_blue3", "royal_blue1",
    "chartreuse4", "dark_sea_green4", "pale_turquoise4", "steel_blue", "steel_blue3",
    "cornflower_blue", "chartreuse3", "cadet_blue", "sky_blue3", "steel_blue1", "pale_green3",
    "sea_green3", "aquamarine3", "medium_turquoise", "chartreuse2", "sea_green2", "sea_green1",
    "aquamarine1", "dark_slate_gray2", "dark_magenta", "dark_violet", "purple", "light_pink4",
    "plum4", "medium_purple3", "slate_blue1", "yellow4", "wheat4", "light_slate_grey",
    "light_slate_gray", "medium_purple", "light_slate_blue", "dark_olive_green3",
    "dark_sea_green", "light_sky_blue3", "sky_blue2", "dark_sea_green3", "dark_slate_gray3",
    "sky_blue1", "chartreuse1", "light_green", "pale_green1", "dark_slate_gray1", "red3",
    "medium_violet_red", "magenta3", "dark_orange3", "indian_red", "hot_pink3", "medium_orchid3",
    "medium_orchid", "medium_purple2", "dark_goldenrod", "light_salmon3", "rosy_brown",
    "medium_purple1", "gold3", "dark_khaki", "navajo_white3", "light_steel_blue3",
    "light_steel_blue", "yellow3", "dark_sea_green2", "light_cyan3", "light_sky_blue1",
    "green_yellow", "dark_olive_green2", "dark_sea_green1", "pale_turquoise1", "deep_pink3",
    "magenta2", "hot_pink2", "orchid", "medium_orchid1", "orange3", "light_pink3", "pink3",
    "plum3", "violet", "light_goldenrod3", "tan", "misty_rose3", "thistle3", "plum2", "khaki3",
    "light_goldenrod2", "light_yellow3", "light_steel_blue1", "yellow2", "dark_olive_green1",
    "honeydew2", "light_cyan1", "red1", "deep_pink2", "deep_pink1", "magenta1", "orange_red1",
    "indian_red1", "hot_pink", "dark_orange", "salmon1", "light_coral", "pale_violet_red1",
    "orchid2", "orchid1", "orange1", "sandy_brown", "light_salmon1", "light_pink1", "pink1",
    "plum1", "gold1", "navajo_white1", "misty_rose1", "thistle1", "yellow1", "light_goldenrod1",
    "khaki1", "wheat1", "cornsilk1"]

/-- Whether a word is a name of the palette. -/
def isPaletteName (word : List Char) : Bool :=
  paletteNames.any (fun name => name.toList == word) ||
    greyShades.any fun shade =>
      "grey".toList ++ shade.toList == word || "gray".toList ++ shade.toList == word

/-! ### Numbers -/

/-- The decimal digits outside ASCII, in ranges of whole blocks from zero to nine, ascending. -/
def digitBlocks : List (Nat × Nat) :=
  [(0x0660, 0x0669), (0x06F0, 0x06F9), (0x07C0, 0x07C9), (0x0966, 0x096F), (0x09E6, 0x09EF),
   (0x0A66, 0x0A6F), (0x0AE6, 0x0AEF), (0x0B66, 0x0B6F), (0x0BE6, 0x0BEF), (0x0C66, 0x0C6F),
   (0x0CE6, 0x0CEF), (0x0D66, 0x0D6F), (0x0DE6, 0x0DEF), (0x0E50, 0x0E59), (0x0ED0, 0x0ED9),
   (0x0F20, 0x0F29), (0x1040, 0x1049), (0x1090, 0x1099), (0x17E0, 0x17E9), (0x1810, 0x1819),
   (0x1946, 0x194F), (0x19D0, 0x19D9), (0x1A80, 0x1A89), (0x1A90, 0x1A99), (0x1B50, 0x1B59),
   (0x1BB0, 0x1BB9), (0x1C40, 0x1C49), (0x1C50, 0x1C59), (0xA620, 0xA629), (0xA8D0, 0xA8D9),
   (0xA900, 0xA909), (0xA9D0, 0xA9D9), (0xA9F0, 0xA9F9), (0xAA50, 0xAA59), (0xABF0, 0xABF9),
   (0xFF10, 0xFF19), (0x104A0, 0x104A9), (0x10D30, 0x10D39), (0x11066, 0x1106F),
   (0x110F0, 0x110F9), (0x11136, 0x1113F), (0x111D0, 0x111D9), (0x112F0, 0x112F9),
   (0x11450, 0x11459), (0x114D0, 0x114D9), (0x11650, 0x11659), (0x116C0, 0x116C9),
   (0x11730, 0x11739), (0x118E0, 0x118E9), (0x11950, 0x11959), (0x11C50, 0x11C59),
   (0x11D50, 0x11D59), (0x11DA0, 0x11DA9), (0x16A60, 0x16A69), (0x16AC0, 0x16AC9),
   (0x16B50, 0x16B59), (0x1D7CE, 0x1D7FF), (0x1E140, 0x1E149), (0x1E2F0, 0x1E2F9),
   (0x1E950, 0x1E959), (0x1FBF0, 0x1FBF9)]

/-- Whether a character is a decimal digit of some script. -/
def isDecimalDigit (c : Char) : Bool :=
  c.isDigit || inRanges c.toNat digitBlocks

/-- The value of a decimal digit of some script. -/
def digitValue (c : Char) : Nat :=
  if c.isDigit then c.toNat - 0x30
  else
    match digitBlocks.find? fun block => block.1 ≤ c.toNat && c.toNat ≤ block.2 with
    | none => 0
    | some block => (c.toNat - block.1) % 10

/-- The value of a text of decimal digits. -/
def decimalValue (text : List Char) : Nat :=
  text.foldl (fun value c => value * 10 + digitValue c) 0

/-- Whether a text is a word, a text in parentheses behind it, and nothing more; then that text. -/
def argumentOf? (word : String) (text : List Char) : Option (List Char) :=
  let opening := word.toList ++ ['(']
  if opening.isPrefixOf text && text.getLast? == some ')' then
    some ((text.drop opening.length).dropLast)
  else none

/-! ### Colours -/

/-- How a word fails to be a colour. -/
inductive ColorFault where
  /-- It is none. -/
  | notAColor
  /-- It has the three components of a colour, and one of them is empty. -/
  | emptyComponent
  deriving DecidableEq, Repr

/-- The colour with three components in parentheses. -/
def ofComponents (word argument : List Char) : Except ColorFault (List Char) :=
  if argument.isEmpty || !argument.all (fun c => isDecimalDigit c || c == ',') then
    .error .notAColor
  else
    let components := pieces ',' argument
    if components.length ≠ 3 then .error .notAColor
    else if components.any List.isEmpty then .error .emptyComponent
    else if components.all fun component => decimalValue component ≤ 255 then .ok word
    else .error .notAColor

/-- The name of the colour that a word stands for. -/
def colorName (word : List Char) : Except ColorFault (List Char) :=
  let word := lower word
  if word == "default".toList || isPaletteName word then .ok word
  else
    match word with
    | '#' :: digits =>
      if digits.length = 6 && digits.all (fun c => c.isDigit || ('a' ≤ c && c ≤ 'f')) then .ok word
      else .error .notAColor
    | _ =>
      match argumentOf? "color" word with
      | some number =>
        if !number.isEmpty && number.length ≤ 3 && number.all Char.isDigit &&
            decimalValue number ≤ 255 then .ok word
        else .error .notAColor
      | none =>
        match argumentOf? "rgb" word with
        | some argument => ofComponents word argument
        | none => .error .notAColor

end CatalogReader.Markup
