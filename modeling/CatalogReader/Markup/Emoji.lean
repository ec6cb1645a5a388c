/-
Emoji codes in texts for the console, by the rules of rich for the replacing of emoji. A name
without blanks between two colons is a code, and stands for the emoji of that name in small letters.
A name that ends in `-emoji` or in `-text` asks for a variant of an emoji, which a selector behind
it stands for. A code whose name is not known stays as it is, and its second colon begins no other
code.

Which names there are is not settled here: a console comes with its table of emoji.
-/

import CatalogReader.Text.Blank
import CatalogReader.Text.Cut
import CatalogReader.Text.LetterCase

namespace CatalogReader.Markup

open CatalogReader.Text

/-- The names of emoji, in small letters, and the emoji. No emoji is written with a colon. -/
structure EmojiTable where
  entries : List (List Char × List Char)
  uncoloned : ∀ entry ∈ entries, ':' ∉ entry.2

/-- The endings of the names that ask for a variant, and the selectors of the variants. -/
def emojiVariants : List (List Char × Char) :=
  [("-emoji".toList, '\uFE0F'), ("-text".toList, '\uFE0E')]

namespace EmojiTable

/-- The table without emoji. -/
def empty : EmojiTable := ⟨[], nofun⟩

variable (table : EmojiTable)

/-- The emoji of a name. -/
def named? (name : List Char) : Option (List Char) :=
  table.entries.lookup (lower name)

/-- What stands for a code whose name is known. -/
def ofCode? (code : List Char) : Option (List Char) :=
  match emojiVariants.find? fun variant => variant.1.isSuffixOf code with
  | none => table.named? code
  | some (ending, selector) =>
    (table.named? (code.take (code.length - ending.length))).map (· ++ [selector])

/-- The text behind a colon, in the pieces between the colons that follow, with its codes replaced.
-/
def replaceBetween : List (List Char) → List Char
  | name :: next :: rest =>
    if name.any isBlank then ':' :: name ++ replaceBetween (next :: rest)
    else (table.ofCode? name).getD (':' :: name ++ [':']) ++ next ++ replaceBetween rest
  | [last] => ':' :: last
  | [] => []

/-- A text with its codes replaced. -/
def replaceCodes (text : List Char) : List Char :=
  match pieces ':' text with
  | first :: rest => first ++ table.replaceBetween rest
  | [] => []

end EmojiTable

end CatalogReader.Markup
