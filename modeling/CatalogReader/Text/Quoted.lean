/-
Texts as messages quote them, by the rules of `repr`. A text stands between apostrophes, or between
double quotes when it holds an apostrophe and no double quote. The quote in use and the backslash
are escaped, line breaks and tabs have their letters, and any other character that is not printable
is written as its number, so that a quoted text is one line of printable characters.
-/

import CatalogReader.Text.Hex
import CatalogReader.Text.Printable

namespace CatalogReader.Text

/-- The apostrophe. -/
def apostrophe : Char := '\x27'

/-- The double quote. -/
def doubleQuote : Char := '\x22'

/-- The quote that a text stands between. -/
def quoteFor (text : List Char) : Char :=
  if apostrophe ∈ text ∧ doubleQuote ∉ text then doubleQuote else apostrophe

/-- The number of a character, in the shortest of the three forms that holds it. -/
def numbered (c : Char) : List Char :=
  let code := c.toNat
  if code < 0x100 then '\\' :: 'x' :: hexNumber .small 2 code
  else if code < 0x10000 then '\\' :: 'u' :: hexNumber .small 4 code
  else '\\' :: 'U' :: hexNumber .small 8 code

/-- One character between the quotes. -/
def quotedChar (quote c : Char) : List Char :=
  if c = quote ∨ c = '\\' then ['\\', c]
  else if c = '\n' then ['\\', 'n']
  else if c = '\r' then ['\\', 'r']
  else if c = '\t' then ['\\', 't']
  else if isPrintable c then [c]
  else numbered c

/-- A text between its quotes. -/
def quoted (text : List Char) : List Char :=
  quoteFor text :: text.flatMap (quotedChar (quoteFor text)) ++ [quoteFor text]

/-- A text as a message quotes it. -/
def quote (text : String) : String :=
  String.ofList (quoted text.toList)

/-- A text that may be missing; a missing one is the bare word `None`. -/
def quoteOption : Option String → String
  | none => "None"
  | some text => quote text

end CatalogReader.Text
