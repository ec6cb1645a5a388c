/-
Styles as tags name them, in the normal form that `Style.normalize` of rich gives them. A style is a
list of words: attributes, attributes behind `not`, a colour, a background behind `on` and a link
behind `link`. Two tags match when the normal forms of their styles are equal; a text that is no
style is its own normal form, trimmed and in small letters.
-/

import CatalogReader.Markup.Color

namespace CatalogReader.Markup

open CatalogReader.Text

/-! ### Attributes -/

/-- The attributes in the order in which a normal form lists them. -/
inductive Attribute where
  | bold
  | dim
  | italic
  | underline
  | blink
  | blink2
  | reverse
  | conceal
  | strike
  | underline2
  | frame
  | encircle
  | overline
  deriving DecidableEq, Repr

namespace Attribute

/-- All attributes in the order of a normal form. -/
def all : List Attribute :=
  [bold, dim, italic, underline, blink, blink2, reverse, conceal, strike, underline2, frame,
    encircle, overline]

/-- The name of an attribute. -/
def name : Attribute → String
  | bold => "bold"
  | dim => "dim"
  | italic => "italic"
  | underline => "underline"
  | blink => "blink"
  | blink2 => "blink2"
  | reverse => "reverse"
  | conceal => "conceal"
  | strike => "strike"
  | underline2 => "underline2"
  | frame => "frame"
  | encircle => "encircle"
  | overline => "overline"

/-- The short name of an attribute that has one. -/
def shortName? : Attribute → Option String
  | bold => some "b"
  | dim => some "d"
  | italic => some "i"
  | underline => some "u"
  | reverse => some "r"
  | conceal => some "c"
  | strike => some "s"
  | underline2 => some "uu"
  | overline => some "o"
  | _ => none

/-- The attribute that a word names. -/
def ofWord? (word : List Char) : Option Attribute :=
  all.find? fun feature =>
    feature.name.toList == word || feature.shortName?.map String.toList == some word

end Attribute

/-! ### Styles -/

/-- A style: the attributes that are set on or off, the names of its colours, and a link. -/
structure Style where
  attributes : List (Attribute × Bool)
  color : Option (List Char)
  background : Option (List Char)
  link : Option (List Char)

/-- The style without words. -/
def Style.plain : Style := ⟨[], none, none, none⟩

/-- How a text fails to be a style. -/
inductive StyleFault where
  /-- It is none. -/
  | notAStyle
  /-- One of its colours has an empty component. -/
  | emptyComponent
  deriving DecidableEq, Repr

/-- A fault of a colour as a fault of the style it is in. -/
def StyleFault.ofColorFault : ColorFault → StyleFault
  | .notAColor => .notAStyle
  | .emptyComponent => .emptyComponent

/-- The name of the colour that a word of a style stands for. -/
def styleColor (word : List Char) : Except StyleFault (List Char) :=
  (colorName word).mapError StyleFault.ofColorFault

/-- The style that further words make of a style. The word behind `not` is taken as it is written,
and every other attribute in small letters. -/
def Style.addWords (style : Style) : List (List Char) → Except StyleFault Style
  | [] => .ok style
  | word :: rest =>
    let small := lower word
    if small == "on".toList then
      match rest with
      | [] => .error .notAStyle
      | color :: others =>
        match styleColor color with
        | .error fault => .error fault
        | .ok name => Style.addWords { style with background := some name } others
    else if small == "not".toList then
      match rest with
      | [] => .error .notAStyle
      | negated :: others =>
        match Attribute.ofWord? negated with
        | none => .error .notAStyle
        | some feature =>
          Style.addWords { style with attributes := (feature, false) :: style.attributes } others
    else if small == "link".toList then
      match rest with
      | [] => .error .notAStyle
      | target :: others => Style.addWords { style with link := some target } others
    else
      match Attribute.ofWord? small with
      | some feature =>
        Style.addWords { style with attributes := (feature, true) :: style.attributes } rest
      | none =>
        match styleColor word with
        | .error fault => .error fault
        | .ok name => Style.addWords { style with color := some name } rest

/-- The style that a text names. -/
def Style.ofText (text : List Char) : Except StyleFault Style :=
  if trim text == "none".toList then .ok .plain else Style.plain.addWords (words text)

/-- The words that set an attribute as the last word about it does. -/
def Style.attributeWords (style : Style) (feature : Attribute) : List (List Char) :=
  match style.attributes.find? fun entry => entry.1 == feature with
  | none => []
  | some (_, true) => [feature.name.toList]
  | some (_, false) => ["not".toList, feature.name.toList]

/-- The words of a style in their normal order. -/
def Style.words (style : Style) : List (List Char) :=
  Attribute.all.flatMap style.attributeWords ++ style.color.toList ++
    (style.background.map fun color => ["on".toList, color]).getD [] ++
    (style.link.map fun target => ["link".toList, target]).getD []

/-- The text of a style; the plain style is called `none`. -/
def Style.toText (style : Style) : List Char :=
  match style.words with
  | [] => "none".toList
  | words => join ' ' words

/-- The normal form of a text as a style. Only a colour with an empty component has none. -/
def normalizeStyle (text : List Char) : Except StyleFault (List Char) :=
  match Style.ofText text with
  | .ok style => .ok style.toText
  | .error .notAStyle => .ok (lower (trim text))
  | .error .emptyComponent => .error .emptyComponent

end CatalogReader.Markup
