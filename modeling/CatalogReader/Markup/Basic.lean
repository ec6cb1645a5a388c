/-
Markup in texts for the console, by the rules of rich: what `render` of its markup module makes of a
text that is given to `Console.print` or stands in a cell of a table. A tag is a bracket, a letter
or one of three signs, and text up to the first closing bracket. Tags set styles, which a plain
console does not show, so a rendered text is the marked-up text without its tags. A backslash in
front of a tag makes the tag literal, and two make one backslash. A closing tag must close a tag
that is open. The codes of emoji are replaced in what stands between two tags, and last the
characters that would move the cursor are left out.

Behind an equals sign a tag has parameters. Those of a tag whose name begins with an at sign are the
call of a handler, whose argument must be a literal when the tag is closed. Those of any other tag
are more words of its style.
-/

import CatalogReader.Markup.Literal.Reading
import CatalogReader.Markup.Emoji
import CatalogReader.Markup.Style
import CatalogReader.Text.Span
import CatalogReader.Text.WordCharacter

namespace CatalogReader.Markup

open CatalogReader.Text

/-! ### Pieces of a marked-up text -/

/-- A piece of a marked-up text. -/
inductive Piece where
  /-- Text between tags. -/
  | plain (text : List Char)
  /-- The text of a tag, without its brackets. -/
  | tag (text : List Char)
  deriving DecidableEq, Repr

/-- Whether a character may be the first one of a tag. -/
def opensTag (c : Char) : Bool :=
  ('a' ≤ c && c ≤ 'z') || c == '#' || c == '/' || c == '@'

/-- The text of the tag that begins behind an opening bracket, and the text after its closing one.
-/
def tagAfterBracket? (text : List Char) : Option (List Char × List Char) :=
  match text with
  | [] => none
  | first :: _ =>
    if opensTag first then
      match cutFirst? ']' text with
      | none => none
      | some (inner, after) => if inner.contains '[' then none else some (inner, after)
    else none

theorem length_tagAfterBracket? (text inner after : List Char)
    (found : tagAfterBracket? text = some (inner, after)) : after.length < text.length := by
  unfold tagAfterBracket? at found
  split at found
  · cases found
  · split at found
    · split at found
      · cases found
      case h_2 cut =>
        split at found
        · cases found
        · cases found
          have split := ((cutFirst?_eq_some_iff ']' _ _ _).1 cut).1
          rw [split]
          simp only [List.length_append, List.length_cons]
          omega
    · cases found

/-- The plain piece of a text, unless the text is empty. -/
def plainPiece (text : List Char) : List Piece :=
  if text.isEmpty then [] else [.plain text]

/-- The pieces of a text behind `before`, the text since the last tag in reverse order. -/
def piecesAfter (before : List Char) : List Char → List Piece
  | [] => plainPiece before.reverse
  | '[' :: rest =>
    match found : tagAfterBracket? rest with
    | none => piecesAfter ('[' :: before) rest
    | some (inner, after) =>
      have : after.length < rest.length := length_tagAfterBracket? rest inner after found
      let backslashes := (before.takeWhile (· == '\\')).length
      let text := (before.drop backslashes).reverse
      let kept := List.replicate (backslashes / 2) '\\'
      let here := if backslashes % 2 = 0 then .tag inner else .plain ('[' :: inner ++ [']'])
      plainPiece text ++ plainPiece kept ++ here :: piecesAfter [] after
  | c :: rest => piecesAfter (c :: before) rest
termination_by text => text.length

/-- The pieces of a marked-up text. -/
def piecesOf (text : List Char) : List Piece :=
  piecesAfter [] text

/-! ### Rendering -/

/-- Why a marked-up text cannot be rendered. -/
inductive Fault where
  /-- A closing tag closes nothing. -/
  | nothingToClose
  /-- The argument of a handler is no literal. -/
  | argumentNotLiteral
  /-- A tag names a colour with an empty component. -/
  | emptyComponent
  deriving DecidableEq, Repr

/-- Without the backslash of each backslash in front of an opening bracket. -/
def unescapeBrackets : List Char → List Char
  | '\\' :: '[' :: rest => '[' :: unescapeBrackets rest
  | c :: rest => c :: unescapeBrackets rest
  | [] => []

/-- The characters that are never shown: the bell, the backspace and the vertical movements other
than the line feed. -/
def isDeleted (c : Char) : Bool :=
  [0x07, 0x08, 0x0B, 0x0C, 0x0D].contains c.toNat

/-- What is shown of a text in which brackets and backslashes have no meaning. -/
def shownText (emoji : EmojiTable) (text : List Char) : List Char :=
  (emoji.replaceCodes text).filter fun c => !isDeleted c

/-- What is shown of a text between tags. -/
def shownPlain (emoji : EmojiTable) (text : List Char) : List Char :=
  shownText emoji (unescapeBrackets text)

/-- The normal form of the style of a tag. -/
def tagName (text : List Char) : Except Fault (List Char) :=
  (normalizeStyle text).mapError fun _ => .emptyComponent

/-- A tag that is open since a position of the rendered text. -/
structure OpenTag where
  name : List Char
  parameters : Option (List Char)
  start : Nat
  deriving DecidableEq, Repr

/-- The words of the style that a tag sets. -/
def OpenTag.style (tag : OpenTag) : List Char :=
  match tag.parameters with
  | none => tag.name
  | some parameters => tag.name ++ ' ' :: parameters

/-- The span of a tag that is closed at a position. -/
def OpenTag.span (tag : OpenTag) (stop : Nat) : Span :=
  ⟨tag.start, stop, tag.style⟩

/-- The argument of a handler's call: what the name of the handler is followed by in parentheses,
and an empty pair of them when there is none. Parameters that are no call are the argument. -/
def handlerArgument (parameters : List Char) : List Char :=
  let text := trim parameters
  let call := text.dropWhile fun c => isWordCharacter c || c == '.'
  if call.isEmpty then "()".toList
  else if call.head? = some '(' ∧ call.getLast? = some ')' ∧ '\n' ∉ call then call
  else text

/-- Whether a tag may be closed. -/
def OpenTag.isSound (tag : OpenTag) : Bool :=
  tag.name.head? != some '@' || (tag.parameters.getD []).isEmpty ||
    Literal.isLiteral (handlerArgument (tag.parameters.getD []))

/-- A rendered text and the spans of its styles. -/
structure Rendered where
  text : List Char
  spans : List Span
  deriving DecidableEq, Repr

/-- What is rendered so far: the text, its spans, and the open tags, the last one first. -/
structure Rendering where
  text : List Char
  spans : List Span
  opened : List OpenTag

namespace Rendering

/-- Nothing is rendered. -/
def start : Rendering := ⟨[], [], []⟩

/-- A rendering with more text. -/
def append (rendering : Rendering) (text : List Char) : Rendering :=
  { rendering with text := rendering.text ++ text }

/-- A rendering with one more open tag. -/
def openTag (rendering : Rendering) (name : List Char) (parameters : Option (List Char)) :
    Rendering :=
  { rendering with opened := ⟨name, parameters, rendering.text.length⟩ :: rendering.opened }

/-- A rendering with one of its open tags closed. -/
def closeTag (rendering : Rendering) (tag : OpenTag) : Except Fault Rendering :=
  if tag.isSound then
    .ok { rendering with
      spans := rendering.spans ++ [tag.span rendering.text.length]
      opened := rendering.opened.erase tag }
  else .error .argumentNotLiteral

/-- A rendering behind a tag. -/
def tag (rendering : Rendering) (text : List Char) : Except Fault Rendering :=
  let (name, parameters) :=
    match cutFirst? '=' text with
    | none => (text, none)
    | some (name, parameters) => (name, some parameters)
  match name with
  | '/' :: closed =>
    let closed := trim closed
    if closed.isEmpty then
      match rendering.opened with
      | [] => .error .nothingToClose
      | last :: _ => rendering.closeTag last
    else
      match tagName closed with
      | .error fault => .error fault
      | .ok normal =>
        match rendering.opened.find? fun other => other.name == normal with
        | none => .error .nothingToClose
        | some other => rendering.closeTag other
  | _ => (tagName name).map fun normal => rendering.openTag normal parameters

/-- A rendering with more pieces, or the fault of the first tag that has one. -/
def pieces (emoji : EmojiTable) (rendering : Rendering) : List Piece → Except Fault Rendering
  | [] => .ok rendering
  | .plain text :: rest => (rendering.append (shownPlain emoji text)).pieces emoji rest
  | .tag text :: rest =>
    match rendering.tag text with
    | .error fault => .error fault
    | .ok next => next.pieces emoji rest

/-- The rendered text; tags that are open last to its end. -/
def finish (rendering : Rendering) : Rendered :=
  ⟨rendering.text,
    rendering.spans ++ rendering.opened.map fun tag => tag.span rendering.text.length⟩

end Rendering

/-- The text that a marked-up text shows, and its spans. -/
def render (emoji : EmojiTable) (text : List Char) : Except Fault Rendered :=
  if text.contains '[' then (Rendering.start.pieces emoji (piecesOf text)).map Rendering.finish
  else .ok ⟨shownText emoji text, []⟩

end CatalogReader.Markup
