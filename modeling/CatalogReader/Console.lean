/-
The console, whose `print` is that of rich for a single text: a place for marked-up texts, with a
width and a table of emoji. A text is wrapped into lines, and each line ends with a line feed. A
console without a width has no room for lines.
-/

import CatalogReader.Markup.Block

namespace CatalogReader

/-- A console: the cells of its lines, and the emoji that it knows. -/
structure Console where
  width : Nat
  emoji : Markup.EmojiTable

namespace Console

/-- A console of eighty cells that knows no emoji. -/
def standard : Console := ⟨80, .empty⟩

/-- Each line with a line feed at its end. -/
def endLines (lines : List (List Char)) : List Char :=
  lines.flatMap (· ++ ['\n'])

/-- What a console shows for a marked-up text. -/
def printed (console : Console) (text : String) : Except Markup.Fault String := do
  let rendered ← Markup.render console.emoji text.toList
  if console.width = 0 then return ""
  let lines ← rendered.lines .natural .fold console.width
  return String.ofList (endLines lines)

theorem printed_eq_of_render {console : Console} {text : String} {rendered : Markup.Rendered}
    (read : Markup.render console.emoji text.toList = .ok rendered) :
    console.printed text =
      if console.width = 0 then .ok ""
      else (rendered.lines .natural .fold console.width).map fun lines =>
        String.ofList (endLines lines) := by
  unfold printed
  rw [read]
  dsimp only [bind, Except.bind]
  split
  · rfl
  · cases rendered.lines .natural .fold console.width <;> rfl

end Console

end CatalogReader
