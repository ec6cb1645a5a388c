/-
Paths of files in the normal form of `Path`. Single dots and repeated slashes mean nothing and are
dropped; double dots stay, since what they mean depends on the files. A path begins at the working
directory, at the root, or at the second root that exactly two slashes stand for.
-/

import CatalogReader.Text.Cut

namespace CatalogReader

open CatalogReader.Text

/-- Where a path begins. -/
inductive PathStart where
  | here
  | root
  | secondRoot
  deriving DecidableEq, Repr

/-- What stands in front of the components of a path. -/
def PathStart.text : PathStart → List Char
  | here => []
  | root => ['/']
  | secondRoot => ['/', '/']

/-- A path: where it begins, and its components. -/
structure Path where
  start : PathStart
  components : List (List Char)
  deriving DecidableEq, Repr

namespace Path

/-- Where a written path begins. -/
def startOf : List Char → PathStart
  | '/' :: '/' :: '/' :: _ => .root
  | '/' :: '/' :: _ => .secondRoot
  | '/' :: _ => .root
  | _ => .here

/-- Whether a component means something. -/
def isComponent (component : List Char) : Bool :=
  !component.isEmpty && component != ['.']

/-- The path that a text stands for. -/
def ofText (text : String) : Path :=
  ⟨startOf text.toList, (pieces '/' text.toList).filter isComponent⟩

/-- The text of a path. The working directory itself is a dot. -/
def toText (path : Path) : String :=
  if path.start = .here ∧ path.components = [] then "."
  else String.ofList (path.start.text ++ join '/' path.components)

end Path

end CatalogReader
