/-
Files from the root on, and what becomes of them when a path is opened for writing, by the rules of
POSIX. The components of a path are looked up one after the other; all but the last one must be
directories, and the last one must not be one. Two dots lead to the directory above, which for the
root is the root itself. A path that does not begin at the root begins at the working directory.
There are no links, and every directory may be written in.
-/

import CatalogReader.Files.Path

namespace CatalogReader

open CatalogReader.Text

/-- Why a file cannot be written. -/
inductive FileFault where
  | notFound
  | isDirectory
  | notDirectory
  | nameTooLong
  | other (reason : String)
  deriving DecidableEq, Repr

/-- The reason that a fault gives. -/
def FileFault.reason : FileFault → String
  | notFound => "No such file or directory"
  | isDirectory => "Is a directory"
  | notDirectory => "Not a directory"
  | nameTooLong => "File name too long"
  | other reason => reason

/-- What may stand at a place. -/
inductive FileNode where
  | directory
  | file (text : String)
  deriving DecidableEq, Repr

/-- A place, by its components from the root. -/
abbrev Place := List (List Char)

/-- What stands at the places, and the place of the working directory. -/
structure FileTree where
  nodes : List (Place × FileNode)
  here : Place
  deriving DecidableEq, Repr

namespace FileTree

/-- No files, and the root as the working directory. -/
def empty : FileTree := ⟨[], []⟩

/-- What stands at a place. -/
def node? (tree : FileTree) (place : Place) : Option FileNode :=
  if place.isEmpty then some .directory
  else (tree.nodes.find? fun entry => entry.1 == place).map Prod.snd

/-- The octets of a text. -/
def octets (text : List Char) : Nat :=
  text.foldr (fun c count => c.utf8Size + count) 0

/-- The longest component that can be looked up, in octets. -/
def longestComponent : Nat := 255

/-- The octets at which a path becomes too long. -/
def pathLimit : Nat := 4096

/-- The component that leads to the directory above. -/
def above : List Char := ['.', '.']

/-- The place of the file that components lead to from a directory. -/
def locateFrom (tree : FileTree) (directory : Place) : List (List Char) → Except FileFault Place
  | [] => .error .isDirectory
  | component :: rest =>
    if component = above then locateFrom tree directory.dropLast rest
    else if longestComponent < octets component then .error .nameTooLong
    else
      let place := directory ++ [component]
      match tree.node? place, rest.isEmpty with
      | some .directory, _ => locateFrom tree place rest
      | some (.file _), true => .ok place
      | some (.file _), false => .error .notDirectory
      | none, true => .ok place
      | none, false => .error .notFound

/-- The directory that a path begins at. -/
def start (tree : FileTree) : PathStart → Place
  | .here => tree.here
  | .root | .secondRoot => []

/-- The place of the file of a path. -/
def locate (tree : FileTree) (path : Path) : Except FileFault Place :=
  if pathLimit ≤ octets path.toText.toList then .error .nameTooLong
  else tree.locateFrom (tree.start path.start) path.components

/-- The tree with a file at a place. -/
def put (tree : FileTree) (place : Place) (text : String) : FileTree :=
  { tree with
    nodes := (tree.nodes.filter fun entry => entry.1 != place) ++ [(place, .file text)] }

/-- The tree after writing a text to a path, unless that is impossible. -/
def write (tree : FileTree) (path : Path) (text : String) : Except FileFault FileTree :=
  (tree.locate path).map fun place => tree.put place text

end FileTree

end CatalogReader
