/-
URLs as five parts, by the rules of `urlsplit` and `urlunsplit`. Reading drops blanks and controls
in front and every tab and line break, and accepts any text whose authority is sound. Writing leaves
out the marks of empty parts, so a URL with an empty query, or with an empty authority under most
schemes, does not come back letter for letter.
-/

import CatalogReader.Text.LetterCase
import CatalogReader.Url.Host

namespace CatalogReader

open CatalogReader.Text

/-- The five parts of a URL, without the marks between them. -/
structure Url where
  scheme : List Char
  authority : List Char
  path : List Char
  query : List Char
  fragment : List Char
  deriving DecidableEq, Repr

namespace Url

/-! ### Reading -/

/-- The text that is read: without controls and blanks in front, and without tabs and line breaks.
-/
def cleaned (text : List Char) : List Char :=
  (text.dropWhile fun c => c.toNat ≤ 0x20).filter fun c => !(c == '\t' || c == '\r' || c == '\n')

/-- Whether a character may stand in a scheme. -/
def isSchemeChar (c : Char) : Bool :=
  c.isAlphanum || c == '+' || c == '-' || c == '.'

/-- The scheme, in small letters, and the text after its colon. Without a scheme all of the text
follows. -/
def cutScheme (text : List Char) : List Char × List Char :=
  match cutFirst? ':' text with
  | some (first :: others, after) =>
    if first.isAlpha && others.all isSchemeChar then (lowerAscii (first :: others), after)
    else ([], text)
  | _ => ([], text)

/-- Whether a character ends an authority. -/
def endsAuthority (c : Char) : Bool := c == '/' || c == '?' || c == '#'

/-- The authority, which follows two slashes, and the text after it. -/
def cutAuthority : List Char → List Char × List Char
  | '/' :: '/' :: rest => rest.span fun c => !endsAuthority c
  | text => ([], text)

/-- The text before a mark and the text after it, which is empty when there is no mark. -/
def cutAt (mark : Char) (text : List Char) : List Char × List Char :=
  (cutFirst? mark text).getD (text, [])

/-- The parts of a text, unless its authority is refused. -/
def ofText (text : List Char) : Except Fault Url :=
  let (scheme, afterScheme) := cutScheme (cleaned text)
  let (authority, afterAuthority) := cutAuthority afterScheme
  let (beforeFragment, fragment) := cutAt '#' afterAuthority
  let (path, query) := cutAt '?' beforeFragment
  match checkAuthority authority with
  | .error fault => .error fault
  | .ok () => .ok ⟨scheme, authority, path, query, fragment⟩

/-! ### Views of the authority -/

/-- The user information: what stands before the last at sign. -/
def userInfo? (url : Url) : Option (List Char) :=
  (cutLast? '@' url.authority).map Prod.fst

/-- The password: what follows the first colon of the user information. -/
def password? (url : Url) : Option (List Char) :=
  url.userInfo?.bind fun userInfo => (cutFirst? ':' userInfo).map Prod.snd

/-- The user: the user information up to its first colon. -/
def user? (url : Url) : Option (List Char) :=
  url.userInfo?.map (beforeFirst ':')

/-- What follows the last at sign of the authority. -/
def place (url : Url) : List Char :=
  ((cutLast? '@' url.authority).map Prod.snd).getD url.authority

/-! ### Writing -/

/-- The schemes under which an empty authority is written. -/
def authoritySchemes : List String :=
  ["ftp", "http", "gopher", "nntp", "telnet", "imap", "wais", "file", "mms", "https", "shttp",
    "snews", "prospero", "rtsp", "rtspu", "rsync", "svn", "svn+ssh", "sftp", "nfs", "git",
    "git+ssh", "ws", "wss"]

/-- Whether the authority is written. -/
def writesAuthority (url : Url) : Bool :=
  !url.authority.isEmpty ||
    (authoritySchemes.contains (String.ofList url.scheme) && url.path.take 2 != ['/', '/'])

/-- The authority and the path, which begins with a slash after an authority. -/
def location (url : Url) : List Char :=
  if url.writesAuthority then
    let path := if url.path.isEmpty || url.path.head? == some '/' then url.path else '/' :: url.path
    '/' :: '/' :: url.authority ++ path
  else url.path

/-- A part behind its mark, and nothing for an empty part. -/
def marked (mark : Char) (part : List Char) : List Char :=
  if part.isEmpty then [] else mark :: part

/-- The text of a URL. -/
def toText (url : Url) : List Char :=
  (if url.scheme.isEmpty then [] else url.scheme ++ [':']) ++ url.location ++
    marked '?' url.query ++ marked '#' url.fragment

end Url

end CatalogReader
