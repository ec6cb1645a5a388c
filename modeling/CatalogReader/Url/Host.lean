/-
Hosts in square brackets, as `urlsplit` checks them. An authority with brackets must hold an address
there: a version six address with an optional zone, or an address of a future version.
-/

import CatalogReader.Text.Cut
import CatalogReader.Text.Hex
import CatalogReader.Text.Quoted

namespace CatalogReader.Url

open CatalogReader.Text

/-! ### Addresses -/

/-- One of the four numbers of a version four address: up to three digits, no needless zero in
front, and at most 255. -/
def isOctetText (text : List Char) : Bool :=
  !text.isEmpty && text.all Char.isDigit && text.length ≤ 3 &&
    (text == ['0'] || text.head? != some '0') &&
    text.foldl (fun value c => value * 10 + (c.toNat - 0x30)) 0 ≤ 255

/-- Whether a text is a version four address: four numbers between dots. -/
def isVersion4 (text : List Char) : Bool :=
  let numbers := pieces '.' text
  numbers.length == 4 && numbers.all isOctetText

/-- One group of a version six address: one to four hexadecimal digits. -/
def isGroup (text : List Char) : Bool :=
  !text.isEmpty && text.length ≤ 4 && text.all isHexDigit

/-- How many groups the pieces between colons stand for. Each piece is one group, except that the
last one may be a version four address where the address ends in it, and is then two. -/
def groupsOfPieces? (endsAddress : Bool) : List (List Char) → Option Nat
  | [] => some 0
  | [last] =>
    if isGroup last then some 1
    else if endsAddress && isVersion4 last then some 2
    else none
  | piece :: rest =>
    if isGroup piece then (groupsOfPieces? endsAddress rest).map (· + 1) else none

/-- How many groups one side of an address stands for; an empty side has none. -/
def groups? (endsAddress : Bool) (side : List Char) : Option Nat :=
  if side.isEmpty then some 0 else groupsOfPieces? endsAddress (pieces ':' side)

/-- The texts before and after the first double colon. -/
def cutDoubleColon? : List Char → Option (List Char × List Char)
  | ':' :: ':' :: rest => some ([], rest)
  | c :: rest => (cutDoubleColon? rest).map fun (before, after) => (c :: before, after)
  | [] => none

/-- Whether a text is a version six address without a zone: eight groups, or a double colon in place
of at least one. -/
def isVersion6Address (text : List Char) : Bool :=
  match cutDoubleColon? text with
  | some (left, right) =>
    match groups? false left, groups? true right with
    | some before, some after => before + after ≤ 7
    | _, _ => false
  | none => groups? true text == some 8

/-- Whether a text is a version six address, perhaps with a percent sign and a zone. -/
def isVersion6 (text : List Char) : Bool :=
  match cutFirst? '%' text with
  | none => isVersion6Address text
  | some (address, zone) => !zone.isEmpty && !zone.contains '%' && isVersion6Address address

/-- Whether what follows the letter `v` is a future version and its address: hexadecimal digits, a
dot, and something. -/
def isFutureAddress (text : List Char) : Bool :=
  let (version, address) := text.span isHexDigit
  !version.isEmpty && address.head? == some '.' && 2 ≤ address.length

/-! ### Faults of an authority -/

/-- Why a text is refused as a URL. -/
inductive Fault where
  /-- A bracket without its partner, or text beside a bracketed host. -/
  | strayBracket
  /-- The host begins like an address of a future version and is none. -/
  | badFutureAddress
  /-- The host is no address. -/
  | notAnAddress (host : List Char)
  /-- A version four address stands where only brackets of version six may be. -/
  | bracketedVersion4
  /-- A character of the authority is compatible with a delimiter of URLs. -/
  | hiddenDelimiter (authority : List Char)
  deriving DecidableEq, Repr

/-- The text of a fault. -/
def Fault.message : Fault → String
  | .strayBracket => "Invalid IPv6 URL"
  | .badFutureAddress => "IPvFuture address is invalid"
  | .notAnAddress host =>
    String.ofList (quoted host) ++ " does not appear to be an IPv4 or IPv6 address"
  | .bracketedVersion4 => "An IPv4 address cannot be in brackets"
  | .hiddenDelimiter authority =>
    "netloc '" ++ String.ofList authority ++
      "' contains invalid characters under NFKC normalization"

/-- Accepts a host that stands in brackets. -/
def checkHost (host : List Char) : Except Fault Unit :=
  if host.head? = some 'v' then
    if isFutureAddress host.tail then .ok () else .error .badFutureAddress
  else if isVersion4 host then .error .bracketedVersion4
  else if isVersion6 host then .ok ()
  else .error (.notAnAddress host)

/-- Accepts an authority that has brackets. The host is what stands between the first bracket after
the last at sign and its partner, with nothing before it and at most a port after it. -/
def checkBrackets (authority : List Char) : Except Fault Unit :=
  let place := ((cutLast? '@' authority).map Prod.snd).getD authority
  match cutFirst? '[' place with
  | none => checkHost (beforeFirst ':' place)
  | some (before, bracketed) =>
    if !before.isEmpty then .error .strayBracket
    else
      match cutFirst? ']' bracketed with
      | none => checkHost bracketed
      | some (host, after) =>
        if after.isEmpty || after.head? == some ':' then checkHost host
        else .error .strayBracket

/-! ### Characters that hide a delimiter -/

/-- The characters outside ASCII whose compatibility form holds a slash, a question mark, a number
sign, an at sign or a colon. -/
def hidingDelimiter (c : Char) : Bool :=
  [0x2047, 0x2048, 0x2049, 0x2100, 0x2101, 0x2105, 0x2106, 0x2A74, 0xFE13, 0xFE16, 0xFE55, 0xFE56,
    0xFE5F, 0xFE6B, 0xFF03, 0xFF0F, 0xFF1A, 0xFF1F, 0xFF20].contains c.toNat

/-- Accepts an authority: its brackets first, then its characters. -/
def checkAuthority (authority : List Char) : Except Fault Unit :=
  let opened := authority.contains '['
  let closed := authority.contains ']'
  if opened != closed then .error .strayBracket
  else
    match if opened then checkBrackets authority else .ok () with
    | .error fault => .error fault
    | .ok () =>
      if authority.any hidingDelimiter then .error (.hiddenDelimiter authority) else .ok ()

end CatalogReader.Url
