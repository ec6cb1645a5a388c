/-
Reading octets as UTF-8. Every octet sequence is read: each longest stretch of octets that begins a
character without finishing it, and each octet that can begin none, becomes one replacement
character.
-/

namespace CatalogReader.Text

/-- What an octet means where a character may begin. -/
inductive LeadOctet where
  /-- It is a character by itself. -/
  | single (c : Char)
  /-- It begins a character: the bits so far, how many octets follow, and the bounds of the next. -/
  | opening (bits following low high : Nat)
  /-- It begins nothing. -/
  | stray

/-- The meaning of an octet where a character may begin. The bounds of the second octet leave out
the overlong forms, the surrogates and the numbers above U+10FFFF. -/
def leadOctet (octet : UInt8) : LeadOctet :=
  let n := octet.toNat
  if n < 0x80 then .single (Char.ofNat n)
  else if n < 0xC2 then .stray
  else if n < 0xE0 then .opening (n - 0xC0) 1 0x80 0xBF
  else if n = 0xE0 then .opening 0 2 0xA0 0xBF
  else if n = 0xED then .opening 0xD 2 0x80 0x9F
  else if n < 0xF0 then .opening (n - 0xE0) 2 0x80 0xBF
  else if n = 0xF0 then .opening 0 3 0x90 0xBF
  else if n < 0xF4 then .opening (n - 0xF0) 3 0x80 0xBF
  else if n = 0xF4 then .opening 4 3 0x80 0x8F
  else .stray

/-- Where a reader stands between two octets. -/
inductive OctetState where
  /-- A character may begin. -/
  | ready
  /-- A character is open. -/
  | inside (bits following low high : Nat)

/-- The replacement character. -/
def replacement : Char := Char.ofNat 0xFFFD

/-- One octet where a character may begin: the characters it finishes and the state after it. -/
def OctetState.start (octet : UInt8) : List Char × OctetState :=
  match leadOctet octet with
  | .single c => ([c], .ready)
  | .opening bits following low high => ([], .inside bits following low high)
  | .stray => ([replacement], .ready)

/-- One octet: the characters it finishes and the state after it. An octet that an open character
cannot take closes that character as a replacement and is then read afresh. -/
def OctetState.step (octet : UInt8) : OctetState → List Char × OctetState
  | .ready => start octet
  | .inside bits following low high =>
    let n := octet.toNat
    if low ≤ n ∧ n ≤ high then
      let bits := bits * 64 + (n - 0x80)
      if following ≤ 1 then ([Char.ofNat bits], .ready)
      else ([], .inside bits (following - 1) 0x80 0xBF)
    else
      let (finished, state) := start octet
      (replacement :: finished, state)

/-- The characters that the octets after a state stand for. -/
def decodeFrom (state : OctetState) : List UInt8 → List Char
  | [] =>
    match state with
    | .ready => []
    | .inside .. => [replacement]
  | octet :: rest =>
    let (finished, next) := state.step octet
    finished ++ decodeFrom next rest

/-- The text that a sequence of octets stands for. -/
def decodeUtf8 (octets : List UInt8) : List Char :=
  decodeFrom .ready octets

end CatalogReader.Text
