/-
Reading a literal token by token, as `literal_eval` accepts it. What is read so far is kept per open
bracket: the items that are complete, and what there is of the current one. Round brackets hold a
single value or a tuple, curly ones a set or a dictionary, whose members and keys must not be sets
or dictionaries themselves. A sign stands in front of a number, or between a real and an imaginary
one.
-/

import CatalogReader.Markup.Literal.Token
import CatalogReader.Text.Blank

namespace CatalogReader.Markup.Literal

open CatalogReader.Text

/-! ### Values and items -/

/-- What a value is, as far as it matters to what may be done with it. -/
inductive Kind where
  /-- A number without a sign. -/
  | number (kind : NumberKind)
  /-- A real number with a sign. -/
  | signedReal
  /-- Quoted text, behind which more of the same may follow. -/
  | quoted (octets : Bool)
  /-- The name of sets. -/
  | setName
  /-- Any other value that may be a member or a key. -/
  | simple
  /-- A set or a dictionary. -/
  | container
  deriving DecidableEq, Repr

/-- Whether a name without brackets behind it is no value. -/
def Kind.isValue (kind : Kind) : Bool :=
  kind != .setName

/-- Whether a value may be a member of a set or a key of a dictionary. -/
def Kind.isKey (kind : Kind) : Bool :=
  kind != .setName && kind != .container

/-- What there is of an item. -/
inductive Item where
  | empty
  /-- A sign. -/
  | signed
  | complete (kind : Kind)
  /-- A real number and a sign behind it. -/
  | adding
  deriving DecidableEq, Repr

/-- An item with one more operand. -/
def Item.operand? : Item → Kind → Option Item
  | empty, kind => some (complete kind)
  | signed, .number .real => some (complete .signedReal)
  | signed, .number .imaginary => some (complete .simple)
  | adding, .number .imaginary => some (complete .simple)
  | complete (.quoted before), .quoted octets =>
    if before = octets then some (complete (.quoted octets)) else none
  | _, _ => none

/-- An item with one more sign. -/
def Item.sign? : Item → Option Item
  | empty => some signed
  | complete (.number .real) => some adding
  | complete .signedReal => some adding
  | _ => none

/-! ### Open brackets -/

/-- What is open: the text as a whole, a bracket, or the brackets behind the name of sets. -/
inductive Opened where
  | whole
  | bracket (kind : Bracket)
  | emptySet
  deriving DecidableEq, Repr

/-- What curly brackets hold. -/
inductive Contents where
  | unknown
  | members
  | entries
  deriving DecidableEq, Repr

/-- What is read of an open bracket. -/
structure Level where
  opened : Opened
  /-- Whether there is a comma. -/
  separated : Bool := false
  /-- Whether all items could be keys. -/
  simple : Bool := true
  contents : Contents := .unknown
  /-- Whether the current item is the value of an entry, whose key is read. -/
  afterColon : Bool := false
  item : Item := .empty

namespace Level

/-- A level with one more operand in its current item. -/
def operand? (level : Level) (kind : Kind) : Option Level :=
  (level.item.operand? kind).map fun item => { level with item }

/-- A level of curly brackets whose current item, of a kind, is complete. -/
def closeMember? (level : Level) (kind : Kind) : Option Level :=
  if level.afterColon then
    if kind.isValue then some { level with afterColon := false, item := .empty } else none
  else if level.contents ≠ .entries ∧ kind.isKey then
    some { level with contents := .members, item := .empty }
  else none

/-- A level whose current item, of a kind, is complete. -/
def closeItem? (level : Level) (kind : Kind) : Option Level :=
  if level.opened = .bracket .curly then level.closeMember? kind
  else if kind.isValue then
    some { level with simple := level.simple && kind.isKey, item := .empty }
  else none

/-- A level behind a comma. -/
def comma? (level : Level) : Option Level :=
  match level.item with
  | .complete kind => (level.closeItem? kind).map fun closed => { closed with separated := true }
  | _ => none

/-- A level behind a colon. -/
def colon? (level : Level) : Option Level :=
  match level.item with
  | .complete kind =>
    if level.opened = .bracket .curly ∧ level.contents ≠ .members ∧ ¬level.afterColon ∧ kind.isKey
    then some { level with contents := .entries, afterColon := true, item := .empty }
    else none
  | _ => none

/-- The kind of the value in round brackets, or of the text as a whole. -/
def roundKind? (level : Level) : Option Kind :=
  match level.item with
  | .empty =>
    if level.separated || level.opened = .bracket .round then
      some (if level.simple then .simple else .container)
    else none
  | .complete kind =>
    if level.separated then
      (level.closeItem? kind).map fun closed => if closed.simple then .simple else .container
    else
      match kind with
      | .quoted _ => some .simple
      | _ => some kind
  | _ => none

/-- The kind of the value that a closing bracket completes. -/
def close? (level : Level) (bracket : Bracket) : Option Kind :=
  match level.opened, bracket with
  | .bracket .round, .round => level.roundKind?
  | .bracket .curly, .curly =>
    match level.item with
    | .empty => if level.afterColon then none else some .container
    | .complete kind => (level.closeItem? kind).map fun _ => .container
    | _ => none
  | .emptySet, .round =>
    if level.item = .empty ∧ ¬level.separated then some .container else none
  | _, _ => none

end Level

/-! ### Reading -/

/-- What is read of a text: the innermost level, the levels around it, and whether its line has
ended. -/
structure Reading where
  inner : Level
  outer : List Level
  ended : Bool

namespace Reading

/-- The most brackets that are open at a time. -/
def mostBrackets : Nat := 200

/-- Nothing is read. -/
def start : Reading := ⟨{ opened := .whole }, [], false⟩

/-- A reading with one more level. -/
def enter? (reading : Reading) (around : Level) (opened : Opened) : Option Reading :=
  if reading.outer.length < mostBrackets then
    some { reading with inner := { opened }, outer := around :: reading.outer }
  else none

/-- A reading with one more bracket open. -/
def openBracket? (reading : Reading) (bracket : Bracket) : Option Reading :=
  match reading.inner.item with
  | .complete .setName =>
    if bracket = .round then reading.enter? { reading.inner with item := .empty } .emptySet
    else none
  | .complete _ => none
  | _ => reading.enter? reading.inner (.bracket bracket)

/-- A reading with its innermost bracket closed. -/
def closeBracket? (reading : Reading) (bracket : Bracket) : Option Reading :=
  match reading.outer with
  | [] => none
  | around :: others => do
    let kind ← reading.inner.close? bracket
    let inner ← around.operand? kind
    return { reading with inner, outer := others }

/-- A reading with a changed innermost level. -/
def change? (reading : Reading) (change : Level → Option Level) : Option Reading :=
  (change reading.inner).map fun inner => { reading with inner }

/-- A reading behind a line break, which means nothing inside brackets. -/
def lineBreak? (reading : Reading) : Option Reading :=
  if reading.outer.isEmpty then
    if reading.inner.roundKind?.isSome then some { reading with ended := true } else none
  else some reading

/-- A reading with one more token. -/
def token? (reading : Reading) (token : Token) : Option Reading :=
  if reading.ended ∧ token ≠ .lineBreak then none
  else
    match token with
    | .number kind => reading.change? fun level => level.operand? (.number kind)
    | .quoted octets => reading.change? fun level => level.operand? (.quoted octets)
    | .constant => reading.change? fun level => level.operand? .simple
    | .setName => reading.change? fun level => level.operand? .setName
    | .sign =>
      reading.change? fun level => level.item.sign?.map fun item => { level with item }
    | .opening bracket => reading.openBracket? bracket
    | .closing bracket => reading.closeBracket? bracket
    | .comma => reading.change? Level.comma?
    | .colon => reading.change? Level.colon?
    | .lineBreak => reading.lineBreak?

/-- Whether what is read is a value. -/
def isComplete (reading : Reading) : Bool :=
  reading.outer.isEmpty && reading.inner.roundKind?.any Kind.isValue

end Reading

/-- Whether a text is a literal. -/
def isLiteral (text : List Char) : Bool :=
  !text.contains '\x00' &&
    ((((fromFirstToken? .start (unifyLineBreaks text)).bind tokens?).bind fun tokens =>
      tokens.foldlM Reading.token? Reading.start).any Reading.isComplete)

end CatalogReader.Markup.Literal
