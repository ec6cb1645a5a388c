/-
Column names as the arguments of a `SELECT`: `write_select_list`, and `select_list`, which writes to
a text. Each name is quoted by doubling its double quotes, and commas stand between names. The names
and commas are the tokens of the list; they are written one at a time to a sink, which may refuse a
token that does not fit.
-/

namespace CatalogReader.SelectList

/-! ### Tokens -/

/-- A name with its double quotes doubled. -/
def doubleQuotes (name : List Char) : List Char :=
  name.flatMap fun c => if c = '"' then ['"', '"'] else [c]

/-- A name between double quotes. -/
def quoteName (name : List Char) : List Char :=
  '"' :: doubleQuotes name ++ ['"']

/-- An identifier as a query quotes it. -/
def quoteIdentifier (name : String) : String :=
  String.ofList (quoteName name.toList)

/-- The names and the commas between them. -/
def tokens : List (List Char) → List (List Char)
  | [] => []
  | [name] => [quoteName name]
  | name :: second :: rest => quoteName name :: [','] :: tokens (second :: rest)

/-- The list of quoted names. -/
def text (names : List (List Char)) : List Char :=
  (tokens names).flatten

/-- The list of quoted names. -/
def render (names : List String) : String :=
  String.ofList (text (names.map String.toList))

/-! ### Sinks -/

/-- How writing to a sink ended. -/
inductive Ending where
  /-- Every token was written. -/
  | complete
  /-- A token did not fit, and nothing was written after it. -/
  | full
  deriving DecidableEq, Repr

/-- Writes tokens one at a time to a sink of any sort, up to the first one that it refuses. -/
def writeEach {Place : Type} (write : Place → List Char → Place × Ending) (place : Place) :
    List (List Char) → Place × Ending
  | [] => (place, .complete)
  | token :: rest =>
    match write place token with
    | (next, .full) => (next, .full)
    | (next, .complete) => writeEach write next rest

section

variable {Place : Type} {write : Place → List Char → Place × Ending} {place next : Place}
  {token : List Char}

theorem writeEach_of_refused (refused : write place token = (next, .full))
    (rest : List (List Char)) : writeEach write place (token :: rest) = (next, .full) := by
  rw [writeEach, refused]

theorem writeEach_of_taken (taken : write place token = (next, .complete))
    (rest : List (List Char)) :
    writeEach write place (token :: rest) = writeEach write next rest := by
  rw [writeEach, taken]

end

/-- A place for text that holds a limited count of characters. -/
structure Sink where
  capacity : Nat
  written : List Char
  deriving DecidableEq, Repr

/-- The sink after one more token, which it takes as a whole or not at all. -/
def Sink.write (sink : Sink) (token : List Char) : Sink × Ending :=
  if sink.written.length + token.length ≤ sink.capacity then
    ({ sink with written := sink.written ++ token }, .complete)
  else (sink, .full)

/-- Writes the list of quoted names to an empty sink. -/
def writeTo (capacity : Nat) (names : List String) : String × Ending :=
  let (sink, ending) := writeEach Sink.write ⟨capacity, []⟩ (tokens (names.map String.toList))
  (String.ofList sink.written, ending)

end CatalogReader.SelectList
