/-
The arguments of a run, as typer reads them for the commands `table` and `config`. The first one is
a command. Options may stand before and after the table, by their long or short names; short options
may share one hyphen, and the last of them may be followed by its value. Of an option that is given
repeatedly the last value counts. Two hyphens end the options.
-/

import CatalogReader.Files.Path

namespace CatalogReader.CommandLine

open CatalogReader.Text

/-! ### Options -/

/-- The options of the command that shows a table. -/
inductive OptionName where
  | url
  | schema
  | format
  | output
  | verbose
  deriving DecidableEq, Repr

namespace OptionName

/-- All options. -/
def all : List OptionName := [url, schema, format, output, verbose]

/-- The long name, without its hyphens. -/
def word : OptionName → String
  | url => "url"
  | schema => "schema"
  | format => "format"
  | output => "output"
  | verbose => "verbose"

/-- The short name, without its hyphen. -/
def letter : OptionName → Char
  | url => 'u'
  | schema => 's'
  | format => 'f'
  | output => 'o'
  | verbose => 'v'

/-- Whether a value follows the option. -/
def takesValue (name : OptionName) : Bool :=
  name != verbose

/-- The option of a long name. -/
def ofWord? (word : List Char) : Option OptionName :=
  all.find? fun name => name.word.toList == word

/-- The option of a short name. -/
def ofLetter? (letter : Char) : Option OptionName :=
  all.find? fun name => name.letter == letter

end OptionName

/-! ### Reading -/

/-- What an argument is: a positional one, or options with their values, after which the value of
one more option may have to follow. -/
inductive Token where
  | positional
  | options (given : List (OptionName × String)) (pending : Option OptionName)
  deriving DecidableEq, Repr

/-- The options of the letters behind one hyphen. -/
def tokenOfLetters? : List Char → Option Token
  | [] => some (.options [] none)
  | letter :: rest =>
    match OptionName.ofLetter? letter with
    | none => none
    | some name =>
      if name.takesValue then
        if rest.isEmpty then some (.options [] (some name))
        else some (.options [(name, String.ofList rest)] none)
      else
        match tokenOfLetters? rest with
        | some (.options given pending) => some (.options ((name, "") :: given) pending)
        | _ => none

/-- The option of the text behind two hyphens. -/
def tokenOfWord? (text : List Char) : Option Token :=
  let (word, value) :=
    match cutFirst? '=' text with
    | none => (text, none)
    | some (word, value) => (word, some (String.ofList value))
  match OptionName.ofWord? word with
  | none => none
  | some name =>
    match name.takesValue, value with
    | true, some value => some (.options [(name, value)] none)
    | true, none => some (.options [] (some name))
    | false, some _ => none
    | false, none => some (.options [(name, "")] none)

/-- What an argument is, unless it is an unknown option. -/
def tokenOf? (argument : String) : Option Token :=
  match argument.toList with
  | '-' :: '-' :: word => tokenOfWord? word
  | '-' :: letter :: rest => tokenOfLetters? (letter :: rest)
  | _ => some .positional

/-- Options with their values and positional arguments, each in order. -/
structure Parsed where
  given : List (OptionName × String)
  positionals : List String
  deriving DecidableEq, Repr

/-- The options and positional arguments of some arguments, the first of which may be the value of
an option. An unknown option or a missing value spoils all. -/
def parse? (pending : Option OptionName) : List String → Option Parsed
  | [] => if pending.isSome then none else some ⟨[], []⟩
  | argument :: rest =>
    match pending with
    | some name =>
      (parse? none rest).map fun parsed => { parsed with given := (name, argument) :: parsed.given }
    | none =>
      if argument = "--" then some ⟨[], rest⟩
      else
        match tokenOf? argument with
        | none => none
        | some .positional =>
          (parse? none rest).map fun parsed =>
            { parsed with positionals := argument :: parsed.positionals }
        | some (.options given pending) =>
          (parse? pending rest).map fun parsed => { parsed with given := given ++ parsed.given }

/-! ### Commands -/

/-- The forms in which a table is shown. -/
inductive Format where
  | summary
  | json
  | selectList
  deriving DecidableEq, Repr

/-- The words for the forms. -/
def formatWords : List (String × Format) :=
  [("summary", .summary), ("json", .json), ("select-list", .selectList)]

/-- What is asked of the command that shows a table. -/
structure Request where
  reference : String
  url : Option String
  schema : Option String
  format : Format
  output : Option Path
  verbose : Bool
  deriving DecidableEq, Repr

/-- What a run is asked to do. -/
inductive Command where
  | table (request : Request)
  | config
  deriving DecidableEq, Repr

namespace Parsed

/-- The last value of an option. -/
def last? (parsed : Parsed) (name : OptionName) : Option String :=
  (parsed.given.reverse.find? fun entry => entry.1 == name).map Prod.snd

/-- The form that is asked for. -/
def format? (parsed : Parsed) : Option Format :=
  match parsed.last? .format with
  | none => some .summary
  | some word => formatWords.lookup word

/-- Whether a text can be the path of a file: it holds no null character. -/
def isPathText (text : String) : Bool :=
  !text.toList.contains '\x00'

/-- What is asked of the command that shows a table, which takes one positional argument. -/
def request? (parsed : Parsed) : Option Request :=
  match parsed.format?, parsed.positionals with
  | some format, [reference] =>
    if (parsed.last? .output).all isPathText then
      some {
        reference
        url := parsed.last? .url
        schema := parsed.last? .schema
        format
        output := (parsed.last? .output).map Path.ofText
        verbose := (parsed.last? .verbose).isSome }
    else none
  | _, _ => none

end Parsed

/-- The arguments after the command of a table. -/
def tableCommand? (arguments : List String) : Option Command :=
  ((parse? none arguments).bind Parsed.request?).map .table

/-- The arguments after the command of the settings, which takes none. -/
def configCommand? (arguments : List String) : Option Command :=
  if arguments = [] ∨ arguments = ["--"] then some .config else none

/-- The command of the arguments from the name of the command on. -/
def namedCommand? : List String → Option Command
  | name :: rest =>
    if name = "table" then tableCommand? rest
    else if name = "config" then configCommand? rest
    else none
  | [] => none

/-- The command that arguments stand for, unless they do not follow the rules of use. -/
def command? : List String → Option Command
  | "--" :: rest => namedCommand? rest
  | arguments => namedCommand? arguments

end CatalogReader.CommandLine
