/-
Runs of the program: `show_table`, which is the command `table`, and the command `config`. What a
run does is worked out in advance up to the file it may have to write; how the writing went decides
how the run ends. A run prints to the console, which reads markup, or writes plain text; an error of
reading a schema is printed, and any other failure escapes.
-/

import CatalogReader.CommandLine.Arguments
import CatalogReader.Console
import CatalogReader.Files.Tree
import CatalogReader.Reader
import CatalogReader.Settings.Basic
import CatalogReader.Text.TerminalSequence

namespace CatalogReader.CommandLine

open CatalogReader.Text

/-! ### Endings and plans -/

/-- How a run ended: its exit code, what it printed and logged, what it asked of the driver, and the
failure that escaped from it. -/
structure Ending where
  exitCode : Nat
  output : String
  log : String
  events : List Event
  escaped : Option Failure

/-- What a run does. -/
inductive Plan where
  /-- It ends. -/
  | finish (ending : Ending)
  /-- It writes a file and ends in a way that depends on how that went. -/
  | write (path : Path) (text : String) (next : Option FileFault → Ending)

/-- The ending of a plan on some files, and the files after it. -/
def Plan.runOn (files : FileTree) : Plan → Ending × FileTree
  | finish ending => (ending, files)
  | write path text next =>
    match files.write path text with
    | .error fault => (next (some fault), files)
    | .ok after => (next none, after)

/-- The beginning of an ending: what is printed, logged and asked of the driver so far. -/
structure Sofar where
  output : String
  log : String
  events : List Event

namespace Sofar

/-- Nothing so far. -/
def nothing : Sofar := ⟨"", "", []⟩

/-- The ending with an exit code. -/
def exit (sofar : Sofar) (code : Nat) : Ending :=
  ⟨code, sofar.output, sofar.log, sofar.events, none⟩

/-- The ending from which a failure escapes. -/
def escape (sofar : Sofar) (failure : Failure) : Ending :=
  ⟨1, sofar.output, sofar.log, sofar.events, some failure⟩

/-- What there is after some more output. -/
def print (sofar : Sofar) (text : String) : Sofar :=
  { sofar with output := sofar.output ++ text }

/-- The ending with an exit code after a marked-up text is printed. -/
def exitPrinting (console : Console) (sofar : Sofar) (code : Nat) (text : String) : Ending :=
  match console.printed text with
  | .error fault => sofar.escape (.markup fault)
  | .ok shown => (sofar.print shown).exit code

/-- The ending of a failure. -/
def fail (console : Console) (sofar : Sofar) : Failure → Ending
  | .schema error => sofar.exitPrinting console 1 ("[red]Error: " ++ error.text ++ "[/red]")
  | failure => sofar.escape failure

end Sofar

variable (console : Console)

/-! ### The log -/

/-- The threshold of the log, and what is printed about a level that is not known. -/
def logThreshold (verbose : Bool) (level : String) : Except Markup.Fault (Nat × String) :=
  if verbose then .ok (LogLevel.debug.severity, "")
  else
    match threshold? level with
    | some threshold => .ok (threshold, "")
    | none =>
      (console.printed
        ("[yellow]Unknown log level " ++ quote level ++ ", using WARNING[/yellow]")).map
          fun shown => (LogLevel.warning.severity, shown)

/-! ### Showing a table -/

/-- A text that is neither missing nor empty. -/
def nonEmpty? (text : Option String) : Option String :=
  text.filter fun found => !found.isEmpty

/-- What the console shows for a table. -/
def consoleSummary (table : Table) : Except Failure String :=
  ((Summary.lines console.emoji console.width table).mapError Failure.ofSummary).map fun lines =>
    String.ofList (Console.endLines lines)

/-- The text of a table in a form. -/
def render (format : Format) (table : Table) : Except Failure String :=
  match format with
  | .summary => (Summary.render console.emoji Summary.fileWidth table).mapError Failure.ofSummary
  | .json => table.renderJson
  | .selectList => table.selectList

/-- How a run ends after it wrote a table to a path. -/
def afterWriting (sofar : Sofar) (path : Path) (table : Table) : Option FileFault → Ending
  | some fault =>
    sofar.exitPrinting console 1
      ("[red]Error writing " ++ path.toText ++ ": " ++ fault.reason ++ "[/red]")
  | none =>
    sofar.exitPrinting console 0
      ("[green]Wrote " ++ toString table.columns.length ++ " columns to " ++ path.toText ++
        "[/green]")

/-- The plan to show a summary on the console. -/
def summaryPlan (sofar : Sofar) (reference : String) (table : Table) : Plan :=
  if table.columns.isEmpty then
    .finish
      (sofar.exitPrinting console 0 ("[yellow]No columns found for " ++ reference ++ "[/yellow]"))
  else
    match consoleSummary console table with
    | .error failure => .finish (sofar.escape failure)
    | .ok shown => .finish ((sofar.print shown).exit 0)

/-- A text as it is written where there is no terminal. -/
def plainText (text : String) : String :=
  String.ofList (dropSequences text.toList)

/-- The plan to show a table. -/
def showPlan (sofar : Sofar) (request : Request) (table : Table) : Plan :=
  if request.format = .summary ∧ request.output = none then
    summaryPlan console sofar request.reference table
  else
    match render console request.format table with
    | .error failure => .finish (sofar.escape failure)
    | .ok text =>
      let line := text ++ "\n"
      match request.output with
      | none => .finish ((sofar.print (plainText line)).exit 0)
      | some path => .write path line (afterWriting console sofar path table)

/-- The reader that a request and the settings ask for at a URL. -/
def readerFor (settings : Settings) (request : Request) (url : String) : Except Failure Reader :=
  let schema := (nonEmpty? request.schema).getD settings.defaultSchema
  Reader.ofUrl url schema settings.connectTimeout

/-- The URL of the database: that of the request, or else that of the settings. -/
def databaseUrl? (settings : Settings) (request : Request) : Option String :=
  (nonEmpty? request.url).or (nonEmpty? settings.databaseUrl)

/-- The plan to fetch and show a table. -/
def tablePlan (server : Server) (settings : Settings) (request : Request) : Plan :=
  match logThreshold console request.verbose settings.logLevel with
  | .error fault => .finish (Sofar.nothing.escape (.markup fault))
  | .ok (threshold, notice) =>
    let sofar := Sofar.nothing.print notice
    match databaseUrl? settings request with
    | none =>
      .finish (sofar.exitPrinting console 1
        "[red]No database URL. Pass --url or set SCHEMACONV_DATABASE_URL.[/red]")
    | some url =>
      match readerFor settings request url with
      | .error failure => .finish (sofar.fail console failure)
      | .ok reader =>
        let outcome := reader.fetchOnce server request.reference
        let sofar :=
          { sofar with log := shownLog threshold outcome.entries, events := outcome.events }
        match outcome.result with
        | .error failure => .finish (sofar.fail console failure)
        | .ok table => showPlan console sofar request table

/-! ### Showing the settings -/

/-- The marked-up lines about the settings, the first of which that cannot be shown is the last
one. -/
def settingsLines (settings : Settings) : List (Except Failure String) :=
  let url : Except Failure String :=
    match nonEmpty? settings.databaseUrl with
    | none => .ok "Not set"
    | some url => (Url.redact url).mapError Failure.url
  let timeout :=
    match settings.connectTimeout with
    | none => "Driver default"
    | some seconds => if seconds = 0 then "Driver default" else toString seconds
  [.ok "[bold]Current Configuration[/bold]",
    url.map ("  Database URL: " ++ ·),
    .ok ("  Default Schema: " ++ settings.defaultSchema),
    .ok ("  Connect Timeout: " ++ timeout),
    .ok ("  Log Level: " ++ settings.logLevel)]

/-- What the console shows for a line. -/
def shownLine (line : Except Failure String) : Except Failure String :=
  line.bind fun text => (console.printed text).mapError Failure.markup

/-- The ending after lines are printed up to the first one that cannot be shown. -/
def printLines (sofar : Sofar) : List (Except Failure String) → Ending
  | [] => sofar.exit 0
  | line :: rest =>
    match shownLine console line with
    | .error failure => sofar.escape failure
    | .ok shown => printLines (sofar.print shown) rest

/-! ### Runs -/

/-- The exit code of a run that is not used as it should be. -/
def misuseCode : Nat := 2

/-- What a run with these arguments does. -/
def plan (server : Server) (settings : Settings) (arguments : List String) : Plan :=
  match command? arguments with
  | none => .finish (Sofar.nothing.exit misuseCode)
  | some .config => .finish (printLines console Sofar.nothing (settingsLines settings))
  | some (.table request) => tablePlan console server settings request

/-- How a run with these arguments ends on some files, and the files after it. -/
def run (server : Server) (settings : Settings) (files : FileTree) (arguments : List String) :
    Ending × FileTree :=
  (plan console server settings arguments).runOn files

end CatalogReader.CommandLine
