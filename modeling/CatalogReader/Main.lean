/-
The command line. Settings come from the environment and from the first environment file there is;
the run is worked out in advance, and only what it prints and the one file it may write are done
here. No driver is at hand, so every connection is refused. The console is the standard one, of
eighty cells and without a table of emoji.
-/

import CatalogReader.CommandLine.Run

namespace CatalogReader.CommandLine

open CatalogReader.Text

/-- The text of a file, if it can be read. -/
def readFile? (path : String) : IO (Option String) := do
  try
    let text ← IO.FS.readFile path
    return some text
  catch _ => return none

/-- Whether there is something at a path. -/
def isPresent (path : String) : IO Bool := do
  try
    let _ ← IO.FS.Handle.mk path .read
    return true
  catch _ => return false

/-- The variables of the environment. -/
def readEnvironment : IO (List (String × String)) := do
  let text := (← readFile? "/proc/self/environ").getD ""
  return (pieces '\x00' text.toList).filterMap fun entry =>
    (cutFirst? '=' entry).map fun (name, value) => (String.ofList name, String.ofList value)

/-- Where the settings of this run come from. -/
def readSources : IO Settings.Sources := do
  let environment ← readEnvironment
  let home := (environment.lookup "HOME").getD ""
  let program := (← IO.appDir).toString
  let present ← (Settings.filePlaces home program).filterM isPresent
  let file ←
    match Settings.findFile? home program present with
    | none => pure none
    | some path => readFile? path
  return { direct := [], environment, file }

/-- Writes a file, and says why that is impossible. -/
def writeFile (path : Path) (text : String) : IO (Option FileFault) := do
  try
    IO.FS.writeFile path.toText text
    return none
  catch reason =>
    match reason with
    | .noFileOrDirectory .. => return some .notFound
    | _ => return some (.other (toString reason))

/-- Prints how a run ended. -/
def showEnding (ending : Ending) : IO UInt32 := do
  IO.print ending.output
  IO.eprint ending.log
  match ending.escaped with
  | none => pure ()
  | some failure => IO.eprintln failure.message
  return UInt32.ofNat ending.exitCode

/-- Carries out a plan. -/
def carryOut : Plan → IO UInt32
  | .finish ending => showEnding ending
  | .write path text next => do
    let fault ← writeFile path text
    showEnding (next fault)

/-- A run with these arguments. -/
def runProgram (arguments : List String) : IO UInt32 := do
  match Settings.load (← readSources) with
  | .error faults =>
    for fault in faults do
      IO.eprintln (fault.name.word ++ ": " ++ fault.defect.message)
    return 1
  | .ok settings => carryOut (plan .standard Server.unreachable settings arguments)

end CatalogReader.CommandLine

def main (arguments : List String) : IO UInt32 :=
  CatalogReader.CommandLine.runProgram arguments
