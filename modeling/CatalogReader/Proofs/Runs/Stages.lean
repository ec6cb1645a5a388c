/-
The stages of the command of a table. It settles its threshold, finds the URL, reads the table, and
shows it; each of the first three may be the last one. Reading the table is one stage here: making a
reader and fetching with it end in one result, and leave one log and one list of events, which are
empty if no reader is made. Nothing is logged and nothing is asked of the driver after that.
-/

import CatalogReader.Proofs.Runs.Escapes

namespace CatalogReader.CommandLine

variable (console : Console) (server : Server) (settings : Settings) (request : Request)

/-- What there is when the table has been read, or its reading has failed. -/
def tableSofar (url : String) (threshold : Nat) (notice : String) : Sofar :=
  match readerFor settings request url with
  | .error _ => Sofar.nothing.print notice
  | .ok reader =>
    let outcome := reader.fetchOnce server request.reference
    ⟨notice, shownLog threshold outcome.entries, outcome.events⟩

/-- What is said when there is no URL. -/
def missingUrl : String :=
  "[red]No database URL. Pass --url or set SCHEMACONV_DATABASE_URL.[/red]"

/-- The stages of the command of a table. -/
theorem tablePlan_eq :
    tablePlan console server settings request =
      match logThreshold console request.verbose settings.logLevel with
      | .error fault => .finish (Sofar.nothing.escape (.markup fault))
      | .ok (threshold, notice) =>
        match databaseUrl? settings request with
        | none => .finish ((Sofar.nothing.print notice).exitPrinting console 1 missingUrl)
        | some url =>
          let sofar := tableSofar server settings request url threshold notice
          match tableResult server settings request url with
          | .error failure => .finish (sofar.fail console failure)
          | .ok table => showPlan console sofar request table := by
  unfold tablePlan
  cases logThreshold console request.verbose settings.logLevel with
  | error fault => rfl
  | ok parts =>
    dsimp only
    cases databaseUrl? settings request with
    | none => rfl
    | some url =>
      dsimp only
      unfold tableSofar tableResult
      cases readerFor settings request url with
      | error failure => rfl
      | ok reader =>
        dsimp only [Except.bind]
        rw [Reader.result_fetchOnce]
        have whole : (Sofar.nothing.print parts.2).output = parts.2 := String.empty_append
        cases (reader.fetch server request.reference).result with
        | error failure =>
          exact congrArg
            (fun output => Plan.finish (Sofar.fail console ⟨output, _, _⟩ failure))
            whole
        | ok table =>
          exact congrArg (fun output => showPlan console ⟨output, _, _⟩ request table) whole

variable {console server settings request} {url notice : String} {threshold : Nat}

/-- The command of a table that has a threshold and a URL. -/
theorem tablePlan_of_given
    (known : logThreshold console request.verbose settings.logLevel = .ok (threshold, notice))
    (given : databaseUrl? settings request = some url) :
    tablePlan console server settings request =
      match tableResult server settings request url with
      | .error failure =>
        .finish ((tableSofar server settings request url threshold notice).fail console failure)
      | .ok table =>
        showPlan console (tableSofar server settings request url threshold notice) request
          table := by
  rw [tablePlan_eq, known]
  dsimp only
  rw [given]

/-! ### The log -/

variable (console) in
theorem log_exitPrinting (sofar : Sofar) (code : Nat) (text : String) :
    (sofar.exitPrinting console code text).log = sofar.log := by
  unfold Sofar.exitPrinting
  cases console.printed text <;> rfl

variable (console) in
theorem log_fail (sofar : Sofar) (failure : Failure) :
    (sofar.fail console failure).log = sofar.log := by
  cases failure with
  | schema error => exact log_exitPrinting console sofar 1 _
  | _ => rfl

variable (console) in
theorem log_runOn_afterWriting (sofar : Sofar) (path : Path) (text : String) (table : Table)
    (files : FileTree) :
    ((Plan.write path text (afterWriting console sofar path table)).runOn files).1.log =
      sofar.log := by
  unfold Plan.runOn
  dsimp only
  cases files.write path text with
  | error fault => exact log_exitPrinting console sofar 1 _
  | ok after => exact log_exitPrinting console sofar 0 _

variable (console) in
/-- Showing a table logs nothing. -/
theorem log_showPlan (sofar : Sofar) (table : Table) (files : FileTree) :
    ((showPlan console sofar request table).runOn files).1.log = sofar.log := by
  unfold showPlan
  split
  · unfold summaryPlan
    split
    · exact log_exitPrinting console sofar 0 _
    · cases consoleSummary console table <;> rfl
  · cases render console request.format table with
    | error failure => rfl
    | ok text =>
      cases request.output with
      | none => rfl
      | some path => exact log_runOn_afterWriting console sofar path _ table files

/-- The log and the events are those of reading the table. -/
theorem told_tablePlan
    (known : logThreshold console request.verbose settings.logLevel = .ok (threshold, notice))
    (given : databaseUrl? settings request = some url) (files : FileTree) :
    ((tablePlan console server settings request).runOn files).1.log =
        (tableSofar server settings request url threshold notice).log ∧
      ((tablePlan console server settings request).runOn files).1.events =
        (tableSofar server settings request url threshold notice).events := by
  rw [tablePlan_of_given known given]
  cases tableResult server settings request url with
  | error failure => exact ⟨log_fail console _ failure, events_fail console _ failure⟩
  | ok table =>
    exact ⟨log_showPlan console _ table files, events_showPlan console _ request table files⟩

end CatalogReader.CommandLine
