/-
The files of a run. A run writes at most one file, the one that its arguments name, when the table
is fetched and its text is made, and what it does after that is to say so. Whatever makes a run fail
does so before the file is written, or keeps it from being written, but for one thing: the path is
repeated in a message that is marked up, and is not escaped. A run that wrote its file succeeds just
if that message can be printed, which it can as long as no tag begins in the path.
-/

import CatalogReader.Proofs.Files.Writing
import CatalogReader.Proofs.Runs.CleanFailure
import CatalogReader.Proofs.Runs.Stages

namespace CatalogReader.CommandLine

open CatalogReader.Markup CatalogReader.Text

/-! ### Files that are written -/

/-- The file that a plan writes, and its text. -/
def Plan.written? (files : FileTree) : Plan → Option (Path × String)
  | finish _ => none
  | write path text _ =>
    match files.write path text with
    | .error _ => none
    | .ok _ => some (path, text)

/-- The file that a run writes, and its text. -/
def written? (console : Console) (server : Server) (settings : Settings) (files : FileTree)
    (arguments : List String) : Option (Path × String) :=
  (plan console server settings arguments).written? files

/-- The path of the file that arguments ask for. -/
def outputPath? (arguments : List String) : Option Path :=
  match command? arguments with
  | some (.table request) => request.output
  | _ => none

/-- The files after a plan are those before it, but for the file that it writes. -/
inductive FilesAfter (files : FileTree) : Option (Path × String) → FileTree → Prop
  | unwritten : FilesAfter files none files
  | written {path : Path} {text : String} {after : FileTree} (wrote : files.Wrote path text after) :
      FilesAfter files (some (path, text)) after

theorem filesAfter_runOn (files : FileTree) (plan : Plan) :
    FilesAfter files (plan.written? files) (plan.runOn files).2 := by
  cases plan with
  | finish ending => exact .unwritten
  | write path text next =>
    unfold Plan.written? Plan.runOn
    dsimp only
    cases written : files.write path text with
    | error fault => exact .unwritten
    | ok after => exact .written (FileTree.wrote_of_write written)

/-! ### Endings -/

/-- A run that ends as it should: with the exit code zero and no escaping failure. -/
structure Ending.Succeeds (ending : Ending) : Prop where
  code : ending.exitCode = 0
  quiet : ending.escaped = none

theorem exitCode_escape_ne (sofar : Sofar) (failure : Failure) :
    (sofar.escape failure).exitCode ≠ 0 := Nat.one_ne_zero

variable {console : Console}

/-- What is printed with the exit code zero decides whether a run succeeds. -/
theorem succeeds_exitPrinting_iff (sofar : Sofar) (text : String) :
    (sofar.exitPrinting console 0 text).Succeeds ↔ ∃ shown, console.printed text = .ok shown := by
  unfold Sofar.exitPrinting
  cases console.printed text with
  | error fault =>
    exact ⟨fun succeeds => absurd succeeds.code (exitCode_escape_ne sofar _), nofun⟩
  | ok shown => exact ⟨fun _ => ⟨shown, rfl⟩, fun _ => ⟨rfl, rfl⟩⟩

theorem succeeds_exitPrinting_of_code {sofar : Sofar} {text : String}
    (code : (sofar.exitPrinting console 0 text).exitCode = 0) :
    (sofar.exitPrinting console 0 text).Succeeds := by
  unfold Sofar.exitPrinting at code ⊢
  cases printed : console.printed text with
  | error fault =>
    rw [printed] at code
    exact absurd code (exitCode_escape_ne sofar _)
  | ok shown => exact ⟨rfl, rfl⟩

theorem exitCode_exitPrinting_ne (sofar : Sofar) (text : String) :
    (sofar.exitPrinting console 1 text).exitCode ≠ 0 := by
  unfold Sofar.exitPrinting
  cases console.printed text with
  | error fault => exact exitCode_escape_ne sofar _
  | ok shown => exact Nat.one_ne_zero

theorem exitCode_fail_ne (sofar : Sofar) (failure : Failure) :
    (sofar.fail console failure).exitCode ≠ 0 := by
  cases failure with
  | schema error => exact exitCode_exitPrinting_ne sofar _
  | _ => exact exitCode_escape_ne sofar _

theorem succeeds_printLines_of_code {sofar : Sofar} {lines : List (Except Failure String)}
    (code : (printLines console sofar lines).exitCode = 0) :
    (printLines console sofar lines).Succeeds := by
  induction lines generalizing sofar with
  | nil => exact ⟨rfl, rfl⟩
  | cons line rest inductionHypothesis =>
    unfold printLines at code ⊢
    cases shown : shownLine console line with
    | error failure =>
      rw [shown] at code
      exact absurd code (exitCode_escape_ne sofar failure)
    | ok text =>
      rw [shown] at code
      exact inductionHypothesis code

/-! ### The command of a table -/

/-- What a run says when it wrote a table to a path. -/
def confirmation (path : Path) (table : Table) : String :=
  "[green]Wrote " ++ toString table.columns.length ++ " columns to " ++ path.toText ++ "[/green]"

variable (console) (server : Server) (settings : Settings) (request : Request)

/-- The text of the table that is asked for, and the path that it is to be written to. -/
structure AsksToWrite (path : Path) (table : Table) (text : String) : Prop where
  asked : request.output = some path
  fetched : ∃ url, databaseUrl? settings request = some url ∧
    tableResult server settings request url = .ok table
  rendered : ∃ shown, render console request.format table = .ok shown ∧ text = shown ++ "\n"

/-- Showing a table writes it to the file that is asked for, or it writes nothing, and then no file
is asked for if the exit code is zero. -/
theorem showPlan_cases (sofar : Sofar) (table : Table) :
    (∃ ending, showPlan console sofar request table = .finish ending ∧
        (ending.exitCode = 0 → ending.Succeeds ∧ request.output = none)) ∨
      ∃ path shown, request.output = some path ∧ render console request.format table = .ok shown ∧
        showPlan console sofar request table =
          .write path (shown ++ "\n") (afterWriting console sofar path table) := by
  unfold showPlan
  split
  case isTrue asked =>
    refine Or.inl ?_
    unfold summaryPlan
    split
    · exact ⟨_, rfl, fun code => ⟨succeeds_exitPrinting_of_code code, asked.2⟩⟩
    · cases consoleSummary console table with
      | error failure => exact ⟨_, rfl, fun code => absurd code (exitCode_escape_ne _ _)⟩
      | ok shown => exact ⟨_, rfl, fun _ => ⟨⟨rfl, rfl⟩, asked.2⟩⟩
  case isFalse =>
    cases rendered : render console request.format table with
    | error failure =>
      exact Or.inl ⟨_, rfl, fun code => absurd code (exitCode_escape_ne sofar failure)⟩
    | ok shown =>
      dsimp only
      cases asked : request.output with
      | none => exact Or.inl ⟨_, rfl, fun _ => ⟨⟨rfl, rfl⟩, rfl⟩⟩
      | some path => exact Or.inr ⟨path, shown, rfl, rfl, rfl⟩

/-- The command of a table writes the table that is asked for, or it writes nothing, and then no
file is asked for if the exit code is zero. -/
theorem tablePlan_cases :
    (∃ ending, tablePlan console server settings request = .finish ending ∧
        (ending.exitCode = 0 → ending.Succeeds ∧ request.output = none)) ∨
      ∃ sofar path table text, AsksToWrite console server settings request path table text ∧
        tablePlan console server settings request =
          .write path text (afterWriting console sofar path table) := by
  rw [tablePlan_eq]
  cases logThreshold console request.verbose settings.logLevel with
  | error fault => exact Or.inl ⟨_, rfl, fun code => absurd code (exitCode_escape_ne _ _)⟩
  | ok parts =>
    dsimp only
    cases given : databaseUrl? settings request with
    | none => exact Or.inl ⟨_, rfl, fun code => absurd code (exitCode_exitPrinting_ne _ _)⟩
    | some url =>
      dsimp only
      cases fetched : tableResult server settings request url with
      | error failure => exact Or.inl ⟨_, rfl, fun code => absurd code (exitCode_fail_ne _ _)⟩
      | ok table =>
        refine (showPlan_cases console request _ table).imp_right ?_
        rintro ⟨path, shown, asked, rendered, plan⟩
        exact ⟨_, path, table, _, ⟨asked, ⟨url, given, fetched⟩, ⟨shown, rendered, rfl⟩⟩, plan⟩

/-! ### Runs -/

variable {server settings request}

/-- A run writes the table that is asked for, or it writes nothing, and then no file is asked for if
the exit code is zero. -/
theorem plan_cases (server : Server) (settings : Settings) (arguments : List String) :
    (∃ ending, plan console server settings arguments = .finish ending ∧
        (ending.exitCode = 0 → ending.Succeeds ∧ outputPath? arguments = none)) ∨
      ∃ request sofar path table text, command? arguments = some (.table request) ∧
        AsksToWrite console server settings request path table text ∧
        plan console server settings arguments =
          .write path text (afterWriting console sofar path table) := by
  unfold plan outputPath?
  cases command? arguments with
  | none => exact Or.inl ⟨_, rfl, nofun⟩
  | some command =>
    cases command with
    | config => exact Or.inl ⟨_, rfl, fun code => ⟨succeeds_printLines_of_code code, rfl⟩⟩
    | table request =>
      refine (tablePlan_cases console server settings request).imp_right ?_
      rintro ⟨sofar, path, table, text, asks, plan⟩
      exact ⟨request, sofar, path, table, text, rfl, asks, plan⟩

variable {console}

theorem printed_of_silent {sofar : Sofar} {code : Nat} {text : String}
    (silent : (sofar.exitPrinting console code text).escaped = none) :
    ∃ shown, console.printed text = .ok shown := by
  unfold Sofar.exitPrinting at silent
  cases printed : console.printed text with
  | error fault =>
    rw [printed] at silent
    cases silent
  | ok shown => exact ⟨shown, rfl⟩

/-- What is said about a file that was written is printed if no tag begins in its path. -/
theorem printed_confirmation {path : Path} (free : holdsTag path.toText.toList = false)
    (table : Table) : ∃ shown, console.printed (confirmation path table) = .ok shown := by
  have silent : (afterWriting console Sofar.nothing path table none).escaped = none :=
    escaped_afterWriting Sofar.nothing table free nofun
  exact printed_of_silent silent

/-- A run leaves the files as they are but for the one that it writes, which stands at the place
that its path leads to from the root or from the working directory. If its exit code is zero, it
succeeds, and it writes none if none is asked for, and else the one that is asked for, with the
whole text of the table and a line feed. If it does not succeed, it writes none, unless what it says
about the file cannot be printed, in which case the file is written all the same; and as long as no
tag begins in the path of the file, a run that does not succeed writes none. -/
theorem files_written_by_successful_runs (console : Console) (server : Server)
    (settings : Settings) (files : FileTree) (arguments : List String) :
    FilesAfter files (written? console server settings files arguments)
        (run console server settings files arguments).2 ∧
      ((run console server settings files arguments).1.exitCode = 0 →
        (run console server settings files arguments).1.Succeeds ∧
          (outputPath? arguments = none → written? console server settings files arguments = none) ∧
          ∀ path, outputPath? arguments = some path →
            ∃ request table text, command? arguments = some (.table request) ∧
              AsksToWrite console server settings request path table text ∧
              written? console server settings files arguments = some (path, text)) ∧
      (¬(run console server settings files arguments).1.Succeeds →
        written? console server settings files arguments = none ∨
          ∃ request path table text fault, command? arguments = some (.table request) ∧
            AsksToWrite console server settings request path table text ∧
            written? console server settings files arguments = some (path, text) ∧
            console.printed (confirmation path table) = .error fault) ∧
      ((∀ path, outputPath? arguments = some path → holdsTag path.toText.toList = false) →
        ¬(run console server settings files arguments).1.Succeeds →
          written? console server settings files arguments = none) := by
  refine ⟨filesAfter_runOn files _, ?_⟩
  unfold run written?
  rcases plan_cases console server settings arguments with
    ⟨ending, planned, unasked⟩ | ⟨request, sofar, path, table, text, asked, asks, planned⟩
  · rw [planned]
    refine ⟨fun code => ⟨(unasked code).1, fun _ => rfl, fun path asked => ?_⟩,
      fun _ => Or.inl rfl, fun _ _ => rfl⟩
    rw [(unasked code).2] at asked
    cases asked
  · have named : outputPath? arguments = some path := by
      unfold outputPath?
      rw [asked]
      exact asks.asked
    rw [planned, named]
    unfold Plan.runOn Plan.written?
    dsimp only
    cases files.write path text with
    | error fault =>
      exact ⟨fun code => absurd code (exitCode_exitPrinting_ne sofar _), fun _ => Or.inl rfl,
        fun _ _ => rfl⟩
    | ok after =>
      dsimp only
      have confirmed : (afterWriting console sofar path table none).Succeeds ↔
          ∃ shown, console.printed (confirmation path table) = .ok shown :=
        succeeds_exitPrinting_iff sofar (confirmation path table)
      refine ⟨fun code => ⟨succeeds_exitPrinting_of_code code, nofun, fun other same => ?_⟩,
        fun fails => ?_, fun free fails => ?_⟩
      · obtain rfl := Option.some.inj same
        exact ⟨request, table, text, asked, asks, rfl⟩
      · cases printed : console.printed (confirmation path table) with
        | ok shown => exact absurd (confirmed.mpr ⟨shown, printed⟩) fails
        | error fault =>
          exact Or.inr ⟨request, path, table, text, fault, asked, asks, rfl, printed⟩
      · exact absurd (confirmed.mpr (printed_confirmation (free path rfl) table)) fails

/-- A server with a table of one column. -/
def serverNaming (column : String) : Server :=
  Server.empty.change (.tables [⟨⟨"public", "users"⟩,
    [.row ⟨column, 1, "NO", "bigint", "pg_catalog", "int8"⟩]⟩])

/-- The table of that server. -/
def usersTable (column : String) : Table :=
  ⟨"users", [⟨some column, .portable .bigint, false, none⟩]⟩

/-- A request for the names of its columns. -/
def namesRequest (output : Option Path) : Request :=
  ⟨"users", none, none, .selectList, output, false⟩

theorem tableResult_serverNaming (column : String) (output : Option Path) :
    tableResult (serverNaming column) localSettings (namesRequest output)
      "postgres://localhost/db" = .ok (usersTable column) := by
  have read : tableResult (serverNaming column) localSettings (namesRequest output)
      "postgres://localhost/db" =
        (Session.localReader.fetch (serverNaming column) "users").result := rfl
  have assembled : (Session.localReader.fetch (serverNaming column) "users").result =
      (Reader.assemble ⟨"public", "users"⟩
        [⟨column, 1, "NO", "bigint", "pg_catalog", "int8"⟩] Session.localReader).result := rfl
  rw [read, assembled, Reader.assemble_result]
  unfold Catalog.tableOfRows Catalog.sortRows
  rw [List.mergeSort_singleton]
  rfl

theorem plan_serverNaming {arguments : List String} {output : Option Path} (console : Console)
    (column : String) (asked : command? arguments = some (.table (namesRequest output))) :
    plan console (serverNaming column) localSettings arguments =
      showPlan console (tableSofar (serverNaming column) localSettings (namesRequest output)
        "postgres://localhost/db" 30 "") (namesRequest output) (usersTable column) := by
  unfold plan
  rw [asked]
  dsimp only
  rw [tablePlan_of_given rfl rfl, tableResult_serverNaming]

theorem showPlan_names (sofar : Sofar) (path : Path) :
    showPlan console sofar (namesRequest (some path)) (usersTable "id") =
      .write path "\"id\"\n" (afterWriting console sofar path (usersTable "id")) := rfl

/-- Arguments to write the names of the columns to a file. -/
def namesArguments (file : String) : List String :=
  ["table", "users", "--format=select-list", "-o", file]

/-- A file in the working directory. -/
def fileHere (file : String) : Path := ⟨.here, [file.toList]⟩

/-- An empty working directory below a directory for temporary files. -/
def workFiles : FileTree :=
  ⟨[(["tmp".toList], .directory), (["tmp".toList, "work".toList], .directory)],
    ["tmp".toList, "work".toList]⟩

/-- The name of a column, written to one place whose path begins once at the root and leads once out
of the working directory. -/
theorem files_written_by_successful_runs_names :
    ∀ file ∈ ["/tmp/users.sql", "../users.sql"],
      outputPath? (namesArguments file) = some (Path.ofText file) ∧
      holdsTag (Path.ofText file).toText.toList = false ∧
      (run emojiConsole (serverNaming "id") localSettings workFiles
        (namesArguments file)).1.Succeeds ∧
      FilesAfter workFiles (some (Path.ofText file, "\"id\"\n"))
        (run emojiConsole (serverNaming "id") localSettings workFiles (namesArguments file)).2 ∧
      (run emojiConsole (serverNaming "id") localSettings workFiles (namesArguments file)).2.node?
        ["tmp".toList, "users.sql".toList] = some (.file "\"id\"\n") := by
  intro file either
  have asked : command? (namesArguments file) =
      some (.table (namesRequest (some (Path.ofText file)))) := by
    rcases List.mem_pair.mp either with rfl | rfl <;> rfl
  have free : holdsTag (Path.ofText file).toText.toList = false := by
    rcases List.mem_pair.mp either with rfl | rfl <;> decide
  have located : workFiles.locate (Path.ofText file) = .ok ["tmp".toList, "users.sql".toList] := by
    rcases List.mem_pair.mp either with rfl | rfl <;> decide +kernel
  have named : outputPath? (namesArguments file) = some (Path.ofText file) := by
    unfold outputPath?
    rw [asked]
    rfl
  have written : written? emojiConsole (serverNaming "id") localSettings workFiles
      (namesArguments file) = some (Path.ofText file, "\"id\"\n") := by
    unfold written?
    rw [plan_serverNaming _ "id" asked, showPlan_names]
    unfold Plan.written? FileTree.write
    dsimp only
    rw [located]
    rfl
  obtain ⟨after, -, -, quiet⟩ := files_written_by_successful_runs emojiConsole (serverNaming "id")
    localSettings workFiles (namesArguments file)
  rw [written] at after quiet
  refine ⟨named, free, by_contra fun fails => ?_, after, ?_⟩
  · cases quiet (fun path same => Option.some.inj (named.symm.trans same) ▸ free) fails
  · cases after with
    | written wrote =>
      obtain ⟨place, leads, -, holds, -, -⟩ := wrote
      cases located.symm.trans leads
      exact holds

/-- A path in which a tag begins that names a colour with an empty component. -/
def colouredFile : String := "[rgb(1,,1)].sql"

theorem printed_colouredFile (console : Console) :
    console.printed (confirmation (fileHere colouredFile) (usersTable "id")) =
      .error .emptyComponent := by
  have message : (confirmation (fileHere colouredFile) (usersTable "id")).toList =
      MessageColor.green.mark ("Wrote 1 columns to ".toList ++
        '[' :: ('r' :: "gb(1,,1)".toList ++ ']' :: ".sql".toList)) := by
    unfold confirmation
    rw [String.toList_append, String.toList_append, String.toList_append, String.toList_append]
    rfl
  have read : tagName ('r' :: "gb(1,,1)".toList) = .error .emptyComponent := by decide +kernel
  have refused : Markup.render console.emoji
      (MessageColor.green.mark ("Wrote 1 columns to ".toList ++
        '[' :: ('r' :: "gb(1,,1)".toList ++ ']' :: ".sql".toList))) = .error .emptyComponent := by
    refine MessageColor.green.render_mark_of_refused rfl rfl (fun _ => rfl) fun rendering _ => ?_
    rw [rendering.tag_of_bare (by decide) (by decide), read]
    rfl
  exact printed_of_refused (message ▸ refused)

/-- The files with the coloured one. -/
def colouredFiles : FileTree :=
  workFiles.put ["tmp".toList, "work".toList, colouredFile.toList] "\"id\"\n"

/-- The file is written, and then the message about it is refused for the tag in the path, so the
run ends with an escaping failure. -/
theorem file_written_by_failing_run :
    command? (namesArguments colouredFile) =
        some (.table (namesRequest (some (fileHere colouredFile)))) ∧
      (run emojiConsole (serverNaming "id") localSettings workFiles
        (namesArguments colouredFile)).1.exitCode = 1 ∧
      (run emojiConsole (serverNaming "id") localSettings workFiles
        (namesArguments colouredFile)).1.escaped = some (.markup .emptyComponent) ∧
      (run emojiConsole (serverNaming "id") localSettings workFiles
        (namesArguments colouredFile)).2 = colouredFiles := by
  have asked : command? (namesArguments colouredFile) =
      some (.table (namesRequest (some (fileHere colouredFile)))) := rfl
  have goes (sofar : Sofar) :
      (Plan.write (fileHere colouredFile) "\"id\"\n"
        (afterWriting emojiConsole sofar (fileHere colouredFile) (usersTable "id"))).runOn
          workFiles =
        (sofar.exitPrinting emojiConsole 0
          (confirmation (fileHere colouredFile) (usersTable "id")), colouredFiles) := rfl
  unfold run
  rw [plan_serverNaming _ "id" asked, showPlan_names, goes,
    exitPrinting_of_error (printed_colouredFile _)]
  exact ⟨asked, rfl, rfl, rfl⟩

end CatalogReader.CommandLine
