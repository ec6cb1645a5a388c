/-
How the command of a table fails. An error of reading a schema is printed and ends the command with
the exit code 1. What the command prints is marked up and holds texts from outside, which are not
escaped, so a tag in one of them can spoil the message that tells of it. As long as no tag begins in
any of them, nothing escapes from the command but the refusal of a URL and the fault in closing a
connection, and an error is printed with all it says.
-/

import CatalogReader.Proofs.Runs.Escapes
import CatalogReader.Proofs.Runs.Presentation

namespace CatalogReader.CommandLine

open CatalogReader.Layout CatalogReader.Markup CatalogReader.Text

variable {server : Server} {settings : Settings} {request : Request} {url : String}
  {console : Console}

/-! ### Texts from outside -/

/-- The texts from outside that the command of a table says in a colour or shows in a summary. -/
inductive Interpolates (server : Server) (settings : Settings) (request : Request) : String → Prop
  /-- The word for the threshold of the log, which is not known. -/
  | level (quiet : request.verbose = false) (unknown : threshold? settings.logLevel = none) :
      Interpolates server settings request (quote settings.logLevel)
  /-- The message of an error of reading a schema. -/
  | error {url : String} {error : SchemaError} (given : databaseUrl? settings request = some url)
      (failed : tableResult server settings request url = .error (.schema error)) :
      Interpolates server settings request error.text
  /-- The path of the file that is to be written. -/
  | path {url : String} {table : Table} {path : Path}
      (given : databaseUrl? settings request = some url)
      (fetched : tableResult server settings request url = .ok table)
      (asked : request.output = some path) : Interpolates server settings request path.toText
  /-- The reference to a table that has no columns. -/
  | reference {url : String} {table : Table} (asked : request.format = .summary)
      (given : databaseUrl? settings request = some url)
      (fetched : tableResult server settings request url = .ok table)
      (shown : request.output = none) (empty : table.columns.isEmpty = true) :
      Interpolates server settings request request.reference
  /-- The name of the table. -/
  | table {url : String} {table : Table} (asked : request.format = .summary)
      (given : databaseUrl? settings request = some url)
      (fetched : tableResult server settings request url = .ok table) :
      Interpolates server settings request table.name
  /-- The name of a column. -/
  | column {url : String} {table : Table} {column : Column} {name : String}
      (asked : request.format = .summary) (given : databaseUrl? settings request = some url)
      (fetched : tableResult server settings request url = .ok table)
      (member : column ∈ table.columns) (named : column.name = some name) :
      Interpolates server settings request name
  /-- The type of a column. -/
  | type {url : String} {table : Table} {column : Column} {type : String}
      (asked : request.format = .summary) (given : databaseUrl? settings request = some url)
      (fetched : tableResult server settings request url = .ok table)
      (member : column ∈ table.columns) (typed : column.type.text? = some type) :
      Interpolates server settings request type

/-! ### The command -/

/-- The command of a table goes on from what it says about its threshold. -/
theorem runOn_tablePlan (files : FileTree)
    (free : request.verbose = false → threshold? settings.logLevel = none →
      holdsTag (quote settings.logLevel).toList = false) :
    (databaseUrl? settings request = none ∧
        ((tablePlan console server settings request).runOn files).1.escaped = none) ∨
      ∃ url sofar, databaseUrl? settings request = some url ∧
        (tablePlan console server settings request).runOn files =
          match tableResult server settings request url with
          | .error failure => (sofar.fail console failure, files)
          | .ok table => (showPlan console sofar request table).runOn files := by
  obtain ⟨⟨threshold, notice⟩, known⟩ := @logThreshold_of_free console _ _ free
  unfold tablePlan tableResult
  rw [known]
  dsimp only
  cases databaseUrl? settings request with
  | none =>
    have frames : MessageColor.red.Frames "[red]" "[/red]" [] [] :=
      ⟨rfl, rfl, by decide, by decide⟩
    have message : "[red]No database URL. Pass --url or set SCHEMACONV_DATABASE_URL.[/red]" =
        "[red]" ++ "No database URL. Pass --url or set SCHEMACONV_DATABASE_URL." ++ "[/red]" := rfl
    refine Or.inl ⟨rfl, ?_⟩
    rw [message]
    exact @escaped_exitPrinting console _ 1 _ _ _ _ _ frames _ rfl
  | some url =>
    dsimp only
    cases made : readerFor settings request url with
    | error failure =>
      refine Or.inr ⟨url, Sofar.nothing.print notice, rfl, ?_⟩
      rw [made]
      rfl
    | ok reader =>
      refine Or.inr ⟨url, ⟨(Sofar.nothing.print notice).output,
        shownLog threshold (reader.fetchOnce server request.reference).entries,
        (reader.fetchOnce server request.reference).events⟩, rfl, ?_⟩
      rw [made]
      dsimp only [Except.bind]
      rw [Reader.result_fetchOnce]
      cases (reader.fetch server request.reference).result <;> rfl

theorem presentable_of_unmarked (full : server.HasFullRows)
    (unmarked : ∀ text, Interpolates server settings request text → holdsTag text.toList = false)
    {table : Table} (given : databaseUrl? settings request = some url)
    (fetched : tableResult server settings request url = .ok table) :
    Presentable request table where
  showable := by
    unfold tableResult at fetched
    cases made : readerFor settings request url with
    | error failure =>
      rw [made] at fetched
      cases fetched
    | ok reader =>
      rw [made] at fetched
      exact Reader.isShowable_of_fetch full fetched
  reference asked shown empty := unmarked _ (.reference asked given fetched shown empty)
  name asked := unmarked _ (.table asked given fetched)
  columns asked _ member _ named := unmarked _ (.column asked given fetched member named)
  types asked _ member _ typed := unmarked _ (.type asked given fetched member typed)

/-- As long as no tag begins in any text from outside that the command of a table marks up: what
escapes from it is the refusal of the URL, or the fault in closing a connection that was opened, and
nothing else. If making the reader or fetching the table ends with an error of reading a schema,
then nothing escapes, the exit code is 1, and if the message of the error is verbatim and holds no
code of an emoji that the console knows, the output ends with it behind `Error: `, wrapped into
lines. The console may have any width, and two cells of it, which the widest characters take, are
enough for the message. -/
theorem table_fails_cleanly {arguments : List String}
    (asked : command? arguments = some (.table request)) (raised : server.RaisesDatabaseErrors)
    (full : server.HasFullRows)
    (unmarked : ∀ text, Interpolates server settings request text → holdsTag text.toList = false)
    (console : Console) (files : FileTree) :
    (∀ failure, (run console server settings files arguments).1.escaped = some failure ↔
        Escapes server settings request failure) ∧
      ∀ url error, databaseUrl? settings request = some url →
        tableResult server settings request url = .error (.schema error) →
          (run console server settings files arguments).1.exitCode = 1 ∧
          (run console server settings files arguments).1.escaped = none ∧
          (2 ≤ console.width → isVerbatim console.emoji error.text.toList = true →
            ∃ notice lines,
              (run console server settings files arguments).1.output =
                  notice ++ String.ofList (Console.endLines lines) ∧
                Wraps lines (untabbed ("Error: ".toList ++ error.text.toList))) := by
  rw [run_of_asked asked]
  rcases @runOn_tablePlan server settings request console files fun quiet unknown =>
    unmarked _ (.level quiet unknown) with ⟨missing, quiet⟩ | ⟨url, sofar, given, goes⟩
  · rw [quiet, missing]
    refine ⟨fun failure => ⟨nofun, fun escapes => ?_⟩, nofun⟩
    cases escapes with
    | refused given | unclosed given =>
      rw [missing] at given
      cases given
  · rw [goes]
    have outcomes := escapes_iff raised full given
    cases ended : tableResult server settings request url with
    | ok table =>
      rw [ended] at outcomes
      have silent := @escaped_showPlan console _ _ sofar
        (presentable_of_unmarked full unmarked given ended)
        (fun _ asked => unmarked _ (.path given ended asked)) files
      refine ⟨fun failure => ?_, fun other error same failed => ?_⟩
      · dsimp only
        rw [silent, outcomes failure]
        exact ⟨nofun, nofun⟩
      · obtain rfl := Option.some.inj (given.symm.trans same)
        rw [ended] at failed
        cases failed
    | error failure =>
      rw [ended] at outcomes
      have free (error : SchemaError) (same : failure = .schema error) :
          holdsTag error.text.toList = false := unmarked _ (.error given (same ▸ ended))
      refine ⟨fun other => ?_, fun other error same failed => ?_⟩
      · rw [outcomes other, Except.error.injEq]
        exact escaped_fail_iff sofar free other
      · obtain rfl := Option.some.inj (given.symm.trans same)
        obtain rfl := Except.error.inj (ended.symm.trans failed)
        obtain ⟨code, silent, said⟩ := @fail_schema console sofar _ (free error rfl)
        exact ⟨code, silent, fun wide verbatim => ⟨sofar.output, said wide verbatim⟩⟩

/-- A server with a table of one column, and the word for its nullability. -/
def serverSaying (nullability : String) : Server :=
  Server.empty.change (.tables [⟨⟨"public", "users"⟩,
    [.row ⟨"id", 1, nullability, "bigint", "pg_catalog", "int8"⟩]⟩])

/-- Settings with the URL of a database. -/
def localSettings : Settings := ⟨some "postgres://localhost/db", "public", none, "WARNING"⟩

/-- The request for the summary of a table. -/
def usersRequest : Request := ⟨"users", none, none, .summary, none, false⟩

theorem command?_users : command? ["table", "users"] = some (.table usersRequest) := rfl

theorem raisesDatabaseErrors_serverSaying (nullability : String) :
    (serverSaying nullability).RaisesDatabaseErrors := nofun

theorem hasFullRows_serverSaying (nullability : String) :
    (serverSaying nullability).HasFullRows := by
  intro table inTables record inRecords
  obtain rfl := List.mem_singleton.mp inTables
  obtain rfl := List.mem_singleton.mp inRecords
  exact ⟨⟨"id", 1, nullability, "bigint", "pg_catalog", "int8"⟩, rfl, rfl, rfl, rfl, rfl, rfl⟩

/-- A word for the nullability that is neither of the two is an error. -/
theorem tableResult_serverSaying {nullability : String}
    (unknown : Catalog.nullabilityOf? nullability = none) :
    tableResult (serverSaying nullability) localSettings usersRequest "postgres://localhost/db" =
      .error (.schema (.invalidNullability nullability "id")) := by
  show (Reader.assemble ⟨"public", "users"⟩
    [⟨"id", 1, nullability, "bigint", "pg_catalog", "int8"⟩] Session.localReader).result = _
  rw [Reader.assemble_result]
  unfold Catalog.tableOfRows Catalog.sortRows
  rw [List.mergeSort_singleton]
  unfold Catalog.columnsOfRows Catalog.columnOfRow
  dsimp only
  rw [unknown]
  rfl

theorem interpolates_serverSaying {nullability text : String}
    (unknown : Catalog.nullabilityOf? nullability = none)
    (inserted : Interpolates (serverSaying nullability) localSettings usersRequest text) :
    text = (SchemaError.invalidNullability nullability "id").text := by
  have failed := tableResult_serverSaying unknown
  cases inserted with
  | level quiet unknownLevel => cases unknownLevel
  | error given other =>
    cases given
    rw [failed] at other
    cases other
    rfl
  | path given fetched | reference asked given fetched | table asked given fetched
  | column asked given fetched | type asked given fetched =>
    cases given
    rw [failed] at fetched
    cases fetched

/-- A word that holds no tag is told as it is. -/
theorem table_fails_cleanly_maybe :
    command? ["table", "users"] = some (.table usersRequest) ∧
      (serverSaying "MAYBE").RaisesDatabaseErrors ∧ (serverSaying "MAYBE").HasFullRows ∧
      (∀ text, Interpolates (serverSaying "MAYBE") localSettings usersRequest text →
        holdsTag text.toList = false) ∧
      (run emojiConsole (serverSaying "MAYBE") localSettings .empty ["table", "users"]).1.exitCode =
        1 ∧
      ∃ notice lines,
        (run emojiConsole (serverSaying "MAYBE") localSettings .empty ["table", "users"]).1.output =
            notice ++ String.ofList (Console.endLines lines) ∧
          Wraps lines "Error: Unexpected is_nullable value: 'MAYBE' (column 'id')".toList := by
  have unmarked : ∀ text, Interpolates (serverSaying "MAYBE") localSettings usersRequest text →
      holdsTag text.toList = false := by
    intro text inserted
    obtain rfl := interpolates_serverSaying rfl inserted
    decide
  have fails := table_fails_cleanly command?_users (raisesDatabaseErrors_serverSaying "MAYBE")
    (hasFullRows_serverSaying "MAYBE") unmarked emojiConsole .empty
  obtain ⟨code, -, said⟩ := fails.2 _ _ rfl (tableResult_serverSaying rfl)
  obtain ⟨notice, lines, printed, wrapped⟩ := said (by decide) (by decide)
  have told : untabbed
      ("Error: ".toList ++ (SchemaError.invalidNullability "MAYBE" "id").text.toList) =
        "Error: Unexpected is_nullable value: 'MAYBE' (column 'id')".toList := by decide +kernel
  exact ⟨command?_users, raisesDatabaseErrors_serverSaying "MAYBE",
    hasFullRows_serverSaying "MAYBE", unmarked, code, notice, lines, printed, told ▸ wrapped⟩

/-- The word is taken for a closing tag that closes nothing, and the command ends with a failure of
the markup in place of the error. -/
theorem table_fails_uncleanly :
    command? ["table", "users"] = some (.table usersRequest) ∧
      (serverSaying "[/b]").RaisesDatabaseErrors ∧ (serverSaying "[/b]").HasFullRows ∧
      (run emojiConsole (serverSaying "[/b]") localSettings .empty ["table", "users"]).1.escaped =
        some (.markup .nothingToClose) := by
  refine ⟨command?_users, raisesDatabaseErrors_serverSaying "[/b]",
    hasFullRows_serverSaying "[/b]", ?_⟩
  rw [run_of_asked command?_users]
  rcases @runOn_tablePlan (serverSaying "[/b]") localSettings usersRequest emojiConsole .empty nofun
    with ⟨missing, -⟩ | ⟨url, sofar, given, goes⟩
  · cases missing
  · cases given
    rw [goes, tableResult_serverSaying rfl]
    have message : ("[red]Error: " ++ (SchemaError.invalidNullability "[/b]" "id").text ++
        "[/red]").toList =
          MessageColor.red.mark ("Error: Unexpected is_nullable value: '".toList ++
            '[' :: '/' :: ("b".toList ++ ']' :: "' (column 'id')".toList)) := by decide
    have read : tagName (trim "b".toList) = .ok "bold".toList := by decide +kernel
    have refused (after : List Char) : Markup.render twoEmoji (MessageColor.red.mark
        ("Error: Unexpected is_nullable value: '".toList ++
          '[' :: '/' :: ("b".toList ++ ']' :: after))) = .error .nothingToClose :=
      MessageColor.red.render_mark_of_stray rfl rfl (fun _ => rfl) (by decide) rfl read (by decide)
    show (sofar.exitPrinting emojiConsole 1 _).escaped = _
    rw [exitPrinting_of_error (printed_of_refused (message ▸ refused _))]
    rfl

end CatalogReader.CommandLine
