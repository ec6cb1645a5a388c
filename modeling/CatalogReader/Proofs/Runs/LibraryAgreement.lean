/-
The command of a table and the library. Both read a table, each with a reader made for it, and both
write it in the same forms; what a run has of its own is the timeout of the settings, the threshold
of the log, and how it hands the text over. So a run shows a table in the JSON format or as a list
of names just if the library fetches the table and has a text of it, and the driver is asked the
same in both. The text is the whole of a file that is asked for, and it is printed on standard
output but for the sequences that steer a terminal, of which only names in a list can hold any.
-/

import CatalogReader.Proofs.Exports.PlainForms
import CatalogReader.Proofs.Runs.Files
import CatalogReader.Proofs.Runs.SchemaNaming

namespace CatalogReader

open CatalogReader.Text

/-! ### Readers with and without a timeout -/

/-- A later timeout takes the place of an earlier one. -/
theorem Event.within_within (first second : Option Int) (event : Event) :
    (event.within first).within second = event.within second := by
  cases event <;> rfl

/-- A timeout changes nothing in a fetch but the events of it. -/
theorem Reader.fetchOnce_within (server : Server) (reader : Reader) (schema reference : String)
    (timeout : Option Int) :
    let library := (reader.told schema none).fetchOnce server reference
    let own := (reader.told schema timeout).fetchOnce server reference
    own.result = library.result ∧ own.entries = library.entries ∧
      own.events = library.events.map (Event.within timeout) := by
  dsimp only
  rw [Reader.fetchOnce_told server rfl, Reader.fetchOnce_told server rfl]
  refine ⟨rfl, rfl, ?_⟩
  rw [Outcome.events_told, Outcome.events_told, List.map_map]
  exact List.map_congr_left fun event _ => (Event.within_within none timeout event).symm

/-! ### Fetches of the library -/

namespace Session

theorem keep_of_untabled {ending : Except Failure Table × Session}
    (untabled : ending.2.table = none) :
    (keep ending).1 = ending.1.bind Answer.ofTable ∧
      (keep ending).2.table = ending.1.toOption := by
  obtain ⟨result, session⟩ := ending
  cases result with
  | error failure => exact ⟨rfl, untabled⟩
  | ok table => exact ⟨rfl, rfl⟩

/-- What is reported of a fetch with a reader that is made for it, and the table that it leaves. -/
theorem report_fetchOnce {url : String} {schema : Option String} {reader : Reader}
    (made : Reader.ofUrl url schema none = .ok reader) (server : Server) (reference : String) :
    let outcome := reader.fetchOnce server reference
    let library := (start server localReader).report (.fetchOnce url schema reference)
    library.1.events = outcome.events ∧ library.1.entries = outcome.entries ∧
      library.2.table = outcome.result.toOption ∧
      library.1.result = outcome.result.bind Answer.ofTable := by
  dsimp only
  unfold report
  rw [step, made]
  dsimp only
  generalize performed : ((start server localReader).addReader reader).perform
    (start server localReader).count (fun server => Reader.fetchOnce server reference) = ending
  have read : ending.1 = (reader.fetchOnce server reference).result := performed ▸ rfl
  have untabled : ending.2.table = none := performed ▸ rfl
  have trace : ending.2.trace =
      (reader.fetchOnce server reference).events.map fun event => (1, event) := performed ▸ rfl
  have entries : ending.2.entries = (reader.fetchOnce server reference).entries := performed ▸ rfl
  obtain ⟨result, table⟩ := keep_of_untabled untabled
  obtain ⟨kept, same⟩ := keep_eq ending
  refine ⟨?_, ?_, table.trans (congrArg Except.toOption read),
    result.trans (congrArg (Except.bind · Answer.ofTable) read)⟩
  · show ((keep ending).2.trace.drop 0).map Prod.snd = _
    rw [same]
    show (ending.2.trace.drop 0).map Prod.snd = _
    rw [List.drop_zero, trace, List.map_map]
    exact List.map_id _
  · show (keep ending).2.entries.drop 0 = _
    rw [same]
    exact entries

end Session

namespace CommandLine

open CatalogReader.Markup

variable {console : Console} (server : Server) (settings : Settings) (request : Request)
  (url : String)

/-- What the library reports when it fetches the table of a request, and the session after it. -/
def libraryFetch : Session.Report × Session :=
  (Session.start server Session.localReader).report
    (.fetchOnce url (some (effectiveSchema settings request)) request.reference)

theorem effectiveSchema_ne_empty : (effectiveSchema settings request).isEmpty = false := by
  unfold effectiveSchema
  cases found : [request.schema.getD "", settings.defaultSchema].find?
      fun schema => !schema.isEmpty with
  | none => rfl
  | some schema => simpa using List.find?_some found

/-- The reader of the library is told the effective schema and no timeout. -/
theorem ofUrl_effectiveSchema :
    Reader.ofUrl url (some (effectiveSchema settings request)) none =
      (Reader.ofUrl url none none).map (Reader.told (effectiveSchema settings request) none) := by
  have kept : TableName.schemaOr Reader.publicSchema (some (effectiveSchema settings request)) =
      effectiveSchema settings request :=
    if_neg (Bool.eq_false_iff.mp (effectiveSchema_ne_empty settings request))
  rw [Reader.ofUrl_eq_told, kept]

/-- What the command of a table reads is what the library fetches. -/
theorem agrees_libraryFetch (threshold : Nat) (notice : String) :
    tableSofar server settings request url threshold notice =
        ⟨notice, shownLog threshold (libraryFetch server settings request url).1.entries,
          (libraryFetch server settings request url).1.events.map
            (Event.within settings.connectTimeout)⟩ ∧
      (libraryFetch server settings request url).2.table =
        (tableResult server settings request url).toOption ∧
      (libraryFetch server settings request url).1.result =
        (tableResult server settings request url).bind Answer.ofTable := by
  have library := ofUrl_effectiveSchema settings request url
  have own := readerFor_eq settings request url
  cases plain : Reader.ofUrl url none none with
  | error failure =>
    rw [plain] at library own
    have fetched : tableResult server settings request url = .error failure := by
      unfold tableResult
      rw [own]
      rfl
    have notices : Sofar.nothing.print notice = ⟨notice, "", []⟩ :=
      congrArg (fun output => Sofar.mk output "" []) String.empty_append
    unfold tableSofar libraryFetch Session.report
    rw [Session.step, library, own, fetched]
    exact ⟨notices, rfl, rfl⟩
  | ok reader =>
    rw [plain] at library own
    obtain ⟨events, entries, table, result⟩ :=
      Session.report_fetchOnce library server request.reference
    obtain ⟨sameResult, sameEntries, sameEvents⟩ := Reader.fetchOnce_within server reader
      (effectiveSchema settings request) request.reference settings.connectTimeout
    have fetched : tableResult server settings request url =
        ((reader.told (effectiveSchema settings request) none).fetchOnce server
          request.reference).result := by
      unfold tableResult
      rw [own, ← sameResult]
      exact Reader.result_fetchOnce.symm
    unfold tableSofar libraryFetch
    rw [own, events, entries, table, result, fetched]
    dsimp only [Except.map]
    rw [sameEntries, sameEvents]
    exact ⟨rfl, rfl, rfl⟩

variable {server settings request url}

/-! ### Texts that are handed over -/

/-- What is done about the text of a table. -/
def exportPlan (console : Console) (sofar : Sofar) (request : Request) (table : Table)
    (text : String) : Plan :=
  match request.output with
  | none => .finish ((sofar.print (plainText (text ++ "\n"))).exit 0)
  | some path => .write path (text ++ "\n") (afterWriting console sofar path table)

theorem showPlan_of_exported (exported : request.format ≠ .summary) (sofar : Sofar)
    (table : Table) :
    showPlan console sofar request table =
      match render console request.format table with
      | .error failure => .finish (sofar.escape failure)
      | .ok text => exportPlan console sofar request table text :=
  if_neg fun asked => exported asked.1

theorem plainText_eq_iff (text : String) :
    plainText (text ++ "\n") = text ++ "\n" ↔ holdsSequence text.toList = false := by
  have lines : holdsSequence (text ++ "\n").toList = holdsSequence text.toList := by
    rw [String.toList_append]
    exact (holdsSequence_append rfl text.toList []).trans (Bool.or_false _)
  rw [← String.toList_inj, plainText, String.toList_ofList, dropSequences_eq_self_iff, lines]

/-- The text of a table is printed whole in the JSON format, and as a list of names if no name of a
column holds a sequence. -/
theorem printed_whole_iff (exported : request.format ≠ .summary) {table : Table} {text : String}
    (rendered : render console request.format table = .ok text) :
    plainText (text ++ "\n") = text ++ "\n" ↔
      (request.format = .selectList → table.Unsteered) := by
  rw [plainText_eq_iff]
  unfold render at rendered
  cases asked : request.format with
  | summary => exact absurd asked exported
  | json =>
    rw [asked] at rendered
    exact ⟨fun _ => nofun, fun _ => Table.holdsSequence_renderJson rendered⟩
  | selectList =>
    rw [asked] at rendered
    exact (Table.holdsSequence_selectList rendered).trans ⟨fun free _ => free, fun free => free rfl⟩

/-! ### Agreement -/

/-- The library fetches a table, and renders it in the form that is asked for. -/
structure Exports (console : Console) (server : Server) (settings : Settings) (request : Request)
    (url : String) (table : Table) (text : String) : Prop where
  fetched : (libraryFetch server settings request url).2.table = some table
  rendered : render console request.format table = .ok text

theorem exports_iff {table : Table} {text : String} :
    Exports console server settings request url table text ↔
      tableResult server settings request url = .ok table ∧
        render console request.format table = .ok text := by
  obtain ⟨-, tables, -⟩ := agrees_libraryFetch server settings request url 0 ""
  have fetched : (libraryFetch server settings request url).2.table = some table ↔
      tableResult server settings request url = .ok table := by
    rw [tables]
    cases tableResult server settings request url with
    | error failure => exact ⟨nofun, nofun⟩
    | ok found =>
      exact ⟨fun same => congrArg Except.ok (Option.some.inj same),
        fun same => congrArg some (Except.ok.inj same)⟩
  exact ⟨fun exports => ⟨fetched.mp exports.fetched, exports.rendered⟩,
    fun ⟨read, rendered⟩ => ⟨fetched.mpr read, rendered⟩⟩

theorem Exports.unique {first second : Table} {firstText secondText : String}
    (one : Exports console server settings request url first firstText)
    (other : Exports console server settings request url second secondText) :
    first = second ∧ firstText = secondText := by
  obtain rfl := Option.some.inj (one.fetched.symm.trans other.fetched)
  exact ⟨rfl, Except.ok.inj (one.rendered.symm.trans other.rendered)⟩

/-- An error of reading a schema is the same in both. -/
theorem tableResult_of_schema {error : SchemaError}
    (failed : (libraryFetch server settings request url).1.result = .error (.schema error)) :
    tableResult server settings request url = .error (.schema error) := by
  obtain ⟨-, -, results⟩ := agrees_libraryFetch server settings request url 0 ""
  rw [results] at failed
  cases read : tableResult server settings request url with
  | error failure =>
    rw [read] at failed
    cases failed
    rfl
  | ok table =>
    rw [read] at failed
    change Answer.ofTable table = _ at failed
    unfold Answer.ofTable at failed
    split at failed <;> cases failed

theorem logThreshold_of_known {level : Nat} (verbose : Bool) {word : String}
    (known : threshold? word = some level) :
    logThreshold console verbose word =
      .ok (if verbose then LogLevel.debug.severity else level, "") := by
  unfold logThreshold
  rw [known]
  cases verbose <;> rfl

/-- The command of a table exports what the library exports, and if that is nothing, its exit
code is not zero. -/
theorem tablePlan_of_exported {threshold : Nat} {notice : String}
    (exported : request.format ≠ .summary)
    (known : logThreshold console request.verbose settings.logLevel = .ok (threshold, notice))
    (given : databaseUrl? settings request = some url) :
    (∃ ending, tablePlan console server settings request = .finish ending ∧ ending.exitCode ≠ 0 ∧
        ∀ table text, ¬Exports console server settings request url table text) ∨
      ∃ table text, Exports console server settings request url table text ∧
        tablePlan console server settings request =
          exportPlan console (tableSofar server settings request url threshold notice) request
            table text := by
  rw [tablePlan_of_given known given]
  cases read : tableResult server settings request url with
  | error failure =>
    refine Or.inl ⟨_, rfl, exitCode_fail_ne _ failure, fun table text exports => ?_⟩
    cases read.symm.trans (exports_iff.mp exports).1
  | ok table =>
    dsimp only
    rw [showPlan_of_exported exported]
    cases rendered : render console request.format table with
    | error failure =>
      refine Or.inl ⟨_, rfl, exitCode_escape_ne _ failure, fun other text exports => ?_⟩
      obtain ⟨same, shown⟩ := exports_iff.mp exports
      cases read.symm.trans same
      cases rendered.symm.trans shown
    | ok text => exact Or.inr ⟨table, text, exports_iff.mpr ⟨read, rendered⟩, rfl⟩

/-- Without a file, the text goes to standard output. -/
theorem printed_of_exported {level : Nat} (exported : request.format ≠ .summary)
    (known : threshold? settings.logLevel = some level)
    (given : databaseUrl? settings request = some url) (unasked : request.output = none)
    (files : FileTree) :
    (((tablePlan console server settings request).runOn files).1.Succeeds ↔
        ∃ table text, Exports console server settings request url table text) ∧
      ∀ table text, Exports console server settings request url table text →
        ((tablePlan console server settings request).runOn files).1.output =
          plainText (text ++ "\n") := by
  have threshold := @logThreshold_of_known console _ request.verbose _ known
  rcases @tablePlan_of_exported console server _ _ _ _ _ exported threshold given with
    ⟨ending, plan, fails, nothing⟩ | ⟨table, text, exports, plan⟩
  · rw [plan]
    exact ⟨⟨fun succeeds => absurd succeeds.code fails,
      fun ⟨table, text, exports⟩ => absurd exports (nothing table text)⟩,
      fun table text exports => absurd exports (nothing table text)⟩
  · obtain ⟨sofar, -, -⟩ := agrees_libraryFetch server settings request url
      (if request.verbose then LogLevel.debug.severity else level) ""
    rw [plan, exportPlan, unasked, sofar]
    refine ⟨⟨fun _ => ⟨table, text, exports⟩, fun _ => ⟨rfl, rfl⟩⟩, fun other found also => ?_⟩
    obtain ⟨-, rfl⟩ := exports.unique also
    exact String.empty_append

/-- With a path that can be written to, the text goes to the file, and what is left to do is to say
so. -/
theorem written_of_exported {level : Nat} (exported : request.format ≠ .summary)
    (known : threshold? settings.logLevel = some level)
    (given : databaseUrl? settings request = some url) {path : Path}
    (named : request.output = some path) {files : FileTree} (writable : files.Writable path) :
    (((tablePlan console server settings request).runOn files).1.Succeeds ↔
        ∃ table text, Exports console server settings request url table text ∧
          ∃ shown, console.printed (confirmation path table) = .ok shown) ∧
      ∀ table text, Exports console server settings request url table text →
        (tablePlan console server settings request).written? files = some (path, text ++ "\n") ∧
          files.Wrote path (text ++ "\n")
            ((tablePlan console server settings request).runOn files).2 := by
  have threshold := @logThreshold_of_known console _ request.verbose _ known
  rcases @tablePlan_of_exported console server _ _ _ _ _ exported threshold given with
    ⟨ending, plan, fails, nothing⟩ | ⟨table, text, exports, plan⟩
  · rw [plan]
    exact ⟨⟨fun succeeds => absurd succeeds.code fails,
      fun ⟨table, text, exports, _⟩ => absurd exports (nothing table text)⟩,
      fun table text exports => absurd exports (nothing table text)⟩
  · obtain ⟨after, written⟩ := writable.write (text ++ "\n")
    rw [plan, exportPlan, named]
    unfold Plan.runOn Plan.written?
    dsimp only
    rw [written]
    dsimp only
    refine ⟨(succeeds_exitPrinting_iff _ (confirmation path table)).trans ⟨fun shown => ?_, ?_⟩,
      fun other found also => ?_⟩
    · exact ⟨table, text, exports, shown⟩
    · rintro ⟨other, found, also, shown⟩
      obtain ⟨rfl, -⟩ := exports.unique also
      exact shown
    · obtain ⟨-, rfl⟩ := exports.unique also
      exact ⟨rfl, FileTree.wrote_of_write written⟩

/-- The command of a table and the library agree, for a table that is asked for in the JSON format
or as a list of names, with a URL and a known threshold of the log. A run logs what the library logs
from that threshold on, and asks of the driver what the library asks, with the timeout of the
settings. An error of reading a schema in whose message no tag begins ends the run with the exit
code 1, and nothing escapes. If no file is asked for, the run succeeds just if the library exports
a text, which is then printed without the sequences that steer a terminal, so that it is printed
whole in the JSON format, and as a list of names just if the name of no column holds one. If a file
is asked for that can be written to, by a path from the root or from the working directory, the text
is written to it whole, and the run succeeds if moreover it can say so, as it can if no tag begins
in the path. -/
theorem table_agrees_with_library {arguments : List String} {level : Nat}
    (asked : command? arguments = some (.table request)) (exported : request.format ≠ .summary)
    (known : threshold? settings.logLevel = some level)
    (given : databaseUrl? settings request = some url) (console : Console) (files : FileTree) :
    (run console server settings files arguments).1.log =
        shownLog (if request.verbose then LogLevel.debug.severity else level)
          (libraryFetch server settings request url).1.entries ∧
      (run console server settings files arguments).1.events =
        (libraryFetch server settings request url).1.events.map
          (Event.within settings.connectTimeout) ∧
      (∀ error, (libraryFetch server settings request url).1.result = .error (.schema error) →
        holdsTag error.text.toList = false →
          (run console server settings files arguments).1.exitCode = 1 ∧
            (run console server settings files arguments).1.escaped = none) ∧
      (request.output = none →
        ((run console server settings files arguments).1.Succeeds ↔
            ∃ table text, Exports console server settings request url table text) ∧
          ∀ table text, Exports console server settings request url table text →
            (run console server settings files arguments).1.output = plainText (text ++ "\n") ∧
            ((run console server settings files arguments).1.output = text ++ "\n" ↔
              (request.format = .selectList → table.Unsteered))) ∧
      ∀ path, request.output = some path → files.Writable path →
        ((run console server settings files arguments).1.Succeeds ↔
            ∃ table text, Exports console server settings request url table text ∧
              ∃ shown, console.printed (confirmation path table) = .ok shown) ∧
          (holdsTag path.toText.toList = false →
            ((run console server settings files arguments).1.Succeeds ↔
              ∃ table text, Exports console server settings request url table text)) ∧
          ∀ table text, Exports console server settings request url table text →
            written? console server settings files arguments = some (path, text ++ "\n") ∧
              files.Wrote path (text ++ "\n") (run console server settings files arguments).2 := by
  have plans : plan console server settings arguments =
      tablePlan console server settings request := by
    unfold plan
    rw [asked]
  unfold run written?
  rw [plans]
  have threshold := @logThreshold_of_known console _ request.verbose _ known
  obtain ⟨sofar, -, -⟩ := agrees_libraryFetch server settings request url
    (if request.verbose then LogLevel.debug.severity else level) ""
  obtain ⟨log, events⟩ := @told_tablePlan console server _ _ _ _ _ threshold given files
  rw [sofar] at log events
  dsimp only at log events
  refine ⟨log, events, fun error failed free => ?_, fun unasked => ?_,
    fun path named writable => ?_⟩
  · rw [tablePlan_of_given threshold given, tableResult_of_schema failed]
    exact (fail_schema _ free).imp_right And.left
  · obtain ⟨succeeds, prints⟩ :=
      @printed_of_exported console server _ _ _ _ exported known given unasked files
    refine ⟨succeeds, fun table text exports => ⟨prints table text exports, ?_⟩⟩
    rw [prints table text exports]
    exact printed_whole_iff exported exports.rendered
  · obtain ⟨succeeds, writes⟩ :=
      @written_of_exported console server _ _ _ _ exported known given _ named files writable
    refine ⟨succeeds, fun free => succeeds.trans ?_, writes⟩
    exact exists_congr fun table => exists_congr fun text =>
      and_iff_left (printed_confirmation free table)

/-- Arguments to print the names of the columns. -/
def printingArguments : List String := ["table", "users", "--format=select-list"]

theorem exports_serverNaming (column : String) (output : Option Path) :
    Exports console (serverNaming column) localSettings (namesRequest output)
      "postgres://localhost/db" (usersTable column) (SelectList.render [column]) :=
  exports_iff.mpr ⟨tableResult_serverNaming column output, rfl⟩

/-- A file below the root, beside the working directory. -/
def usersFile : Path := ⟨.root, ["tmp".toList, "users.sql".toList]⟩

theorem writable_usersFile : workFiles.Writable usersFile := by
  have split : usersFile.components = ["tmp".toList] ++ ["users.sql".toList] := rfl
  refine FileTree.writable_of_directories split (by decide +kernel) (by decide +kernel)
    (fun front filled inParents => ?_) (by decide +kernel)
  cases front with
  | nil => exact absurd rfl filled
  | cons first rest =>
    obtain ⟨rfl, later⟩ := List.cons_prefix_cons.mp inParents
    obtain rfl := List.prefix_nil.mp later
    decide +kernel

/-- The name of a column, printed as the library writes it, and written to a file by its path from
the root. -/
theorem table_agrees_with_library_names :
    command? printingArguments = some (.table (namesRequest none)) ∧
      command? (namesArguments "/tmp/users.sql") = some (.table (namesRequest usersFile)) ∧
      threshold? localSettings.logLevel = some 30 ∧
      databaseUrl? localSettings (namesRequest none) = some "postgres://localhost/db" ∧
      (run emojiConsole (serverNaming "id") localSettings workFiles printingArguments).1.Succeeds ∧
      (run emojiConsole (serverNaming "id") localSettings workFiles printingArguments).1.output =
        "\"id\"\n" ∧
      workFiles.Writable usersFile ∧
      (run emojiConsole (serverNaming "id") localSettings workFiles
        (namesArguments "/tmp/users.sql")).1.Succeeds ∧
      workFiles.Wrote usersFile "\"id\"\n"
        (run emojiConsole (serverNaming "id") localSettings workFiles
          (namesArguments "/tmp/users.sql")).2 := by
  have printed : command? printingArguments = some (.table (namesRequest none)) := rfl
  have written : command? (namesArguments "/tmp/users.sql") =
      some (.table (namesRequest usersFile)) := rfl
  have known : threshold? localSettings.logLevel = some 30 := rfl
  have given (output : Option Path) :
      databaseUrl? localSettings (namesRequest output) = some "postgres://localhost/db" := rfl
  have unsteered : (usersTable "id").Unsteered := by
    intro column member name named
    obtain rfl := List.mem_singleton.mp member
    cases named
    decide
  obtain ⟨-, -, -, printing, -⟩ := @table_agrees_with_library (serverNaming "id") localSettings
    (namesRequest none) "postgres://localhost/db" _ _ printed nofun known (given none) emojiConsole
    workFiles
  obtain ⟨-, -, -, -, writing⟩ := @table_agrees_with_library (serverNaming "id") localSettings
    (namesRequest usersFile) "postgres://localhost/db" _ _ written nofun known (given usersFile)
    emojiConsole workFiles
  obtain ⟨prints, texts⟩ := printing rfl
  obtain ⟨-, writes, files⟩ := writing usersFile rfl writable_usersFile
  exact ⟨printed, written, known, given none, prints.mpr ⟨_, _, exports_serverNaming "id" none⟩,
    (texts _ _ (exports_serverNaming "id" none)).2.mpr fun _ => unsteered, writable_usersFile,
    (writes (by decide)).mpr ⟨_, _, exports_serverNaming "id" usersFile⟩,
    (files _ _ (exports_serverNaming "id" usersFile)).2⟩

/-- A name with a sequence that steers a terminal in the middle. -/
def steeringName : String := "a\x1b[31mb"

/-- A list of names that the library exports is printed without a part of a name. -/
theorem list_printed_with_loss :
    command? printingArguments = some (.table (namesRequest none)) ∧
      Exports emojiConsole (serverNaming steeringName) localSettings (namesRequest none)
        "postgres://localhost/db" (usersTable steeringName) "\"a\x1b[31mb\"" ∧
      (run emojiConsole (serverNaming steeringName) localSettings workFiles
        printingArguments).1.Succeeds ∧
      (run emojiConsole (serverNaming steeringName) localSettings workFiles
        printingArguments).1.output = "\"ab\"\n" := by
  have asked : command? printingArguments = some (.table (namesRequest none)) := rfl
  have exports : Exports emojiConsole (serverNaming steeringName) localSettings (namesRequest none)
      "postgres://localhost/db" (usersTable steeringName) "\"a\x1b[31mb\"" :=
    exports_serverNaming steeringName none
  obtain ⟨succeeds, prints⟩ := @printed_of_exported emojiConsole (serverNaming steeringName)
    localSettings (namesRequest none) "postgres://localhost/db" 30 nofun rfl rfl rfl workFiles
  rw [run_of_asked asked, prints _ _ exports]
  exact ⟨asked, exports, succeeds.mpr ⟨_, _, exports⟩, by decide +kernel⟩

end CommandLine

end CatalogReader
