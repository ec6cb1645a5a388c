/-
How the command of a table comes by the schema. A schema is named in the reference, in front of its
first dot, or by an option, or by the settings; of the last two the first one that is not empty
counts, and the public schema where there is none. However it is named, the same table is read and
the same is told of it: the table that a reference stands for is all that the reading of it depends
on, and only the notice that a table has no columns repeats the reference as it was written.
-/

import CatalogReader.Proofs.Fetching.Independence
import CatalogReader.Proofs.Runs.Stages

namespace CatalogReader

open CatalogReader.Text

/-! ### References -/

/-- The table that a reference stands for, where a schema is the default. -/
inductive TableName.Named (defaultSchema reference : String) : TableName → Prop
  /-- The schema is named in the reference, in front of its first dot. -/
  | qualified {schema table : String} (whole : reference = schema ++ "." ++ table)
      (undotted : '.' ∉ schema.toList) : Named defaultSchema reference ⟨schema, table⟩
  /-- The reference has no dot. -/
  | unqualified (undotted : '.' ∉ reference.toList) :
      Named defaultSchema reference ⟨defaultSchema, reference⟩

namespace TableName

theorem ofReference_of_qualified {schema : String} (undotted : '.' ∉ schema.toList)
    (defaultSchema table : String) :
    ofReference defaultSchema (schema ++ "." ++ table) = ⟨schema, table⟩ := by
  have cut : cutFirst? '.' (schema ++ "." ++ table).toList =
      some (schema.toList, table.toList) := by
    refine (cutFirst?_eq_some_iff '.' _ _ _).mpr ⟨?_, undotted⟩
    rw [String.toList_append, String.toList_append, List.append_assoc]
    rfl
  unfold ofReference
  rw [cut]
  dsimp only
  rw [String.ofList_toList, String.ofList_toList]

theorem ofReference_of_unqualified {reference : String} (undotted : '.' ∉ reference.toList)
    (defaultSchema : String) :
    ofReference defaultSchema reference = ⟨defaultSchema, reference⟩ := by
  unfold ofReference
  rw [(cutFirst?_eq_none_iff '.' _).mpr undotted]

/-- A reference stands for one table. -/
theorem named_ofReference (defaultSchema reference : String) :
    Named defaultSchema reference (ofReference defaultSchema reference) := by
  unfold ofReference
  cases cut : cutFirst? '.' reference.toList with
  | none => exact .unqualified ((cutFirst?_eq_none_iff '.' _).mp cut)
  | some parts =>
    obtain ⟨schema, table⟩ := parts
    obtain ⟨whole, undotted⟩ := (cutFirst?_eq_some_iff '.' _ _ _).mp cut
    refine .qualified (String.toList_inj.mp ?_) ?_
    · simp only [String.toList_append, String.toList_ofList, List.append_assoc]
      exact whole
    · rw [String.toList_ofList]
      exact undotted

end TableName

namespace CommandLine

/-! ### The default schema -/

/-- The schema of a reference without one: the first that is not empty of the option, the setting
and the public schema. -/
def effectiveSchema (settings : Settings) (request : Request) : String :=
  ([request.schema.getD "", settings.defaultSchema].find? fun schema => !schema.isEmpty).getD
    Reader.publicSchema

/-- The table that is asked for. -/
def requestedName (settings : Settings) (request : Request) : TableName :=
  TableName.ofReference (effectiveSchema settings request) request.reference

theorem schemaOr_chosen (settings : Settings) (request : Request) :
    TableName.schemaOr Reader.publicSchema
        (some ((nonEmpty? request.schema).getD settings.defaultSchema)) =
      effectiveSchema settings request := by
  have fallback : TableName.schemaOr Reader.publicSchema (some settings.defaultSchema) =
      ([settings.defaultSchema].find? fun schema => !schema.isEmpty).getD Reader.publicSchema := by
    unfold TableName.schemaOr
    cases empty : settings.defaultSchema.isEmpty <;> simp [empty]
  unfold effectiveSchema nonEmpty?
  cases request.schema with
  | none => exact fallback
  | some schema =>
    dsimp only [Option.getD_some]
    rw [Option.filter_some, List.find?_cons]
    cases empty : schema.isEmpty with
    | true => exact fallback
    | false => exact if_neg (Bool.eq_false_iff.mp empty)

/-- The reader of a request is that of its URL, told the effective schema and the timeout. -/
theorem readerFor_eq (settings : Settings) (request : Request) (url : String) :
    readerFor settings request url =
      (Reader.ofUrl url none none).map
        (Reader.told (effectiveSchema settings request) settings.connectTimeout) := by
  unfold readerFor
  rw [Reader.ofUrl_eq_told, schemaOr_chosen]

theorem resolve_of_readerFor {settings : Settings} {request : Request} {url : String}
    {reader : Reader} (made : readerFor settings request url = .ok reader) :
    reader.resolve request.reference = requestedName settings request := by
  rw [readerFor_eq] at made
  cases plain : Reader.ofUrl url none none with
  | error failure =>
    rw [plain] at made
    cases made
  | ok other =>
    rw [plain] at made
    cases made
    rfl

/-! ### Ways to name a schema -/

/-- The ways to ask for a table of a schema. -/
inductive Way (schema table : String) (settings : Settings) (request : Request) : Prop
  /-- The schema stands in the reference. -/
  | qualified (named : request.reference = schema ++ "." ++ table)
  /-- The schema is chosen by the option. -/
  | option (named : request.reference = table) (chosen : request.schema = some schema)
  /-- The schema is set, and none is chosen. -/
  | setting (named : request.reference = table) (unchosen : nonEmpty? request.schema = none)
      (set : settings.defaultSchema = schema)

variable {settings : Settings} {request : Request}

theorem requestedName_of_way {schema table : String} (filled : schema ≠ "")
    (schemaUndotted : '.' ∉ schema.toList) (tableUndotted : '.' ∉ table.toList)
    (way : Way schema table settings request) :
    requestedName settings request = ⟨schema, table⟩ := by
  have visible : schema.isEmpty = false :=
    Bool.eq_false_iff.mpr fun empty => filled (String.isEmpty_iff.mp empty)
  unfold requestedName
  cases way with
  | qualified named =>
    rw [named]
    exact TableName.ofReference_of_qualified schemaUndotted _ table
  | option named chosen =>
    have effective : effectiveSchema settings request = schema := by
      simp [effectiveSchema, chosen, visible]
    rw [named, TableName.ofReference_of_unqualified tableUndotted, effective]
  | setting named unchosen set =>
    have effective : effectiveSchema settings request = schema := by
      rw [← schemaOr_chosen, unchosen]
      simp [TableName.schemaOr, set, visible]
    rw [named, TableName.ofReference_of_unqualified tableUndotted, effective]

/-! ### Requests for the same table -/

variable {console : Console} {server : Server} {first second : Settings}
  {firstRequest secondRequest : Request}

/-- Requests for the same table that agree in all but how they name it. -/
structure SameTable (first second : Settings) (firstRequest secondRequest : Request) : Prop where
  name : requestedName first firstRequest = requestedName second secondRequest
  settings : { first with defaultSchema := "" } = { second with defaultSchema := "" }
  requests : { firstRequest with reference := "", schema := none } =
    { secondRequest with reference := "", schema := none }

/-- A table without columns is told of on the console, where its reference is repeated. -/
structure RepeatsReference (server : Server) (settings : Settings) (request : Request) : Prop where
  format : request.format = .summary
  shown : request.output = none
  empty : ∃ url table, databaseUrl? settings request = some url ∧
    tableResult server settings request url = .ok table ∧ table.columns.isEmpty = true

/-- Plans that differ at most in a notice on the console. -/
inductive SameButNotice (console : Console) : Plan → Plan → Prop
  | same (plan : Plan) : SameButNotice console plan plan
  | notice (sofar : Sofar) (first second : String) :
      SameButNotice console (.finish (sofar.exitPrinting console 0 first))
        (.finish (sofar.exitPrinting console 0 second))

/-- A notice on the console has no part in the log, the events and the files. -/
theorem SameButNotice.runOn {first second : Plan} (agree : SameButNotice console first second)
    (files : FileTree) :
    (first.runOn files).1.log = (second.runOn files).1.log ∧
      (first.runOn files).1.events = (second.runOn files).1.events ∧
      (first.runOn files).2 = (second.runOn files).2 := by
  cases agree with
  | same plan => exact ⟨rfl, rfl, rfl⟩
  | notice sofar firstText secondText =>
    refine ⟨?_, ?_, rfl⟩
    · show (sofar.exitPrinting console 0 firstText).log =
        (sofar.exitPrinting console 0 secondText).log
      rw [log_exitPrinting, log_exitPrinting]
    · show (sofar.exitPrinting console 0 firstText).events =
        (sofar.exitPrinting console 0 secondText).events
      rw [events_exitPrinting, events_exitPrinting]

/-- A table is shown the same to both, unless its reference is repeated. -/
theorem showPlan_of_sameTable (same : SameTable first second firstRequest secondRequest)
    (sofar : Sofar) (table : Table) :
    (showPlan console sofar firstRequest table = showPlan console sofar secondRequest table ∨
        firstRequest.format = .summary ∧ firstRequest.output = none ∧
          table.columns.isEmpty = true) ∧
      SameButNotice console (showPlan console sofar firstRequest table)
        (showPlan console sofar secondRequest table) := by
  obtain ⟨-, -, -, format, output, -⟩ := Request.mk.inj same.requests
  unfold showPlan
  rw [← format, ← output]
  split
  case isFalse => exact ⟨Or.inl rfl, .same _⟩
  case isTrue asked =>
    unfold summaryPlan
    split
    case isFalse => exact ⟨Or.inl rfl, .same _⟩
    case isTrue empty => exact ⟨Or.inr ⟨asked.1, asked.2, empty⟩, .notice _ _ _⟩

/-- The same is read for both. -/
theorem read_of_sameTable (same : SameTable first second firstRequest secondRequest)
    (url : String) (threshold : Nat) (notice : String) :
    tableResult server first firstRequest url = tableResult server second secondRequest url ∧
      tableSofar server first firstRequest url threshold notice =
        tableSofar server second secondRequest url threshold notice := by
  obtain ⟨-, -, timeout, -⟩ := Settings.mk.inj same.settings
  unfold tableResult tableSofar
  rw [readerFor_eq, readerFor_eq, timeout]
  cases Reader.ofUrl url none none with
  | error failure =>
    dsimp only [Except.map, Except.bind]
    exact ⟨rfl, rfl⟩
  | ok reader =>
    have resolved : TableName.ofReference (effectiveSchema second secondRequest)
        secondRequest.reference = requestedName second secondRequest := rfl
    dsimp only [Except.map, Except.bind]
    rw [← Reader.result_fetchOnce, ← Reader.result_fetchOnce,
      Reader.fetchOnce_told server same.name, Reader.fetchOnce_told server resolved]
    generalize (reader.fetchNamed server (requestedName second secondRequest)).closing
      (Reader.close server) = outcome
    exact ⟨rfl, rfl⟩

/-- The plans for the same table agree, unless its reference is repeated. -/
theorem tablePlan_of_sameTable (same : SameTable first second firstRequest secondRequest) :
    (tablePlan console server first firstRequest = tablePlan console server second secondRequest ∨
        RepeatsReference server first firstRequest) ∧
      SameButNotice console (tablePlan console server first firstRequest)
        (tablePlan console server second secondRequest) := by
  obtain ⟨setUrl, -, -, level⟩ := Settings.mk.inj same.settings
  obtain ⟨-, givenUrl, -, -, -, verbose⟩ := Request.mk.inj same.requests
  have urls : databaseUrl? first firstRequest = databaseUrl? second secondRequest := by
    unfold databaseUrl?
    rw [setUrl, givenUrl]
  rw [tablePlan_eq, tablePlan_eq, level, verbose, ← urls]
  cases logThreshold console secondRequest.verbose second.logLevel with
  | error fault => exact ⟨Or.inl rfl, .same _⟩
  | ok parts =>
    dsimp only
    cases given : databaseUrl? first firstRequest with
    | none => exact ⟨Or.inl rfl, .same _⟩
    | some url =>
      obtain ⟨result, sofar⟩ := @read_of_sameTable server _ _ _ _ same url parts.1 parts.2
      dsimp only
      rw [← result, ← sofar]
      cases fetched : tableResult server first firstRequest url with
      | error failure => exact ⟨Or.inl rfl, .same _⟩
      | ok table =>
        obtain ⟨shown, agree⟩ := showPlan_of_sameTable same
          (tableSofar server first firstRequest url parts.1 parts.2) table
        exact ⟨shown.imp_right fun ⟨format, output, empty⟩ =>
          ⟨format, output, url, table, given, fetched, empty⟩, agree⟩

/-! ### What is queried -/

/-- The command of a table queries the table that is asked for and no other. -/
theorem eq_requestedName_of_execute {files : FileTree} {name : TableName}
    (queried : .execute name ∈
      ((tablePlan console server settings request).runOn files).1.events) :
    name = requestedName settings request := by
  rcases events_tablePlan console server settings request files with
    idle | ⟨url, reader, -, made, asked⟩
  · rw [idle] at queried
    cases queried
  · rw [asked] at queried
    rw [← resolve_of_readerFor made]
    exact Reader.queries_fetchOnce request.reference reader name queried

/-- A reader that was just made for a URL opens a connection if the server lets it. -/
theorem connects_of_readerFor {url : String} {reader : Reader}
    (made : readerFor settings request url = .ok reader) (opened : server.fault .connect = none) :
    (reader.connect server).result = .ok .opened ∧
      (reader.connect server).reader.connected = true := by
  obtain ⟨schema, rfl⟩ := make_of_readerFor made
  obtain ⟨target, accepted⟩ := redact_of_ofUrl made
  rw [Reader.connect_of_opened (Session.connected_make _ _ _) accepted opened]
  exact ⟨rfl, rfl⟩

/-- The command of a table queries the table that is asked for, if it comes to open a connection and
is given a cursor. -/
theorem execute_mem_tablePlan {url notice : String} {threshold : Nat} {reader : Reader}
    (known : logThreshold console request.verbose settings.logLevel = .ok (threshold, notice))
    (given : databaseUrl? settings request = some url)
    (made : readerFor settings request url = .ok reader) (opened : server.fault .connect = none)
    (cursor : server.fault .cursor = none) (files : FileTree) :
    .execute (reader.resolve request.reference) ∈
      ((tablePlan console server settings request).runOn files).1.events := by
  obtain ⟨connects, holds⟩ := connects_of_readerFor made opened
  rw [(told_tablePlan known given files).2]
  unfold tableSofar
  rw [made]
  exact Reader.execute_mem_fetchOnce connects holds cursor request.reference

/-! ### The ways agree -/

/-- A reader of the command of a table resolves the reference by its first dot, or to the default
schema if there is none, which is the first that is not empty of the option, the setting and the
public schema; and what it resolves the reference to is the only table that is queried. It is
queried whenever the command comes to its database: its threshold is settled, a reader is made for
its URL, a connection can be opened, and a cursor is given. For a schema and a table without dots it
is all one whether the schema stands in the reference, is chosen by the option, or is set while none
is chosen: two runs that agree in all else have the same log and the same events and leave the same
files, and they are the same altogether, unless a table without columns is told of on the console,
where the reference is repeated. -/
theorem schema_named_in_any_way (console : Console) (server : Server) (files : FileTree) :
    (∀ {settings : Settings} {request : Request} {url : String} {reader : Reader},
      readerFor settings request url = .ok reader →
        (reader.resolve request.reference).Named (effectiveSchema settings request)
          request.reference) ∧
    (∀ {settings : Settings} {request : Request} {arguments : List String} {name : TableName},
      command? arguments = some (.table request) →
        .execute name ∈ (run console server settings files arguments).1.events →
          name.Named (effectiveSchema settings request) request.reference) ∧
    (∀ {settings : Settings} {request : Request} {arguments : List String} {url notice : String}
      {threshold : Nat} {reader : Reader},
      command? arguments = some (.table request) →
        logThreshold console request.verbose settings.logLevel = .ok (threshold, notice) →
        databaseUrl? settings request = some url → readerFor settings request url = .ok reader →
        server.fault .connect = none → server.fault .cursor = none →
          .execute (reader.resolve request.reference) ∈
            (run console server settings files arguments).1.events) ∧
    ∀ {schema table : String}, schema ≠ "" → '.' ∉ schema.toList → '.' ∉ table.toList →
      ∀ {first second : Settings} {firstRequest secondRequest : Request},
        Way schema table first firstRequest → Way schema table second secondRequest →
        { first with defaultSchema := "" } = { second with defaultSchema := "" } →
        { firstRequest with reference := "", schema := none } =
            { secondRequest with reference := "", schema := none } →
          ∀ {firstArguments secondArguments : List String},
            command? firstArguments = some (.table firstRequest) →
            command? secondArguments = some (.table secondRequest) →
              (run console server first files firstArguments).1.log =
                  (run console server second files secondArguments).1.log ∧
                (run console server first files firstArguments).1.events =
                  (run console server second files secondArguments).1.events ∧
                (run console server first files firstArguments).2 =
                  (run console server second files secondArguments).2 ∧
                (¬RepeatsReference server first firstRequest →
                  run console server first files firstArguments =
                    run console server second files secondArguments) := by
  refine ⟨fun made => ?_, fun asked queried => ?_,
    fun asked known given made opened cursor => ?_, fun filled schemaUndotted tableUndotted => ?_⟩
  · rw [resolve_of_readerFor made]
    exact TableName.named_ofReference _ _
  · rw [run_of_asked asked] at queried
    rw [eq_requestedName_of_execute queried]
    exact TableName.named_ofReference _ _
  · rw [run_of_asked asked]
    exact execute_mem_tablePlan known given made opened cursor files
  · intro first second firstRequest secondRequest firstWay secondWay settings requests
      firstArguments secondArguments firstAsked secondAsked
    have named := requestedName_of_way filled schemaUndotted tableUndotted firstWay
    have same : SameTable first second firstRequest secondRequest :=
      ⟨named.trans (requestedName_of_way filled schemaUndotted tableUndotted secondWay).symm,
        settings, requests⟩
    obtain ⟨plans, agree⟩ := @tablePlan_of_sameTable console server _ _ _ _ same
    rw [run_of_asked firstAsked, run_of_asked secondAsked]
    obtain ⟨log, events, after⟩ := agree.runOn files
    refine ⟨log, events, after, fun silent => ?_⟩
    rw [plans.resolve_right silent]

/-- A server with a table outside the public schema. -/
def auditServer : Server :=
  Server.empty.change (.tables [⟨⟨"audit", "events"⟩,
    [.row ⟨"id", 1, "NO", "uuid", "pg_catalog", "uuid"⟩]⟩])

/-- Settings with a default schema. -/
def settingsWith (schema : String) : Settings := ⟨some "postgres://db", schema, none, "DEBUG"⟩

/-- A request for a table in the JSON format. -/
def jsonRequest (reference : String) (schema : Option String) : Request :=
  ⟨reference, none, schema, .json, none, false⟩

/-- The schema in front of the dot, chosen by the option, and set. -/
theorem schema_named_in_any_way_audit :
    Way "audit" "events" (settingsWith "") (jsonRequest "audit.events" none) ∧
      Way "audit" "events" (settingsWith "other") (jsonRequest "events" "audit") ∧
      Way "audit" "events" (settingsWith "audit") (jsonRequest "events" none) ∧
      run .standard auditServer (settingsWith "") .empty ["table", "audit.events", "-fjson"] =
        run .standard auditServer (settingsWith "other") .empty
          ["table", "-s", "audit", "events", "--format=json"] ∧
      run .standard auditServer (settingsWith "") .empty ["table", "audit.events", "-fjson"] =
        run .standard auditServer (settingsWith "audit") .empty
          ["table", "-f", "json", "--", "events"] ∧
      (∀ name, .execute name ∈ (run .standard auditServer (settingsWith "audit") .empty
          ["table", "-f", "json", "--", "events"]).1.events → name.Named "audit" "events") ∧
      .execute ⟨"audit", "events"⟩ ∈ (run .standard auditServer (settingsWith "audit") .empty
          ["table", "-f", "json", "--", "events"]).1.events := by
  have qualified : Way "audit" "events" (settingsWith "") (jsonRequest "audit.events" none) :=
    .qualified rfl
  have option : Way "audit" "events" (settingsWith "other") (jsonRequest "events" "audit") :=
    .option rfl rfl
  have setting : Way "audit" "events" (settingsWith "audit") (jsonRequest "events" none) :=
    .setting rfl rfl rfl
  have silent : ¬RepeatsReference auditServer (settingsWith "") (jsonRequest "audit.events" none) :=
    fun repeated => by cases repeated.format
  have known : logThreshold .standard false (settingsWith "audit").logLevel =
      .ok (LogLevel.debug.severity, "") := rfl
  have made : readerFor (settingsWith "audit") (jsonRequest "events" none) "postgres://db" =
      .ok (.make "postgres://db" (some "audit") none) := by rfl
  obtain ⟨-, queried, sent, ways⟩ := schema_named_in_any_way .standard auditServer .empty
  have agree := @ways "audit" "events" (by decide) (by decide) (by decide)
  refine ⟨qualified, option, setting, ?_, ?_, fun name member => ?_, ?_⟩
  · exact (agree qualified option rfl rfl rfl rfl).2.2.2 silent
  · exact (agree qualified setting rfl rfl rfl rfl).2.2.2 silent
  · exact @queried (settingsWith "audit") (jsonRequest "events" none) _ name rfl member
  · exact @sent (settingsWith "audit") (jsonRequest "events" none) _ _ _ _ _ rfl known rfl made
      rfl rfl

end CommandLine

end CatalogReader
