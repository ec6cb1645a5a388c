/-
Two runs of the program whose database URLs differ in their passwords only, be the URL that of the
arguments or that of the settings. They print and log the same, end with the same exit code or the
same escaping failure, and leave the same files; only the URL that the driver is handed differs.
Together with what holds of sessions this is what keeps passwords from every observer.
-/

import CatalogReader.CommandLine.Run
import CatalogReader.Proofs.Credentials.Arguments
import CatalogReader.Proofs.Credentials.Sessions

namespace CatalogReader

/-- Settings that differ in the password of the URL only. -/
structure Settings.Alike (first second : Settings) : Prop where
  url : Option.Rel Url.Alike first.databaseUrl second.databaseUrl
  hidden : { first with databaseUrl := none } = { second with databaseUrl := none }

namespace CommandLine

/-! ### Hiding the URL -/

/-- What there is so far, without the URL that the driver is handed. -/
def Sofar.hidden (sofar : Sofar) : Sofar :=
  { sofar with events := sofar.events.map Event.hidden }

/-- An ending without the URL that the driver is handed. -/
def Ending.hidden (ending : Ending) : Ending :=
  { ending with events := ending.events.map Event.hidden }

/-- A plan whose endings are without the URL that the driver is handed. -/
def Plan.hidden : Plan → Plan
  | finish ending => .finish ending.hidden
  | write path text next => .write path text fun fault => (next fault).hidden

variable (console : Console)

theorem hidden_exitPrinting (sofar : Sofar) (code : Nat) (text : String) :
    (sofar.exitPrinting console code text).hidden =
      sofar.hidden.exitPrinting console code text := by
  unfold Sofar.exitPrinting
  cases console.printed text <;> rfl

theorem hidden_fail (sofar : Sofar) (failure : Failure) :
    (sofar.fail console failure).hidden = sofar.hidden.fail console failure := by
  cases failure with
  | schema error => exact hidden_exitPrinting console sofar 1 _
  | _ => rfl

theorem hidden_afterWriting (sofar : Sofar) (path : Path) (table : Table)
    (fault : Option FileFault) :
    (afterWriting console sofar path table fault).hidden =
      afterWriting console sofar.hidden path table fault := by
  cases fault with
  | none => exact hidden_exitPrinting console sofar 0 _
  | some fault => exact hidden_exitPrinting console sofar 1 _

theorem hidden_summaryPlan (sofar : Sofar) (reference : String) (table : Table) :
    (summaryPlan console sofar reference table).hidden =
      summaryPlan console sofar.hidden reference table := by
  unfold summaryPlan
  by_cases empty : table.columns.isEmpty = true
  · rw [if_pos empty, if_pos empty]
    exact congrArg Plan.finish (hidden_exitPrinting console sofar 0 _)
  · rw [if_neg empty, if_neg empty]
    cases consoleSummary console table <;> rfl

/-- How a table is shown does not depend on what the driver was asked. -/
theorem hidden_showPlan (sofar : Sofar) (request : Request) (table : Table) :
    (showPlan console sofar request table).hidden =
      showPlan console sofar.hidden request table := by
  unfold showPlan
  by_cases summary : request.format = .summary ∧ request.output = none
  · rw [if_pos summary, if_pos summary]
    exact hidden_summaryPlan console sofar request.reference table
  · rw [if_neg summary, if_neg summary]
    cases render console request.format table with
    | error failure => rfl
    | ok text =>
      cases request.output with
      | none => rfl
      | some path =>
        exact congrArg (Plan.write path (text ++ "\n"))
          (funext (hidden_afterWriting console sofar path table))

theorem hidden_runOn (files : FileTree) (plan : Plan) :
    ((plan.runOn files).1.hidden, (plan.runOn files).2) = plan.hidden.runOn files := by
  cases plan with
  | finish ending => rfl
  | write path text next =>
    cases written : files.write path text <;> simp only [Plan.runOn, Plan.hidden, written]

/-! ### Alike settings -/

theorem nonEmpty?_of_alike {first second : Option String}
    (alike : Option.Rel Url.Alike first second) :
    Option.Rel Url.Alike (nonEmpty? first) (nonEmpty? second) := by
  cases alike with
  | none => exact .none
  | @some firstUrl secondUrl urls =>
    unfold nonEmpty?
    rw [Option.filter_some, Option.filter_some, Url.isEmpty_of_alike urls]
    cases secondUrl.isEmpty with
    | true => exact .none
    | false => exact .some urls

theorem databaseUrl?_of_alike {first second : Settings} {firstRequest secondRequest : Request}
    (settings : first.Alike second) (requests : firstRequest.Alike secondRequest) :
    Option.Rel Url.Alike (databaseUrl? first firstRequest) (databaseUrl? second secondRequest) := by
  have given := nonEmpty?_of_alike requests.url
  have set := nonEmpty?_of_alike settings.url
  unfold databaseUrl?
  generalize nonEmpty? firstRequest.url = firstGiven at given ⊢
  generalize nonEmpty? secondRequest.url = secondGiven at given ⊢
  cases given with
  | none => exact set
  | some urls => exact .some urls

/-- The settings are shown with a masked URL. -/
theorem settingsLines_of_alike {first second : Settings} (alike : first.Alike second) :
    settingsLines first = settingsLines second := by
  have urls := nonEmpty?_of_alike alike.url
  obtain ⟨firstUrl, defaultSchema, connectTimeout, logLevel⟩ := first
  obtain ⟨secondUrl, _, _, _⟩ := second
  obtain ⟨_, hidden⟩ := alike
  cases hidden
  unfold settingsLines
  simp only at urls ⊢
  generalize nonEmpty? firstUrl = firstShown at urls ⊢
  generalize nonEmpty? secondUrl = secondShown at urls ⊢
  cases urls with
  | none => rfl
  | some urls => simp only [Url.redact_of_alike urls]

/-! ### Alike runs -/

theorem readerFor_of_alike {first second : Settings} {firstRequest secondRequest : Request}
    (settings : first.Alike second) (requests : firstRequest.Alike secondRequest)
    {firstUrl secondUrl : String} (urls : Url.Alike firstUrl secondUrl) :
    Reader.AlikeResults (readerFor first firstRequest firstUrl)
      (readerFor second secondRequest secondUrl) := by
  have blind := congrArg₂ (fun settings request => readerFor settings request firstUrl)
    settings.hidden requests.hidden
  have same : readerFor first firstRequest firstUrl = readerFor second secondRequest firstUrl :=
    blind
  rw [same]
  exact Reader.alike_ofUrl urls _ _

theorem showPlan_of_alike {first second : Request} (alike : first.Alike second) (sofar : Sofar)
    (table : Table) : showPlan console sofar first table = showPlan console sofar second table := by
  have blind := congrArg (fun request => showPlan console sofar request table) alike.hidden
  exact blind

theorem hidden_tablePlan (server : Server) {first second : Settings}
    {firstRequest secondRequest : Request} (settings : first.Alike second)
    (requests : firstRequest.Alike secondRequest) :
    (tablePlan console server first firstRequest).hidden =
      (tablePlan console server second secondRequest).hidden := by
  obtain ⟨_, _, _, level⟩ := Settings.mk.inj settings.hidden
  obtain ⟨reference, _, _, _, _, verbose⟩ := Request.mk.inj requests.hidden
  have urls := databaseUrl?_of_alike settings requests
  unfold tablePlan
  rw [level, verbose, reference]
  cases logThreshold console secondRequest.verbose second.logLevel with
  | error fault => rfl
  | ok parts =>
    obtain ⟨threshold, notice⟩ := parts
    simp only
    generalize databaseUrl? first firstRequest = firstUrl at urls ⊢
    generalize databaseUrl? second secondRequest = secondUrl at urls ⊢
    cases urls with
    | none => rfl
    | @some firstUrl secondUrl urls =>
      have made := readerFor_of_alike settings requests urls
      simp only
      generalize readerFor first firstRequest firstUrl = firstMade at made ⊢
      generalize readerFor second secondRequest secondUrl = secondMade at made ⊢
      cases made with
      | error failure => rfl
      | ok readers =>
        have outcomes := Reader.alike_fetchOnce server secondRequest.reference readers
        simp only [outcomes.result, outcomes.entries]
        generalize (Reader.fetchOnce server secondRequest.reference _).entries = entries
        have seen (output : String) :=
          congrArg (Sofar.mk output (shownLog threshold entries)) outcomes.events
        cases (Reader.fetchOnce server secondRequest.reference _).result with
        | error failure =>
          show Plan.finish _ = Plan.finish _
          rw [hidden_fail, hidden_fail]
          exact congrArg (fun sofar => Plan.finish (sofar.fail console failure)) (seen _)
        | ok table =>
          show (showPlan _ _ _ _).hidden = (showPlan _ _ _ _).hidden
          rw [hidden_showPlan, hidden_showPlan, showPlan_of_alike console requests]
          exact congrArg (fun sofar => showPlan console sofar secondRequest table) (seen _)

/-- Alike runs have the same plan but for the URL that the driver is handed. -/
theorem hidden_plan (server : Server) {first second : Settings} (settings : first.Alike second)
    {firstArguments secondArguments : List String}
    (arguments : AlikeCommandLines firstArguments secondArguments) :
    (plan console server first firstArguments).hidden =
      (plan console server second secondArguments).hidden := by
  have commands := command?_of_alike arguments
  unfold plan
  generalize command? firstArguments = firstCommand at commands ⊢
  generalize command? secondArguments = secondCommand at commands ⊢
  cases commands with
  | none => rfl
  | @some firstCommand secondCommand alike =>
    cases alike with
    | table requests => exact hidden_tablePlan console server settings requests
    | same =>
      cases firstCommand with
      | config => simp only [settingsLines_of_alike settings]
      | table request =>
        have same : request.Alike request := by
          refine ⟨?_, rfl⟩
          cases request.url with
          | none => exact .none
          | some url => exact .some (Or.inl rfl)
        exact hidden_tablePlan console server settings same

/-- Alike runs end the same but for the URL that the driver is handed, and leave the same files. -/
theorem hidden_run (server : Server) {first second : Settings} (settings : first.Alike second)
    (files : FileTree) {firstArguments secondArguments : List String}
    (arguments : AlikeCommandLines firstArguments secondArguments) :
    (run console server first files firstArguments).1.hidden =
        (run console server second files secondArguments).1.hidden ∧
      (run console server first files firstArguments).2 =
        (run console server second files secondArguments).2 := by
  have plans := congrArg (Plan.runOn files) (hidden_plan console server settings arguments)
  rw [← hidden_runOn, ← hidden_runOn] at plans
  exact Prod.mk.inj plans

end CommandLine

/-! ### Observers -/

/-- Passwords reach no observer. Sessions that differ in the passwords of URLs only are reported the
same, from their beginning on and step by step, and runs of the program that differ in them only
end the same and leave the same files. What is hidden in this is the URL that the driver is handed
when it connects and the URL of a reader that is the answer of a step. -/
theorem observers_see_no_password (server : Server)
    {firstRequest secondRequest : Option ReaderRequest} {firstSteps secondSteps : List Step}
    {firstSettings secondSettings : Settings} {firstArguments secondArguments : List String}
    (requests : Option.Rel ReaderRequest.Alike firstRequest secondRequest)
    (steps : List.Forall₂ Step.Alike firstSteps secondSteps)
    (settings : firstSettings.Alike secondSettings)
    (arguments : CommandLine.AlikeCommandLines firstArguments secondArguments) :
    ((Session.ofRequest server firstRequest).map fun session =>
        (session.reports firstSteps).map Session.Report.hidden) =
      ((Session.ofRequest server secondRequest).map fun session =>
        (session.reports secondSteps).map Session.Report.hidden) ∧
    ∀ (console : Console) (files : FileTree),
      (CommandLine.run console server firstSettings files firstArguments).1.hidden =
          (CommandLine.run console server secondSettings files secondArguments).1.hidden ∧
        (CommandLine.run console server firstSettings files firstArguments).2 =
          (CommandLine.run console server secondSettings files secondArguments).2 :=
  ⟨Session.hidden_reports_ofRequest server requests steps,
    fun console files => CommandLine.hidden_run console server settings files arguments⟩

/-- A URL with a password in its user information and one in its query. -/
def urlWith (password field : String) : String :=
  "postgres://bob:" ++ password ++ "@db/app?ssl=1&pass%77ord=" ++ field ++ "#top"

/-- A URL whose passwords hold marks that stand elsewhere in URLs. -/
def markedUrl : String := urlWith "s3:cr@t" "one+%zz"

/-- The same URL with other passwords, one of which is empty. -/
def spacedUrl : String := urlWith "pä s%s" ""

theorem alike_urlWith : Url.Alike markedUrl spacedUrl := by
  refine Or.inr ⟨?_, ⟨_, rfl⟩, ⟨_, rfl⟩⟩
  refine .passwords "postgres://".toList "bob".toList "s3:cr@t".toList "pä s%s".toList "db".toList
    rfl (by decide) (by decide) (by simp [Url.endsAuthority]) (by simp [Url.endsAuthority])
    rfl rfl ?_
  refine .queries "/app".toList "ssl=1&pass%77ord=one+%zz".toList "ssl=1&pass%77ord=".toList
    "#top".toList (by simp) (by decide) (by decide) (Or.inr ⟨_, rfl⟩) ?_
  exact .cons (.same _) (.cons (.values "pass%77ord".toList _ _ (by decide) rfl) .nil)

/-- Steps that connect to a URL twice, the second time in vain. -/
def connectingSteps (url : String) : List Step :=
  [.block [.connect, .fetch "users"], .new ⟨url, none, none, true⟩,
    .server [.fault .connect (some ⟨.operational, "refused"⟩)], .fetchOnce url none "users"]

/-- Arguments to write a table of the database at a URL to a file. -/
def writingArguments (url : String) : List String :=
  ["table", "--url=" ++ url, "-o", "users.txt", "users"]

theorem observers_see_no_password_urlWith :
    Url.Alike markedUrl spacedUrl ∧
      ((Session.ofRequest Server.empty (some ⟨markedUrl, none, none, false⟩)).map fun session =>
          (session.reports (connectingSteps markedUrl)).map Session.Report.hidden) =
        ((Session.ofRequest Server.empty (some ⟨spacedUrl, none, none, false⟩)).map fun session =>
          (session.reports (connectingSteps spacedUrl)).map Session.Report.hidden) ∧
      (CommandLine.run .standard Server.empty ⟨some markedUrl, "public", none, "INFO"⟩ .empty
          (writingArguments markedUrl)).1.hidden =
        (CommandLine.run .standard Server.empty ⟨some spacedUrl, "public", none, "INFO"⟩ .empty
          (writingArguments spacedUrl)).1.hidden := by
  have steps : List.Forall₂ Step.Alike (connectingSteps markedUrl) (connectingSteps spacedUrl) :=
    .cons (.block (.cons (.plain rfl) (.cons (.plain rfl) .nil)))
      (.cons (.new ⟨alike_urlWith, rfl⟩)
        (.cons (.plain rfl) (.cons (.fetchOnce alike_urlWith none "users") .nil)))
  have arguments :
      CommandLine.AlikeCommandLines (writingArguments markedUrl) (writingArguments spacedUrl) :=
    .table (.word alike_urlWith
      (.same (by decide) (.same (by decide) (.same (by decide) (.nil _)))))
  have settings : Settings.Alike ⟨some markedUrl, "public", none, "INFO"⟩
      ⟨some spacedUrl, "public", none, "INFO"⟩ := ⟨.some alike_urlWith, rfl⟩
  have requests : ReaderRequest.Alike ⟨markedUrl, none, none, false⟩
      ⟨spacedUrl, none, none, false⟩ := ⟨alike_urlWith, rfl⟩
  have observed := observers_see_no_password Server.empty (.some requests) steps settings arguments
  exact ⟨alike_urlWith, observed.1, (observed.2 .standard .empty).1⟩

end CatalogReader
