/-
Two sessions whose URLs differ in their passwords only. They take the same steps, but that a step
which makes a reader names the other URL. Such sessions stay alike: after every step each reader
has an alike one of the same number, the tables and the log are the same, and so are the traces up
to the URLs that the driver is handed. What is reported is therefore the same, but for these URLs
and for that of a reader which is itself the answer.
-/

import CatalogReader.Proofs.Credentials.Readers
import CatalogReader.Session

namespace CatalogReader

/-! ### Hiding the URLs -/

mutual

/-- An answer without the URLs of readers. -/
def Answer.hidden : Answer → Answer
  | reader made => .reader made.hidden
  | answers inner => .answers (hiddenAll inner)
  | answer => answer

/-- Answers without the URLs of readers. -/
def Answer.hiddenAll : List Answer → List Answer
  | [] => []
  | answer :: others => answer.hidden :: hiddenAll others

end

/-- A report without the URLs of readers. -/
def Session.Report.hidden (report : Session.Report) : Session.Report :=
  { report with
    result := report.result.map Answer.hidden
    events := report.events.map Event.hidden }

/-! ### Alike steps -/

/-- Requests for readers that differ in the passwords of their URLs only. -/
structure ReaderRequest.Alike (first second : ReaderRequest) : Prop where
  url : Url.Alike first.url second.url
  hidden : { first with url := "" } = { second with url := "" }

/-- Whether a step names no URL and has no steps inside. -/
def Step.isPlain : Step → Bool
  | .new _ | .fetchOnce .. | .block _ => false
  | _ => true

/-- Steps that differ in the passwords of URLs only. -/
inductive Step.Alike : Step → Step → Prop
  | plain {step : Step} (plain : step.isPlain = true) : Alike step step
  | new {first second : ReaderRequest} (alike : first.Alike second) :
      Alike (.new first) (.new second)
  | fetchOnce {firstUrl secondUrl : String} (alike : Url.Alike firstUrl secondUrl)
      (defaultSchema : Option String) (reference : String) :
      Alike (.fetchOnce firstUrl defaultSchema reference)
        (.fetchOnce secondUrl defaultSchema reference)
  | block {first second : List Step} (alike : List.Forall₂ Step.Alike first second) :
      Alike (.block first) (.block second)

theorem ReaderRequest.alike_reader {first second : ReaderRequest} (alike : first.Alike second) :
    Reader.AlikeResults first.reader second.reader := by
  obtain ⟨firstUrl, defaultSchema, connectTimeout, direct⟩ := first
  obtain ⟨secondUrl, _, _, _⟩ := second
  obtain ⟨url, hidden⟩ := alike
  cases hidden
  cases direct with
  | true => exact .ok (Reader.alike_make url defaultSchema connectTimeout)
  | false => exact Reader.alike_ofUrl url defaultSchema connectTimeout

namespace Session

/-! ### Alike sessions -/

/-- An entry of a trace without the URL that the driver is handed. -/
def hiddenEntry (entry : Nat × Event) : Nat × Event := (entry.1, entry.2.hidden)

/-- Sessions that differ in the passwords of URLs only. -/
structure Alike (first second : Session) : Prop where
  server : first.server = second.server
  readers (number : Nat) : (first.readers number).Alike (second.readers number)
  count : first.count = second.count
  current : first.current = second.current
  table : first.table = second.table
  trace : first.trace.map hiddenEntry = second.trace.map hiddenEntry
  entries : first.entries = second.entries

/-- Ends of steps that are the same but for URLs, in alike sessions. -/
structure AlikeEnds {Value : Type} (hide : Value → Value)
    (first second : Except Failure Value × Session) : Prop where
  result : first.1.map hide = second.1.map hide
  session : first.2.Alike second.2

variable {first second : Session}

theorem alike_start (server : Server) {firstReader secondReader : Reader}
    (alike : firstReader.Alike secondReader) :
    (start server firstReader).Alike (start server secondReader) :=
  ⟨rfl, fun _ => alike, rfl, rfl, rfl, rfl, rfl⟩

theorem Alike.setReader (alike : first.Alike second) (number : Nat)
    {firstReader secondReader : Reader} (readers : firstReader.Alike secondReader) :
    (first.setReader number firstReader).Alike (second.setReader number secondReader) := by
  refine ⟨alike.server, fun other => ?_, alike.count, alike.current, alike.table, alike.trace,
    alike.entries⟩
  show Reader.Alike (if other = number then _ else _) (if other = number then _ else _)
  by_cases same : other = number
  · rw [if_pos same, if_pos same]
    exact readers
  · rw [if_neg same, if_neg same]
    exact alike.readers other

theorem Alike.addReader (alike : first.Alike second) {firstReader secondReader : Reader}
    (readers : firstReader.Alike secondReader) :
    (first.addReader firstReader).Alike (second.addReader secondReader) := by
  have added := alike.setReader first.count readers
  unfold Session.addReader
  rw [← alike.count]
  exact { added with count := rfl }

theorem Alike.reader (alike : first.Alike second) : first.reader.Alike second.reader := by
  unfold Session.reader
  rw [← alike.current]
  exact alike.readers _

theorem Alike.last (alike : first.Alike second) (missing : Failure) :
    first.last missing = second.last missing := by
  unfold Session.last
  rw [alike.table]

theorem alike_perform {Value : Type} {operation : Server → Reader → Outcome Value}
    (alike : first.Alike second) (number : Nat)
    (operations : ∀ server {firstReader secondReader : Reader}, firstReader.Alike secondReader →
      (operation server firstReader).Alike (operation server secondReader)) :
    (first.perform number operation).1 = (second.perform number operation).1 ∧
      (first.perform number operation).2.Alike (second.perform number operation).2 := by
  have outcomes := operations first.server (alike.readers number)
  have replaced := alike.setReader number outcomes.reader
  unfold Session.perform
  rw [← alike.server]
  refine ⟨outcomes.result, { replaced with trace := ?_, entries := ?_ }⟩
  · have traced (reader : Reader) :
        ((operation first.server reader).events.map fun event => (number, event)).map hiddenEntry =
          ((operation first.server reader).events.map Event.hidden).map
            fun event => (number, event) := by
      rw [List.map_map, List.map_map]
      rfl
    show (_ ++ _ : List (Nat × Event)).map _ = (_ ++ _ : List (Nat × Event)).map _
    rw [List.map_append, List.map_append, alike.trace, traced, traced, outcomes.events]
  · show _ ++ _ = _ ++ _
    rw [alike.entries, outcomes.entries]

/-- An operation of the readers of one number ends with the same answer on both sides. -/
theorem alikeEnds_of_perform {Value Answered : Type} {hide : Answered → Answered}
    {operation : Server → Reader → Outcome Value} (alike : first.Alike second) (number : Nat)
    (operations : ∀ server {firstReader secondReader : Reader}, firstReader.Alike secondReader →
      (operation server firstReader).Alike (operation server secondReader))
    (answer : Value → Answered) :
    AlikeEnds hide
      ((first.perform number operation).1.map answer, (first.perform number operation).2)
      ((second.perform number operation).1.map answer, (second.perform number operation).2) := by
  obtain ⟨same, sessions⟩ := alike_perform alike number operations
  rw [same]
  exact ⟨rfl, sessions⟩

/-- A fetched table is kept on both sides. -/
theorem alikeEnds_keep {operation : Server → Reader → Outcome Table} (alike : first.Alike second)
    (number : Nat)
    (operations : ∀ server {firstReader secondReader : Reader}, firstReader.Alike secondReader →
      (operation server firstReader).Alike (operation server secondReader)) :
    AlikeEnds Answer.hidden (keep (first.perform number operation))
      (keep (second.perform number operation)) := by
  obtain ⟨same, sessions⟩ := alike_perform alike number operations
  generalize first.perform number operation = firstEnd at same sessions
  generalize second.perform number operation = secondEnd at same sessions
  obtain ⟨result, firstNext⟩ := firstEnd
  obtain ⟨_, secondNext⟩ := secondEnd
  cases same
  cases result with
  | error failure => exact ⟨rfl, sessions⟩
  | ok table => exact ⟨rfl, { sessions with table := rfl }⟩

/-- Results that are the same but for URLs are the same failure or the same value but for URLs. -/
theorem cases_of_map_eq {Value Hidden : Type} {hide : Value → Hidden}
    {first second : Except Failure Value} (same : first.map hide = second.map hide) :
    (∃ failure, first = .error failure ∧ second = .error failure) ∨
      ∃ firstValue secondValue, first = .ok firstValue ∧ second = .ok secondValue ∧
        hide firstValue = hide secondValue := by
  cases first with
  | error failure =>
    cases second with
    | error other => exact Or.inl ⟨failure, rfl, congrArg Except.error (Except.error.inj same.symm)⟩
    | ok value => cases same
  | ok value =>
    cases second with
    | error failure => cases same
    | ok other => exact Or.inr ⟨value, other, rfl, rfl, Except.ok.inj same⟩

theorem map_hiddenAll_cons (result : Except Failure (List Answer)) (answer : Answer) :
    (result.map (answer :: ·)).map Answer.hiddenAll =
      (result.map Answer.hiddenAll).map (answer.hidden :: ·) := by
  cases result <;> rfl

theorem map_hidden_answers (result : Except Failure (List Answer)) :
    (result.map Answer.answers).map Answer.hidden =
      (result.map Answer.hiddenAll).map Answer.answers := by
  cases result <;> rfl

/-- A step without a URL ends the same in alike sessions. -/
theorem alike_step_plain (alike : first.Alike second) {step : Step} (plain : step.isPlain = true) :
    AlikeEnds Answer.hidden (first.step step) (second.step step) := by
  cases step with
  | new | fetchOnce | block => cases plain
  | server changes =>
    rw [Session.step, Session.step, alike.server]
    exact ⟨rfl, { alike with server := rfl }⟩
  | connect =>
    rw [Session.step, Session.step, ← alike.current]
    exact alikeEnds_of_perform alike _ Reader.alike_connect _
  | close =>
    rw [Session.step, Session.step, ← alike.current]
    exact alikeEnds_of_perform alike _ Reader.alike_close _
  | rows name =>
    rw [Session.step, Session.step, ← alike.current]
    exact alikeEnds_of_perform alike _ (fun server => Reader.alike_rows server name) _
  | fetch reference =>
    rw [Session.step, Session.step, ← alike.current]
    exact alikeEnds_keep alike _ fun server => Reader.alike_fetch server reference
  | resolve reference =>
    rw [Session.step, Session.step, alike.reader.resolve]
    exact ⟨rfl, alike⟩
  | quote name =>
    rw [Session.step, Session.step]
    exact ⟨rfl, alike⟩
  | selectList | column name | json =>
    rw [Session.step, Session.step, alike.last]
    exact ⟨rfl, alike⟩

mutual

/-- Alike steps end alike in alike sessions. -/
theorem alike_step {first second : Session} (alike : first.Alike second)
    {firstStep secondStep : Step} (steps : firstStep.Alike secondStep) :
    AlikeEnds Answer.hidden (first.step firstStep) (second.step secondStep) :=
  match steps with
  | .plain plain => alike_step_plain alike plain
  | @Step.Alike.new firstRequest secondRequest requests => by
    have made := ReaderRequest.alike_reader requests
    rw [Session.step, Session.step]
    generalize firstRequest.reader = firstMade at made ⊢
    generalize secondRequest.reader = secondMade at made ⊢
    cases made with
    | error failure => exact ⟨rfl, alike⟩
    | ok readers =>
      exact ⟨congrArg (fun reader => Except.ok (Answer.reader reader)) readers.hidden,
        { alike.addReader readers with current := alike.count }⟩
  | @Step.Alike.fetchOnce firstUrl secondUrl urls defaultSchema reference => by
    have made := Reader.alike_ofUrl urls defaultSchema none
    rw [Session.step, Session.step]
    generalize Reader.ofUrl firstUrl defaultSchema none = firstMade at made ⊢
    generalize Reader.ofUrl secondUrl defaultSchema none = secondMade at made ⊢
    cases made with
    | error failure => exact ⟨rfl, alike⟩
    | ok readers =>
      rw [← alike.count]
      exact alikeEnds_keep (alike.addReader readers) _ fun server =>
        Reader.alike_fetchOnce server reference
  | .block inner => by
    have ends := alike_steps alike inner
    obtain ⟨same, sessions⟩ := alike_perform ends.session first.current Reader.alike_close
    rw [step_block, step_block, ← alike.current]
    refine ⟨?_, sessions⟩
    show (Except.bind _ _).map _ = (Except.bind _ _).map _
    rw [← same]
    cases (Session.perform _ _ _).1 with
    | error failure => rfl
    | ok _ =>
      show ((Session.steps first _).1.map _).map _ = ((Session.steps second _).1.map _).map _
      rw [map_hidden_answers, map_hidden_answers, ends.result]

/-- Alike steps, up to the first that fails, end alike in alike sessions. -/
theorem alike_steps {first second : Session} (alike : first.Alike second)
    {firstSteps secondSteps : List Step} (steps : List.Forall₂ Step.Alike firstSteps secondSteps) :
    AlikeEnds Answer.hiddenAll (first.steps firstSteps) (second.steps secondSteps) :=
  match steps with
  | .nil => ⟨rfl, alike⟩
  | .cons head others => by
    have ends := alike_step alike head
    rw [Session.steps, Session.steps]
    generalize first.step _ = firstEnd at ends ⊢
    generalize second.step _ = secondEnd at ends ⊢
    obtain ⟨firstResult, firstNext⟩ := firstEnd
    obtain ⟨secondResult, secondNext⟩ := secondEnd
    obtain ⟨same, sessions⟩ := ends
    -- Hiding keeps failures as they are, so both sides stop here or none does.
    rcases cases_of_map_eq same with ⟨failure, rfl, rfl⟩ | ⟨_, _, rfl, rfl, answered⟩
    · exact ⟨rfl, sessions⟩
    · have later := alike_steps sessions others
      refine ⟨?_, later.session⟩
      show (Except.map _ _).map _ = (Except.map _ _).map _
      rw [map_hiddenAll_cons, map_hiddenAll_cons, later.result, answered]

end

/-! ### Reports -/

/-- Events are counted the same when the count does not look at URLs. -/
theorem Alike.countP_trace (alike : first.Alike second) {counts : Event → Bool}
    (blind : ∀ event : Event, counts event.hidden = counts event) :
    (first.trace.countP fun entry => counts entry.2) =
      second.trace.countP fun entry => counts entry.2 := by
  have hidden (trace : List (Nat × Event)) :
      (trace.countP fun entry => counts entry.2) =
        (trace.map hiddenEntry).countP fun entry => counts entry.2 := by
    rw [List.countP_map]
    refine List.countP_congr fun entry _ => ?_
    rw [← blind entry.2]
    rfl
  rw [hidden first.trace, hidden second.trace, alike.trace]

/-- What a step added to a trace may be hidden before it is taken out. -/
theorem hidden_drop_trace (before after : Session) :
    ((after.trace.drop before.trace.length).map Prod.snd).map Event.hidden =
      ((after.trace.map hiddenEntry).drop (before.trace.map hiddenEntry).length).map Prod.snd := by
  rw [List.length_map, ← List.map_drop, List.map_map, List.map_map]
  rfl

/-- Alike steps are reported the same but for URLs. -/
theorem hidden_report (alike : first.Alike second) {firstStep secondStep : Step}
    (steps : firstStep.Alike secondStep) :
    (first.report firstStep).1.hidden = (second.report secondStep).1.hidden := by
  have ends := alike_step alike steps
  show Report.mk _ _ _ _ _ _ = Report.mk _ _ _ _ _ _
  congr 1
  · exact ends.result
  · show (List.map _ _).map _ = (List.map _ _).map _
    rw [hidden_drop_trace, hidden_drop_trace, alike.trace, ends.session.trace]
  · show List.drop _ _ = List.drop _ _
    rw [alike.entries, ends.session.entries]
  · exact ends.session.reader.connected
  · exact ends.session.countP_trace Event.opens_hidden
  · exact ends.session.countP_trace Event.closes_hidden

/-- Alike runs are reported the same but for URLs. -/
theorem hidden_reports (alike : first.Alike second) {firstSteps secondSteps : List Step}
    (steps : List.Forall₂ Step.Alike firstSteps secondSteps) :
    (first.reports firstSteps).map Report.hidden =
      (second.reports secondSteps).map Report.hidden := by
  induction steps generalizing first second with
  | nil => rfl
  | cons head _ inductionHypothesis =>
    have others := inductionHypothesis (alike_step alike head).session
    exact congrArg₂ List.cons (hidden_report alike head) others

/-- Sessions begin alike, or fail to begin in the same way. -/
theorem hidden_reports_ofRequest (server : Server)
    {firstRequest secondRequest : Option ReaderRequest}
    (requests : Option.Rel ReaderRequest.Alike firstRequest secondRequest)
    {firstSteps secondSteps : List Step}
    (steps : List.Forall₂ Step.Alike firstSteps secondSteps) :
    (ofRequest server firstRequest).map (fun session =>
        (session.reports firstSteps).map Report.hidden) =
      (ofRequest server secondRequest).map fun session =>
        (session.reports secondSteps).map Report.hidden := by
  cases requests with
  | none =>
    have same : localReader.Alike localReader := ⟨Or.inl rfl, rfl⟩
    exact congrArg Except.ok (hidden_reports (alike_start server same) steps)
  | @some firstRequest secondRequest alike =>
    have made := ReaderRequest.alike_reader alike
    show (firstRequest.reader.map (start server)).map _ =
      (secondRequest.reader.map (start server)).map _
    generalize firstRequest.reader = firstMade at made ⊢
    generalize secondRequest.reader = secondMade at made ⊢
    cases made with
    | error failure => rfl
    | ok readers => exact congrArg Except.ok (hidden_reports (alike_start server readers) steps)

end Session

end CatalogReader
