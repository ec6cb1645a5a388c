/-
Sessions with `get_introspector` and `fetch_table`: one server, the readers that are made in the
course of time, and the table read last. Each step works on the current reader or on a new one. What
a reader asks of the driver is kept in the trace under the reader's number, also for readers that
are no longer current.
-/

import CatalogReader.Reader

namespace CatalogReader

/-! ### Steps and answers -/

/-- A reader to be made. A direct one is made whatever the scheme of its URL is. -/
structure ReaderRequest where
  url : String
  defaultSchema : Option String
  connectTimeout : Option Int
  direct : Bool
  deriving DecidableEq, Repr

/-- The reader that a request asks for. -/
def ReaderRequest.reader (request : ReaderRequest) : Except Failure Reader :=
  if request.direct then .ok (.make request.url request.defaultSchema request.connectTimeout)
  else Reader.ofUrl request.url request.defaultSchema request.connectTimeout

/-- The steps of a session. -/
inductive Step where
  /-- Changes the server. -/
  | server (changes : List ServerChange)
  /-- Makes a reader, which becomes the current one. -/
  | new (request : ReaderRequest)
  /-- Connects the current reader. -/
  | connect
  /-- Closes the connection of the current reader. -/
  | close
  /-- Reads the rows of a table. -/
  | rows (name : TableName)
  /-- Fetches a table, which becomes the last one. -/
  | fetch (reference : String)
  /-- Fetches a table with a reader made for this purpose. It becomes the last one. -/
  | fetchOnce (url : String) (defaultSchema : Option String) (reference : String)
  /-- Steps after which the connection of the reader that is current before them is closed. -/
  | block (steps : List Step)
  /-- Resolves a reference to a table. -/
  | resolve (reference : String)
  /-- Quotes an identifier. -/
  | quote (name : String)
  /-- The names of the last table's columns as the arguments of a query. -/
  | selectList
  /-- A column of the last table. -/
  | column (name : String)
  /-- The last table in the JSON format. -/
  | json
  deriving Inhabited

/-- What a step answers. -/
inductive Answer where
  | nothing
  | connected (how : Reader.Connected)
  | reader (reader : Reader)
  | rows (rows : List CatalogRow)
  | table (table : Table)
  | column (column : Option Column)
  | name (name : TableName)
  | text (text : String)
  | answers (answers : List Answer)

/-- A table as an answer, in which every type has a text. -/
def Answer.ofTable (table : Table) : Except Failure Answer :=
  if table.columns.all fun column => column.type.text?.isSome then .ok (.table table)
  else .error .namelessType

/-- A column as an answer, whose type has a text. -/
def Answer.ofColumn (found : Option Column) : Except Failure Answer :=
  if found.all fun column => column.type.text?.isSome then .ok (.column found)
  else .error .namelessType

/-! ### Sessions -/

/-- A session. The readers have the numbers below `count`. -/
structure Session where
  server : Server
  readers : Nat → Reader
  count : Nat
  current : Nat
  table : Option Table
  trace : List (Nat × Event)
  entries : List LogRecord

namespace Session

/-- The reader of a session for which none is asked. -/
def localReader : Reader := .make "postgres://localhost/db" none none

/-- A session with one reader. -/
def start (server : Server) (reader : Reader) : Session where
  server
  readers := fun _ => reader
  count := 1
  current := 0
  table := none
  trace := []
  entries := []

/-- A session with the reader that is asked for. -/
def ofRequest (server : Server) : Option ReaderRequest → Except Failure Session
  | none => .ok (start server localReader)
  | some request => request.reader.map (start server)

/-- The current reader. -/
def reader (session : Session) : Reader :=
  session.readers session.current

/-- The session with one reader replaced. -/
def setReader (session : Session) (number : Nat) (reader : Reader) : Session :=
  { session with
    readers := fun other => if other = number then reader else session.readers other }

/-- The session with one more reader, which has the number `count`. -/
def addReader (session : Session) (reader : Reader) : Session :=
  { session.setReader session.count reader with count := session.count + 1 }

/-- How an operation of a reader ends, and the session after it. -/
def perform {Value : Type} (session : Session) (number : Nat)
    (operation : Server → Reader → Outcome Value) : Except Failure Value × Session :=
  let outcome := operation session.server (session.readers number)
  (outcome.result,
    { session.setReader number outcome.reader with
      trace := session.trace ++ outcome.events.map fun event => (number, event)
      entries := session.entries ++ outcome.entries })

/-- The session in which a fetched table is the last one, and the table as an answer. -/
def keep : Except Failure Table × Session → Except Failure Answer × Session
  | (.error failure, session) => (.error failure, session)
  | (.ok table, session) => (Answer.ofTable table, { session with table := some table })

/-- The last table, if there is one. -/
def last (session : Session) (missing : Failure) : Except Failure Table :=
  match session.table with
  | none => .error missing
  | some table => .ok table

mutual

/-- How a step ends, and the session after it. -/
def step (session : Session) : Step → Except Failure Answer × Session
  | .server changes => (.ok .nothing, { session with server := session.server.changes changes })
  | .new request =>
    match request.reader with
    | .error failure => (.error failure, session)
    | .ok reader =>
      (.ok (.reader reader), { session.addReader reader with current := session.count })
  | .connect =>
    let (result, next) := session.perform session.current Reader.connect
    (result.map .connected, next)
  | .close =>
    let (result, next) := session.perform session.current Reader.close
    (result.map fun _ => .nothing, next)
  | .rows name =>
    let (result, next) := session.perform session.current fun server => Reader.rows server name
    (result.map .rows, next)
  | .fetch reference =>
    keep (session.perform session.current fun server => Reader.fetch server reference)
  | .fetchOnce url defaultSchema reference =>
    match Reader.ofUrl url defaultSchema none with
    | .error failure => (.error failure, session)
    | .ok reader =>
      keep ((session.addReader reader).perform session.count fun server =>
        Reader.fetchOnce server reference)
  | .block inner =>
    let (result, after) := session.steps inner
    match after.perform session.current Reader.close with
    | (.error failure, next) => (.error failure, next)
    | (.ok (), next) => (result.map .answers, next)
  | .resolve reference => (.ok (.name (session.reader.resolve reference)), session)
  | .quote name => (.ok (.text (SelectList.quoteIdentifier name)), session)
  | .selectList =>
    ((session.last .noColumns).bind fun table => table.selectList.map .text, session)
  | .column name =>
    ((session.last .noTable).bind fun table => Answer.ofColumn (table.column? name), session)
  | .json => ((session.last .noTable).bind fun table => table.renderJson.map .text, session)

/-- How steps end of which the first failing one is the last one, and the session after them. -/
def steps (session : Session) : List Step → Except Failure (List Answer) × Session
  | [] => (.ok [], session)
  | first :: others =>
    match session.step first with
    | (.error failure, next) => (.error failure, next)
    | (.ok answer, next) =>
      let (answers, last) := next.steps others
      (answers.map (answer :: ·), last)

end

/-- After its steps a block closes the reader that was current before it, and a failure to do so
counts more than how the steps ended. -/
theorem step_block (session : Session) (inner : List Step) :
    session.step (.block inner) =
      let closed := (session.steps inner).2.perform session.current Reader.close
      (closed.1.bind fun _ => (session.steps inner).1.map .answers, closed.2) := by
  rw [Session.step]
  obtain ⟨result, after⟩ := session.steps inner
  show (match after.perform session.current Reader.close with
    | (.error failure, next) => (.error failure, next)
    | (.ok (), next) => (result.map .answers, next) : Except Failure Answer × Session) = _
  cases ended : after.perform session.current Reader.close with
  | mk ending next => cases ending <;> rfl

/-! ### Reports -/

/-- The connections that were opened so far. -/
def opens (session : Session) : Nat :=
  session.trace.countP fun entry => entry.2.opens

/-- The connections that were closed so far. -/
def closes (session : Session) : Nat :=
  session.trace.countP fun entry => entry.2.closes

/-- What is known after a step: how it ended, what it asked of the driver and logged, and whether
the current reader holds a connection. -/
structure Report where
  result : Except Failure Answer
  events : List Event
  entries : List LogRecord
  connected : Bool
  opens : Nat
  closes : Nat

/-- The report of a step, and the session after it. -/
def report (session : Session) (step : Step) : Report × Session :=
  let (result, next) := session.step step
  ({ result
     events := (next.trace.drop session.trace.length).map Prod.snd
     entries := next.entries.drop session.entries.length
     connected := next.reader.connected
     opens := next.opens
     closes := next.closes }, next)

/-- The reports of steps, which go on after a failure. -/
def reports (session : Session) : List Step → List Report
  | [] => []
  | first :: others =>
    let (report, next) := session.report first
    report :: next.reports others

/-- The session after steps, which go on after a failure. -/
def run (session : Session) (steps : List Step) : Session :=
  steps.foldl (fun current step => (current.step step).2) session

end Session

end CatalogReader
