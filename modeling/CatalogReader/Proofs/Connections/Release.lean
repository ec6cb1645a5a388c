/-
How connections are given back. A fetch closes its connection itself, and a reader that was made for
one fetch is closed once more when that fetch is over. While closing does not fail, the second call
finds nothing to close: whichever call of the driver fails before, and whatever the rows, the table
or the file to be written are like, a fetch opens at most one connection, queries it at most once,
gives the cursor back before the connection and the connection back once. A block gives back what
the reader that entered it holds, however its steps end and whoever is the current reader by then.
-/

import CatalogReader.CommandLine.Run
import CatalogReader.Proofs.Connections.Moves
import CatalogReader.Proofs.Fetching.Precedence

namespace CatalogReader

/-! ### The four courses of one fetch -/

/-- What a fetch that begins without a connection may ask of the driver: nothing; one connection,
which is refused; one connection, which is given back with nothing asked; or one connection, one
query, the cursor given back, and then the connection. -/
inductive ReleasedOnce (url : String) (timeout : Option Int) (name : TableName) :
    List Event → Prop
  | untouched : ReleasedOnce url timeout name []
  | refused : ReleasedOnce url timeout name [.connect url timeout false]
  | unasked : ReleasedOnce url timeout name [.connect url timeout true, .close true]
  | asked : ReleasedOnce url timeout name
      [.connect url timeout true, .execute name, .cursorClosed, .close true]

/-- On each of the four courses what is opened is closed. -/
theorem ReleasedOnce.opened_eq {url : String} {timeout : Option Int} {name : TableName}
    {events : List Event} (once : ReleasedOnce url timeout name events) :
    opened events = closed events := by
  cases once <;> rfl

/-- A verdict that takes one of the four courses and leaves no connection behind. -/
structure Verdict.Released (reader : Reader) (name : TableName) (verdict : Verdict) : Prop where
  once : ReleasedOnce reader.url reader.connectTimeout name verdict.events
  free : verdict.held = false

section Rules

variable {server : Server} {name : TableName} {reader : Reader} {verdict : Verdict}

theorem released_of_urlRule (free : reader.connected = false)
    (applies : urlRule reader = some verdict) : verdict.Released reader name := by
  unfold urlRule at applies
  rw [if_neg (Bool.eq_false_iff.mp free)] at applies
  split at applies
  · cases applies
    exact ⟨.untouched, rfl⟩
  · cases applies

theorem released_of_connectRule (free : reader.connected = false)
    (applies : connectRule server reader = some verdict) : verdict.Released reader name := by
  unfold connectRule at applies
  rw [if_neg (Bool.eq_false_iff.mp free)] at applies
  split at applies
  · cases applies
    exact ⟨.refused, rfl⟩
  · cases applies

/-- What a fetch asks until its query is over, and then the closing. -/
theorem releasedOnce_of_closed (server : Server) (name : TableName)
    (free : reader.connected = false) :
    ReleasedOnce reader.url reader.connectTimeout name
      (openingEvents reader ++ queryEvents server name ++ [.close true]) := by
  unfold openingEvents queryEvents
  rw [if_neg (Bool.eq_false_iff.mp free)]
  cases server.fault .cursor with
  | some fault => exact .unasked
  | none => exact .asked

theorem released_of_heldRules (closing : server.fault .close = none)
    (free : reader.connected = false) {rule : Option Verdict}
    (member : rule ∈ heldRules server name (openingEvents reader ++ queryEvents server name))
    (applies : rule = some verdict) : verdict.Released reader name := by
  have course := releasedOnce_of_closed server name free
  generalize openingEvents reader ++ queryEvents server name = asked at member course
  unfold heldRules at member
  simp only [List.mem_cons, List.not_mem_nil, or_false] at member
  rcases member with rfl | rfl | rfl | rfl
  · unfold closeRule at applies
    rw [closing] at applies
    cases applies
  · obtain ⟨fault, _, rfl⟩ := Option.map_eq_some_iff.mp applies
    exact ⟨course, rfl⟩
  · unfold shapeRule at applies
    split at applies
    · cases applies
      exact ⟨course, rfl⟩
    · cases applies
  · cases applies
    exact ⟨course, rfl⟩

end Rules

namespace Reader

variable {server : Server} {reader : Reader}

/-- A fetch that begins without a connection takes one of the four courses, and ends without one. -/
theorem released_fetch (closing : server.fault .close = none) (free : reader.connected = false)
    (reference : String) :
    ((reader.fetch server reference).verdict []).Released reader (reader.resolve reference) := by
  obtain ⟨rule, member, applies⟩ :=
    List.exists_of_findSome?_eq_some (findSome?_fetchRules server reader reference)
  unfold fetchRules at member
  rcases List.mem_cons.mp member with rfl | later
  · exact released_of_urlRule free applies
  · rcases List.mem_cons.mp later with rfl | held
    · exact released_of_connectRule free applies
    · exact released_of_heldRules closing free held applies

theorem close_of_free (free : reader.connected = false) :
    reader.close server = .quiet (.ok ()) reader :=
  if_neg (Bool.eq_false_iff.mp free)

theorem connected_close (closing : server.fault .close = none) :
    (reader.close server).reader.connected = false := by
  cases held : reader.connected with
  | false =>
    rw [close_of_free held]
    exact held
  | true =>
    unfold close
    rw [if_pos held, closing]

/-- After a fetch that begins without a connection there is nothing left to close. -/
theorem fetchOnce_eq_fetch (closing : server.fault .close = none) (free : reader.connected = false)
    (reference : String) : reader.fetchOnce server reference = reader.fetch server reference := by
  have released := (released_fetch closing free reference).free
  unfold fetchOnce Outcome.closing
  rw [close_of_free released]
  show Outcome.mk _ _ _ _ = _
  rw [Outcome.quiet, List.append_nil, List.append_nil]

end Reader

/-! ### Runs of the program -/

namespace CommandLine

variable (console : Console)

theorem events_exitPrinting (sofar : Sofar) (code : Nat) (text : String) :
    (sofar.exitPrinting console code text).events = sofar.events := by
  unfold Sofar.exitPrinting
  cases console.printed text <;> rfl

theorem events_fail (sofar : Sofar) (failure : Failure) :
    (sofar.fail console failure).events = sofar.events := by
  cases failure with
  | schema error => exact events_exitPrinting console sofar 1 _
  | _ => rfl

theorem events_afterWriting (sofar : Sofar) (path : Path) (table : Table)
    (fault : Option FileFault) :
    (afterWriting console sofar path table fault).events = sofar.events := by
  cases fault with
  | none => exact events_exitPrinting console sofar 0 _
  | some fault => exact events_exitPrinting console sofar 1 _

theorem events_printLines (sofar : Sofar) (lines : List (Except Failure String)) :
    (printLines console sofar lines).events = sofar.events := by
  induction lines generalizing sofar with
  | nil => rfl
  | cons line rest inductionHypothesis =>
    unfold printLines
    cases shownLine console line with
    | error failure => rfl
    | ok shown => exact inductionHypothesis (sofar.print shown)

theorem events_runOn_write {next : Option FileFault → Ending} {events : List Event}
    (same : ∀ fault, (next fault).events = events) (path : Path) (text : String)
    (files : FileTree) : ((Plan.write path text next).runOn files).1.events = events := by
  unfold Plan.runOn
  dsimp only
  cases files.write path text with
  | error fault => exact same (some fault)
  | ok after => exact same none

/-- Showing a table asks nothing of the driver, whether it succeeds or not. -/
theorem events_showPlan (sofar : Sofar) (request : Request) (table : Table) (files : FileTree) :
    ((showPlan console sofar request table).runOn files).1.events = sofar.events := by
  unfold showPlan
  split
  · unfold summaryPlan
    split
    · exact events_exitPrinting console sofar 0 _
    · cases consoleSummary console table <;> rfl
  · cases render console request.format table with
    | error failure => rfl
    | ok text =>
      cases request.output with
      | none => rfl
      | some path =>
        exact events_runOn_write (events_afterWriting console sofar path table) path _ files

/-- All that the command of a table asks of the driver is asked by its one fetch. -/
theorem events_tablePlan (server : Server) (settings : Settings) (request : Request)
    (files : FileTree) :
    ((tablePlan console server settings request).runOn files).1.events = [] ∨
      ∃ url reader, databaseUrl? settings request = some url ∧
        readerFor settings request url = .ok reader ∧
        ((tablePlan console server settings request).runOn files).1.events =
          (reader.fetchOnce server request.reference).events := by
  unfold tablePlan
  cases logThreshold console request.verbose settings.logLevel with
  | error fault => exact Or.inl rfl
  | ok parts =>
    dsimp only
    cases databaseUrl? settings request with
    | none => exact Or.inl (events_exitPrinting console _ 1 _)
    | some url =>
      dsimp only
      cases made : readerFor settings request url with
      | error failure => exact Or.inl (events_fail console _ failure)
      | ok reader =>
        refine Or.inr ⟨url, reader, rfl, made, ?_⟩
        dsimp only
        cases (reader.fetchOnce server request.reference).result with
        | error failure => exact events_fail console _ failure
        | ok table => exact events_showPlan console _ request table files

theorem make_of_readerFor {settings : Settings} {request : Request} {url : String} {reader : Reader}
    (made : readerFor settings request url = .ok reader) :
    ∃ schema, reader = .make url schema settings.connectTimeout :=
  ⟨_, Session.make_of_ofUrl made⟩

/-- A run asks nothing of the driver, or it is the command of a table and takes one of the four
courses with its URL and its table. -/
theorem run_releases {server : Server} (closing : server.fault .close = none) (settings : Settings)
    (files : FileTree) (arguments : List String) :
    (run console server settings files arguments).1.events = [] ∨
      ∃ request url reader, command? arguments = some (.table request) ∧
        databaseUrl? settings request = some url ∧
        readerFor settings request url = .ok reader ∧
        ReleasedOnce url settings.connectTimeout (reader.resolve request.reference)
          (run console server settings files arguments).1.events := by
  unfold run plan
  cases command? arguments with
  | none => exact Or.inl rfl
  | some command =>
    cases command with
    | config => exact Or.inl (events_printLines console _ _)
    | table request =>
      rcases events_tablePlan console server settings request files with idle | asked
      · exact Or.inl idle
      · obtain ⟨url, reader, given, made, events⟩ := asked
        refine Or.inr ⟨request, url, reader, rfl, given, made, ?_⟩
        obtain ⟨schema, rfl⟩ := make_of_readerFor made
        rw [Reader.fetchOnce_eq_fetch closing (Session.connected_make _ _ _)] at events
        show ReleasedOnce _ _ _ ((tablePlan console server settings request).runOn files).1.events
        rw [events]
        exact (Reader.released_fetch closing (Session.connected_make _ _ _) request.reference).once

end CommandLine

/-! ### Steps of a session -/

namespace Session

/-- Keeping the result of a fetch changes nothing but the last table. -/
theorem keep_eq (ending : Except Failure Table × Session) :
    ∃ table, (keep ending).2 = { ending.2 with table } := by
  obtain ⟨result, session⟩ := ending
  cases result <;> exact ⟨_, rfl⟩

/-- An operation changes its own reader and no other one. -/
theorem readers_perform {Value : Type} (session : Session) (number other : Nat)
    (operation : Server → Reader → Outcome Value) :
    (session.perform number operation).2.readers other =
      if other = number then (operation session.server (session.readers number)).reader
      else session.readers other := rfl

theorem readers_addReader (session : Session) (reader : Reader) (other : Nat) :
    (session.addReader reader).readers other =
      if other = session.count then reader else session.readers other := rfl

/-- The readers there were are as they were, and those that were added hold no connection. -/
structure AddsUnconnected (before after : Session) : Prop where
  same : ∀ number < before.count, after.readers number = before.readers number
  free : ∀ number < after.count, before.count ≤ number → (after.readers number).connected = false

/-- A fetch with a reader of its own takes one of the four courses, and its reader holds nothing
afterwards. If no reader is made, nothing is asked. -/
theorem step_fetchOnce_releases {session : Session} (closing : session.server.fault .close = none)
    (url : String) (defaultSchema : Option String) (reference : String) :
    session.AddsUnconnected (session.step (.fetchOnce url defaultSchema reference)).2 ∧
      ∃ events,
        ReleasedOnce url none ((Reader.make url defaultSchema none).resolve reference) events ∧
        (session.step (.fetchOnce url defaultSchema reference)).2.trace =
          session.trace ++ events.map fun event => (session.count, event) := by
  rw [Session.step]
  cases made : Reader.ofUrl url defaultSchema none with
  | error failure =>
    refine ⟨⟨fun _ _ => rfl, fun number known new => ?_⟩, [], .untouched, (List.append_nil _).symm⟩
    exact absurd known (Nat.not_lt_of_le new)
  | ok reader =>
    obtain rfl := make_of_ofUrl made
    have free := connected_make url defaultSchema none
    have own : (session.addReader (.make url defaultSchema none)).readers session.count =
        .make url defaultSchema none := if_pos rfl
    have released := Reader.released_fetch closing free reference
    have once := Reader.fetchOnce_eq_fetch closing free reference
    have performed (number : Nat) :=
      readers_perform (session.addReader (.make url defaultSchema none)) session.count number
        fun server => Reader.fetchOnce server reference
    obtain ⟨table, kept⟩ := keep_eq
      ((session.addReader (.make url defaultSchema none)).perform session.count fun server =>
        Reader.fetchOnce server reference)
    dsimp only
    rw [kept]
    refine ⟨⟨fun number known => ?_, fun number known new => ?_⟩, _, released.once, ?_⟩
    · refine (performed number).trans ?_
      rw [if_neg (Nat.ne_of_lt known), readers_addReader, if_neg (Nat.ne_of_lt known)]
    · obtain rfl : number = session.count := Nat.le_antisymm (Nat.le_of_lt_succ known) new
      refine (congrArg Reader.connected (performed session.count)).trans ?_
      rw [if_pos rfl, own]
      exact (congrArg (fun outcome : Outcome Table => outcome.reader.connected) once).trans
        released.free
    · show session.trace ++ List.map _ (Reader.fetchOnce _ _ (Session.readers _ _)).events = _
      rw [own]
      exact congrArg (fun outcome : Outcome Table =>
        session.trace ++ outcome.events.map fun event => (session.count, event)) once

/-- After a block the reader that entered it holds nothing, if closing does not fail by then. -/
theorem step_block_releases (session : Session) (inner : List Step)
    (closing : (session.steps inner).2.server.fault .close = none) :
    ((session.step (.block inner)).2.readers session.current).connected = false := by
  rw [step_block]
  show ((Session.perform _ _ Reader.close).2.readers _).connected = false
  rw [readers_perform, if_pos rfl]
  exact Reader.connected_close closing

end Session

/-! ### One query and one release -/

/-- While closing does not fail, each way to fetch a table takes one of the four courses and leaves
no connection behind, whatever else fails: a reader that holds no connection, a step that makes a
reader for one fetch, and a run of the program, whose output may fail as well. And after a block of
any steps, in the course of which the server may change, the reader that entered it holds no
connection unless closing has come to fail. -/
theorem connections_released_once {server : Server} (closing : server.fault .close = none) :
    (∀ (reader : Reader) (reference : String), reader.connected = false →
      ReleasedOnce reader.url reader.connectTimeout (reader.resolve reference)
          (reader.fetch server reference).events ∧
        (reader.fetch server reference).reader.connected = false) ∧
    (∀ (session : Session) (url : String) (defaultSchema : Option String) (reference : String),
      session.server = server →
        session.AddsUnconnected (session.step (.fetchOnce url defaultSchema reference)).2 ∧
          ∃ events,
            ReleasedOnce url none ((Reader.make url defaultSchema none).resolve reference) events ∧
              (session.step (.fetchOnce url defaultSchema reference)).2.trace =
                session.trace ++ events.map fun event => (session.count, event)) ∧
    (∀ (console : Console) (settings : Settings) (files : FileTree) (arguments : List String),
      opened (CommandLine.run console server settings files arguments).1.events =
          closed (CommandLine.run console server settings files arguments).1.events ∧
        ((CommandLine.run console server settings files arguments).1.events = [] ∨
          ∃ request url reader, CommandLine.command? arguments = some (.table request) ∧
            CommandLine.databaseUrl? settings request = some url ∧
            CommandLine.readerFor settings request url = .ok reader ∧
            ReleasedOnce url settings.connectTimeout (reader.resolve request.reference)
              (CommandLine.run console server settings files arguments).1.events)) ∧
    ∀ (session : Session) (inner : List Step),
      (session.steps inner).2.server.fault .close = none →
        ((session.step (.block inner)).2.readers session.current).connected = false := by
  refine ⟨fun reader reference free => ?_, fun session url defaultSchema reference same => ?_,
    fun console settings files arguments => ?_, Session.step_block_releases⟩
  · have released := Reader.released_fetch closing free reference
    exact ⟨released.once, released.free⟩
  · subst same
    exact Session.step_fetchOnce_releases closing url defaultSchema reference
  · have released := CommandLine.run_releases console closing settings files arguments
    refine ⟨?_, released⟩
    rcases released with idle | ⟨_, _, _, _, _, _, once⟩
    · rw [idle]
      rfl
    · exact once.opened_eq

/-- A server that gives no cursors. -/
def cursorless : Server :=
  Server.empty.change (.fault .cursor (some ⟨.interface, "no cursor"⟩))

/-- A block that fails in its midst, with another reader being the current one by then. -/
def failingBlock : List Step :=
  [.connect, .new ⟨"postgres://db/other", none, none, false⟩, .rows ⟨"public", "t"⟩, .close]

theorem connections_released_once_cursorless :
    cursorless.fault .close = none ∧
      (Session.localReader.fetch cursorless "t").events =
        [.connect "postgres://localhost/db" none true, .close true] ∧
      ReleasedOnce "postgres://localhost/db" none ⟨"public", "t"⟩
        (Session.localReader.fetch cursorless "t").events ∧
      (((Session.start cursorless Session.localReader).steps failingBlock).2.readers 0).connected =
        true ∧
      (((Session.start cursorless Session.localReader).step (.block failingBlock)).2.readers
        0).connected = false := by
  have released := @connections_released_once cursorless rfl
  refine ⟨rfl, rfl, (released.1 Session.localReader "t" rfl).1, rfl, ?_⟩
  exact released.2.2.2 (Session.start cursorless Session.localReader) failingBlock rfl

end CatalogReader
