/-
Fetching after any past. A session may have gone through whatever steps and faults, and its reader
may still hold a connection that could not be closed. Once every call of the driver succeeds again,
a fetch of that reader ends as one of a reader just made for the same database, with the table that
the catalog has by then or the error of a row in it. Nothing of an earlier catalog is left in it,
since all that a reader carries along is where it connects, its default schema, and whether it holds
a connection, which the fetch uses for its one query and then gives back.
-/

import CatalogReader.Proofs.Connections.Accounting
import CatalogReader.Proofs.Connections.Release
import CatalogReader.Proofs.Fetching.Contract

namespace CatalogReader

/-! ### Servers without faults -/

/-- A server of some tables, all of whose calls succeed. -/
def Server.faultless (tables : List CatalogTable) : Server := ⟨tables, fun _ => none⟩

/-- The changes that clear all faults of a server and give it other tables. -/
def renewal (tables : List CatalogTable) : List ServerChange :=
  .tables tables ::
    [DriverCall.connect, .cursor, .execute, .fetch, .close].map fun call => .fault call none

theorem changes_renewal (server : Server) (tables : List CatalogTable) :
    server.changes (renewal tables) = .faultless tables := by
  refine congrArg (Server.mk tables) (funext fun call => ?_)
  cases call <;> rfl

/-- What a fetch without faults asks of the driver: a connection, unless one is held, one query, the
cursor to be given back, and then the connection. -/
def wholeCourse (reader : Reader) (name : TableName) : List Event :=
  openingEvents reader ++ [.execute name, .cursorClosed, .close true]

/-- Without faults it is the rows that decide how a fetch ends, and no connection is left. -/
theorem verdict_of_faultless (tables : List CatalogTable) {reader : Reader} (reference : String)
    (accepted : ∃ parts, Url.ofText reader.url.toList = .ok parts) :
    (reader.fetch (.faultless tables) reference).verdict [] =
      tableRule (.faultless tables) (reader.resolve reference)
        (openingEvents reader ++ [.execute (reader.resolve reference), .cursorClosed]) := by
  obtain ⟨rule, member, applies⟩ :=
    List.exists_of_findSome?_eq_some (findSome?_fetchRules (.faultless tables) reader reference)
  generalize reader.resolve reference = name at member ⊢
  simp only [fetchRules, heldRules, List.mem_cons, List.not_mem_nil, or_false] at member
  rcases member with rfl | rfl | rfl | rfl | rfl | rfl
  · obtain ⟨parts, read⟩ := accepted
    unfold urlRule at applies
    rw [read, id, ite_self] at applies
    cases applies
  · have unrefused : connectRule (.faultless tables) reader = none := by
      unfold connectRule
      split
      · rfl
      · cases Url.redact reader.url <;> rfl
    rw [unrefused] at applies
    cases applies
  · cases applies
  · cases applies
  · -- The records are no rows, which is what the last rule says of them as well.
    unfold shapeRule at applies
    split at applies
    case isTrue misshapen =>
      rw [← Option.some.inj applies]
      unfold tableRule
      rw [rowsOfRecords_of_misshapen misshapen]
      rfl
    case isFalse => cases applies
  · exact (Option.some.inj applies).symm

/-- What comes of the rows of a server: a table, or the error of a row, if its records are rows. -/
theorem outcome_of_tableRule (server : Server) (name : TableName) (asked : List Event) :
    (∃ table, (tableRule server name asked).result = .ok table) ∨
      (∃ error, (tableRule server name asked).result = .error (.schema error) ∧
        .introspection ∈ error.kind.lineage) ∨
      ¬server.HasRows name := by
  by_cases whole : server.HasRows name
  · obtain ⟨rows, read⟩ := mapM_ofRecord?_eq_some whole
    have made : (tableRule server name asked).result =
        (Catalog.tableOfRows name.table rows).mapError .schema := by
      unfold tableRule Reader.rowsOfRecords
      rw [read]
      rfl
    rw [made]
    unfold Catalog.tableOfRows
    cases converted : Catalog.columnsOfRows (Catalog.sortRows rows) with
    | error error => exact Or.inr (Or.inl ⟨error, rfl, introspection_of_columnsOfRows converted⟩)
    | ok columns => exact Or.inl ⟨_, rfl⟩
  · exact Or.inr (Or.inr whole)

namespace Session

/-! ### Sessions on their way -/

/-- A session that came about by some steps from its beginning. -/
def Reachable (session : Session) : Prop :=
  ∃ server request started steps, ofRequest server request = .ok started ∧
    session = started.run steps

theorem moves_of_reachable {session : Session} (reached : session.Reachable) :
    ∃ server url schema timeout, Moves (start server (.make url schema timeout)) session := by
  obtain ⟨server, request, started, steps, begun, rfl⟩ := reached
  have made : ∃ url schema timeout, started = start server (.make url schema timeout) := by
    cases request with
    | none => exact ⟨_, _, _, (Except.ok.inj begun).symm⟩
    | some request =>
      rw [ofRequest] at begun
      cases asked : request.reader with
      | error failure =>
        rw [asked] at begun
        cases begun
      | ok reader =>
        rw [asked] at begun
        exact ⟨_, _, _, (make_of_request asked ▸ Except.ok.inj begun).symm⟩
  obtain ⟨url, schema, timeout, rfl⟩ := made
  exact ⟨server, url, schema, timeout, moves_run _ Nat.zero_lt_one steps⟩

theorem accounted_of_reachable {session : Session} (reached : session.Reachable) :
    session.Accounted := by
  obtain ⟨server, url, schema, timeout, moves⟩ := moves_of_reachable reached
  exact moves.keeps Accounted Move.accounted (accounted_start server _ (connected_make _ _ _))

/-- What holds of every reader that is made, and does not depend on its connection, holds of all
readers of a session on its way. -/
theorem readers_of_reachable {session : Session} (reached : session.Reachable)
    (Kept : Reader → Prop) (made : ∀ url schema timeout, Kept (.make url schema timeout))
    (blind : ∀ reader connected, Kept reader → Kept { reader with connected }) (number : Nat) :
    Kept (session.readers number) := by
  obtain ⟨server, url, schema, timeout, moves⟩ := moves_of_reachable reached
  refine moves.keeps (fun session => ∀ number, Kept (session.readers number)) ?_
    (fun _ => made url schema timeout) number
  intro first second move kept number
  cases move with
  | server | choose | keep => exact kept number
  | add url schema timeout =>
    show Kept (if number = first.count then _ else first.readers number)
    split
    · exact made url schema timeout
    · exact kept number
  | perform other operation known sound =>
    show Kept (if number = other then _ else first.readers number)
    split
    · rw [(sound first.server (first.readers other)).same]
      exact blind _ _ (kept other)
    · exact kept number

/-- Every reader has a default schema, since the empty one is not taken. -/
theorem defaultSchema_ne_empty {session : Session} (reached : session.Reachable) (number : Nat) :
    (session.readers number).defaultSchema.isEmpty = false := by
  refine readers_of_reachable reached (fun reader => reader.defaultSchema.isEmpty = false) ?_
    (fun _ _ kept => kept) number
  intro url schema timeout
  show (TableName.schemaOr Reader.publicSchema schema).isEmpty = false
  unfold TableName.schemaOr
  split
  · decide
  · split
    · decide
    · exact Bool.eq_false_iff.mpr ‹_›

/-! ### Fetching once more -/

/-- A reader just made for the database and the default schema of another one. -/
def remade (reader : Reader) (timeout : Option Int) : Reader :=
  .make reader.url (some reader.defaultSchema) timeout

theorem resolve_remade {reader : Reader} (named : reader.defaultSchema.isEmpty = false)
    (timeout : Option Int) (reference : String) :
    (remade reader timeout).resolve reference = reader.resolve reference := by
  have kept : TableName.schemaOr Reader.publicSchema (some reader.defaultSchema) =
      reader.defaultSchema := if_neg (Bool.eq_false_iff.mp named)
  exact congrArg (TableName.ofReference · reference) kept

/-- The session after all faults are cleared and the catalog is replaced. -/
def renewed (session : Session) (tables : List CatalogTable) : Session :=
  (session.step (.server (renewal tables))).2

theorem renewed_eq (session : Session) (tables : List CatalogTable) :
    session.renewed tables = { session with server := .faultless tables } := by
  rw [← changes_renewal session.server tables]
  rfl

theorem reachable_step {session : Session} (reached : session.Reachable) (step : Step) :
    (session.step step).2.Reachable := by
  obtain ⟨server, request, started, steps, begun, rfl⟩ := reached
  refine ⟨server, request, started, steps ++ [step], begun, ?_⟩
  unfold run
  rw [List.foldl_append]
  rfl

/-- A fetch in a session, by what the fetch of its reader comes to. -/
theorem step_fetch (session : Session) (reference : String) :
    ∃ table, (∀ found, (session.reader.fetch session.server reference).result = .ok found →
        table = some found) ∧
      session.step (.fetch reference) =
        ((session.reader.fetch session.server reference).result.bind Answer.ofTable,
          { session.setReader session.current
              (session.reader.fetch session.server reference).reader with
            table
            trace := session.trace ++
              (session.reader.fetch session.server reference).events.map
                fun event => (session.current, event)
            entries := session.entries ++
              (session.reader.fetch session.server reference).entries }) := by
  rw [Session.step]
  show ∃ table, _ ∧ keep ((session.reader.fetch session.server reference).result, _) = _
  cases (session.reader.fetch session.server reference).result with
  | error failure => exact ⟨session.table, nofun, rfl⟩
  | ok found => exact ⟨some found, fun _ same => congrArg some (Except.ok.inj same), rfl⟩

/-- The end of a step of a session that answers what a fetch ended with, after the one query for a
table, and leaves no connection of the current reader open. -/
structure AnswersAfresh (session : Session) (name : TableName) (result : Except Failure Table)
    (ending : Except Failure Answer × Session) : Prop where
  answer : ending.1 = result.bind Answer.ofTable
  table : ∀ table, result = .ok table → ending.2.table = some table
  current : ending.2.current = session.current
  trace : ending.2.trace =
    session.trace ++ (wholeCourse session.reader name).map fun event => (session.current, event)
  free : ending.2.reader.connected = false
  closed : opened (eventsBy session.current ending.2.trace) =
    closed (eventsBy session.current ending.2.trace)

theorem answersAfresh_of_reachable {session : Session} (reached : session.Reachable)
    (tables : List CatalogTable) (reference : String)
    (accepted : ∃ parts, Url.ofText session.reader.url.toList = .ok parts) :
    session.AnswersAfresh (session.reader.resolve reference)
      (session.reader.fetch (.faultless tables) reference).result
      ((session.renewed tables).step (.fetch reference)) := by
  have verdict := verdict_of_faultless tables reference accepted
  have events : (session.reader.fetch (.faultless tables) reference).events =
      wholeCourse session.reader (session.reader.resolve reference) :=
    (congrArg Verdict.events verdict).trans (List.append_assoc _ _ _)
  have released : (session.reader.fetch (.faultless tables) reference).reader.connected = false :=
    congrArg Verdict.held verdict
  have accounted := accounted_of_reachable
    (reachable_step (reachable_step reached (.server (renewal tables))) (.fetch reference))
  obtain ⟨table, kept, stepped⟩ := step_fetch (session.renewed tables) reference
  rw [renewed_eq] at kept stepped
  change Accounted ((session.renewed tables).step (.fetch reference)).2 at accounted
  rw [renewed_eq, stepped] at accounted ⊢
  have free : (if session.current = session.current then
      (session.reader.fetch (.faultless tables) reference).reader else session.reader).connected =
        false := by
    rw [if_pos rfl]
    exact released
  refine ⟨rfl, kept, rfl, ?_, free, ?_⟩
  · rw [← events]
    rfl
  · exact (accounted.opened_eq session.current accounted.chosen).trans
      (congrArg (fun held : Bool => _ + held.toNat) free)

/-- Whatever the steps of a session were and whichever faults the driver raised in the course of
them, once no call fails and the catalog has some tables, a fetch of the current reader ends as that
of a reader which is just made for the same URL and default schema: with a table, or with the error
of a row, if all records are rows. The session answers the same. It makes one query, over the
connection that is held or else over one that is opened for it; in the end the reader holds no
connection, and every connection that it ever opened is closed. -/
theorem fetch_recovers {session : Session} (reached : session.Reachable)
    (tables : List CatalogTable) (reference : String) (timeout : Option Int)
    (accepted : ∃ parts, Url.ofText session.reader.url.toList = .ok parts) :
    (session.reader.fetch (.faultless tables) reference).result =
        ((remade session.reader timeout).fetch (.faultless tables) reference).result ∧
      ((∃ table, (session.reader.fetch (.faultless tables) reference).result = .ok table) ∨
        (∃ error, (session.reader.fetch (.faultless tables) reference).result =
          .error (.schema error) ∧ .introspection ∈ error.kind.lineage) ∨
        ¬(Server.faultless tables).HasRows (session.reader.resolve reference)) ∧
      session.AnswersAfresh (session.reader.resolve reference)
        ((remade session.reader timeout).fetch (.faultless tables) reference).result
        ((session.renewed tables).step (.fetch reference)) := by
  have named : session.reader.defaultSchema.isEmpty = false :=
    defaultSchema_ne_empty reached session.current
  have afresh : ∃ parts, Url.ofText (remade session.reader timeout).url.toList = .ok parts :=
    accepted
  have old : (session.reader.fetch (.faultless tables) reference).result = _ :=
    congrArg Verdict.result (verdict_of_faultless tables reference accepted)
  have new : ((remade session.reader timeout).fetch (.faultless tables) reference).result = _ :=
    congrArg Verdict.result (verdict_of_faultless tables reference afresh)
  rw [resolve_remade named] at new
  have same := old.trans new.symm
  refine ⟨same, ?_, same ▸ answersAfresh_of_reachable reached tables reference accepted⟩
  rw [old]
  exact outcome_of_tableRule _ _ _

/-- A session whose reader holds on to a connection that it failed to close. -/
def holdingOn : Session :=
  (start Server.empty localReader).run
    [.connect, .server [.fault .close (some lostConnection)], .fetch "users"]

theorem fetch_recovers_holdingOn :
    holdingOn.Reachable ∧ holdingOn.reader.connected = true ∧
      (∃ parts, Url.ofText holdingOn.reader.url.toList = .ok parts) ∧
      holdingOn.AnswersAfresh ⟨"public", "users"⟩
        ((remade holdingOn.reader (some 5)).fetch
          (.faultless [⟨⟨"public", "users"⟩, [numberRow.toRecord]⟩]) "users").result
        ((holdingOn.renewed [⟨⟨"public", "users"⟩, [numberRow.toRecord]⟩]).step
          (.fetch "users")) := by
  have reached : holdingOn.Reachable := ⟨Server.empty, none, _, _, rfl, rfl⟩
  have accepted : ∃ parts, Url.ofText holdingOn.reader.url.toList = .ok parts := ⟨_, rfl⟩
  exact ⟨reached, rfl, accepted, (fetch_recovers reached _ "users" (some 5) accepted).2.2⟩

end Session

end CatalogReader
