/-
What a fetch does not depend on. The default schema of a reader has its say when a reference is
resolved and never again, and its timeout goes to the driver when a connection is asked for and
nowhere else. So readers of one database that resolve references to the same table fetch it the same
way: with the same result, the same log entries, and the same events but for the timeout in them.
And all that is ever queried is the table that the reference was resolved to.
-/

import CatalogReader.Reader

namespace CatalogReader

/-! ### Readers that are told otherwise -/

/-- An event with another timeout in it. -/
def Event.within (timeout : Option Int) : Event → Event
  | connect url _ opened => .connect url timeout opened
  | event => event

/-- A reader that is told another default schema and another timeout. -/
def Reader.told (schema : String) (timeout : Option Int) (reader : Reader) : Reader :=
  { reader with defaultSchema := schema, connectTimeout := timeout }

/-- A reader that is made is told the default schema and the timeout, and whether one is made does
not depend on them. -/
theorem Reader.ofUrl_eq_told (url : String) (defaultSchema : Option String)
    (timeout : Option Int) :
    ofUrl url defaultSchema timeout =
      (ofUrl url none none).map (told (TableName.schemaOr publicSchema defaultSchema) timeout) := by
  unfold ofUrl
  cases Url.schemeOf url with
  | error fault => rfl
  | ok scheme =>
    dsimp only
    split <;> rfl

/-- The outcome for a reader that is told another default schema and another timeout. -/
def Outcome.told {Value : Type} (schema : String) (timeout : Option Int)
    (outcome : Outcome Value) : Outcome Value :=
  { outcome with
    reader := outcome.reader.told schema timeout
    events := outcome.events.map (Event.within timeout) }

variable {Value Next : Type} {schema : String} {timeout : Option Int}

namespace Outcome

theorem reader_told (outcome : Outcome Value) :
    (outcome.told schema timeout).reader = outcome.reader.told schema timeout := rfl

theorem events_told (outcome : Outcome Value) :
    (outcome.told schema timeout).events = outcome.events.map (Event.within timeout) := rfl

theorem told_andThen {first : Outcome Value} {next other : Value → Reader → Outcome Next}
    (later : ∀ value reader, other value (reader.told schema timeout) =
      (next value reader).told schema timeout) :
    (first.told schema timeout).andThen other = (first.andThen next).told schema timeout := by
  obtain ⟨result, reader, events, entries⟩ := first
  cases result with
  | error failure => rfl
  | ok value =>
    unfold andThen
    dsimp only [Outcome.told]
    rw [later value reader, events_told, reader_told, List.map_append]
    rfl

theorem told_closing {first : Outcome Value} {last : Reader → Outcome Unit}
    (later : ∀ reader, last (reader.told schema timeout) = (last reader).told schema timeout) :
    (first.told schema timeout).closing last = (first.closing last).told schema timeout := by
  unfold closing
  dsimp only [Outcome.told]
  rw [later first.reader, events_told, reader_told, List.map_append]
  rfl

end Outcome

namespace Reader

variable (server : Server)

theorem told_connect (reader : Reader) :
    (reader.told schema timeout).connect server =
      (reader.connect server).told schema timeout := by
  obtain ⟨url, defaultSchema, connectTimeout, connected⟩ := reader
  cases connected with
  | true => rfl
  | false =>
    unfold connect told
    dsimp only
    rw [if_neg Bool.false_ne_true, if_neg Bool.false_ne_true]
    cases Url.redact url with
    | error fault => rfl
    | ok target => cases server.fault .connect <;> rfl

theorem told_close (reader : Reader) :
    (reader.told schema timeout).close server = (reader.close server).told schema timeout := by
  obtain ⟨url, defaultSchema, connectTimeout, connected⟩ := reader
  unfold close told
  cases connected with
  | true => cases server.fault .close <;> rfl
  | false => rfl

theorem told_query (name : TableName) (reader : Reader) :
    (reader.told schema timeout).query server name =
      (reader.query server name).told schema timeout := by
  unfold query
  cases server.fault .cursor <;> rfl

theorem told_rows (name : TableName) (reader : Reader) :
    (reader.told schema timeout).rows server name =
      (reader.rows server name).told schema timeout := by
  unfold rows
  rw [told_connect]
  exact Outcome.told_andThen fun _ connected => told_query server name connected

theorem told_assemble (name : TableName) (rows : List CatalogRow) (reader : Reader) :
    assemble name rows (reader.told schema timeout) =
      (assemble name rows reader).told schema timeout := by
  unfold assemble
  cases Catalog.tableOfRows name.table rows <;> rfl

/-! ### Fetches of a table -/

/-- Fetches a table that is known by its name. -/
def fetchNamed (name : TableName) (reader : Reader) : Outcome Table :=
  (reader.connect server).andThen fun _ connected =>
    ((connected.rows server name).closing (close server)).andThen (assemble name)

theorem told_fetchNamed (name : TableName) (reader : Reader) :
    (reader.told schema timeout).fetchNamed server name =
      (reader.fetchNamed server name).told schema timeout := by
  unfold fetchNamed
  rw [told_connect]
  refine Outcome.told_andThen fun _ connected => ?_
  rw [told_rows, Outcome.told_closing (told_close server)]
  exact Outcome.told_andThen (told_assemble name)

/-- A fetch with a reader that is told otherwise is the fetch of the table that it resolves the
reference to. -/
theorem fetchOnce_told {reference : String} {name : TableName}
    (resolved : TableName.ofReference schema reference = name) (reader : Reader) :
    (reader.told schema timeout).fetchOnce server reference =
      ((reader.fetchNamed server name).closing (close server)).told schema timeout := by
  have named : (reader.told schema timeout).fetch server reference =
      (reader.told schema timeout).fetchNamed server name :=
    congrArg (fun name => (reader.told schema timeout).fetchNamed server name) resolved
  unfold fetchOnce
  rw [named, told_fetchNamed]
  exact Outcome.told_closing (told_close server)

end Reader

/-! ### What is queried -/

/-- Nothing but one table is queried. -/
def Outcome.Queries (name : TableName) (outcome : Outcome Value) : Prop :=
  ∀ other, Event.execute other ∈ outcome.events → other = name

namespace Outcome

variable {name : TableName}

theorem Queries.andThen {first : Outcome Value} {next : Value → Reader → Outcome Next}
    (before : first.Queries name) (later : ∀ value reader, (next value reader).Queries name) :
    (first.andThen next).Queries name := by
  intro other member
  unfold Outcome.andThen at member
  cases ended : first.result with
  | error failure =>
    rw [ended] at member
    exact before other member
  | ok value =>
    rw [ended] at member
    rcases List.mem_append.mp member with here | there
    · exact before other here
    · exact later _ _ other there

theorem mem_andThen {first : Outcome Value} {next : Value → Reader → Outcome Next} {value : Value}
    (ended : first.result = .ok value) {event : Event}
    (member : event ∈ (next value first.reader).events) : event ∈ (first.andThen next).events := by
  unfold Outcome.andThen
  rw [ended]
  exact List.mem_append_right _ member

theorem mem_andThen_of_mem {first : Outcome Value} {event : Event} (member : event ∈ first.events)
    (next : Value → Reader → Outcome Next) : event ∈ (first.andThen next).events := by
  unfold Outcome.andThen
  cases first.result with
  | error failure => exact member
  | ok value => exact List.mem_append_left _ member

theorem Queries.closing {first : Outcome Value} {last : Reader → Outcome Unit}
    (before : first.Queries name) (later : ∀ reader, (last reader).Queries name) :
    (first.closing last).Queries name := by
  intro other member
  rcases List.mem_append.mp member with here | there
  · exact before other here
  · exact later _ other there

end Outcome

namespace Reader

variable {server : Server} {name : TableName}

theorem queries_connect (reader : Reader) : (reader.connect server).Queries name := by
  unfold connect
  split
  · exact nofun
  · split
    · exact nofun
    · dsimp only
      split <;> exact fun other member => by cases List.mem_singleton.mp member

theorem queries_close (reader : Reader) : (reader.close server).Queries name := by
  unfold close
  split
  · split <;> exact fun other member => by cases List.mem_singleton.mp member
  · exact nofun

theorem queries_query (reader : Reader) : (reader.query server name).Queries name := by
  unfold query
  dsimp only
  split
  · exact nofun
  · intro other member
    rcases List.mem_cons.mp member with same | later
    · exact Event.execute.inj same
    · cases List.mem_singleton.mp later

theorem queries_assemble (rows : List CatalogRow) (reader : Reader) :
    (assemble name rows reader).Queries name := by
  unfold assemble
  dsimp only
  split <;> exact nofun

/-- A fetch queries the table that its reference is resolved to, if any. -/
theorem queries_fetchOnce (reference : String) (reader : Reader) :
    (reader.fetchOnce server reference).Queries (reader.resolve reference) := by
  refine Outcome.Queries.closing ?_ queries_close
  refine (queries_connect reader).andThen fun _ connected => ?_
  refine Outcome.Queries.andThen ?_ queries_assemble
  refine Outcome.Queries.closing ?_ queries_close
  exact (queries_connect connected).andThen fun _ => queries_query

/-- A fetch that has a connection and is given a cursor sends its query. -/
theorem execute_mem_fetchOnce {reader : Reader} {ended : Connected}
    (connects : (reader.connect server).result = .ok ended)
    (holds : (reader.connect server).reader.connected = true) (given : server.fault .cursor = none)
    (reference : String) :
    .execute (reader.resolve reference) ∈ (reader.fetchOnce server reference).events := by
  have reused : (reader.connect server).reader.connect server =
      .quiet (.ok .reused) (reader.connect server).reader := if_pos holds
  have queried : .execute (reader.resolve reference) ∈
      ((reader.connect server).reader.query server (reader.resolve reference)).events := by
    unfold query
    rw [given]
    exact List.mem_cons_self
  refine List.mem_append_left _ (Outcome.mem_andThen connects (Outcome.mem_andThen_of_mem ?_ _))
  refine List.mem_append_left _ ?_
  unfold rows
  rw [reused]
  exact Outcome.mem_andThen rfl queried

end Reader

end CatalogReader
