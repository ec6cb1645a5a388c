/-
What escapes from the command of a table as far as reading the table goes. The command prints an
error of reading a schema and lets any other failure escape. Of a driver that raises database errors
only, and of a catalog without nulls, two are left: a URL that is refused is not noticed before a
reader is made for it, and a connection that cannot be closed raises the driver's own fault.
-/

import CatalogReader.Proofs.Connections.Release
import CatalogReader.Proofs.Fetching.Contract
import CatalogReader.Proofs.Fetching.FullRows

namespace CatalogReader

/-! ### Fetches -/

theorem Server.HasFullRows.hasRows {server : Server} (full : server.HasFullRows)
    (name : TableName) : server.HasRows name := by
  intro record member
  obtain ⟨row, same, -⟩ := full.records name member
  exact ⟨row, same⟩

namespace Reader

variable {server : Server} {reader : Reader} {reference : String}

/-- A connection that is held after a fetch could not be closed. -/
theorem result_of_heldAfter (held : (reader.fetch server reference).reader.connected = true) :
    ∃ fault, server.fault .close = some fault ∧
      (reader.fetch server reference).result = .error (.driver fault) := by
  obtain ⟨rule, member, applies⟩ :=
    List.exists_of_findSome?_eq_some (findSome?_fetchRules server reader reference)
  have left : ((reader.fetch server reference).verdict []).held = true := held
  show ∃ fault, _ ∧ ((reader.fetch server reference).verdict []).result = _
  generalize (reader.fetch server reference).verdict [] = verdict at applies left
  unfold fetchRules heldRules at member
  simp only [List.mem_cons, List.not_mem_nil, or_false] at member
  rcases member with rfl | rfl | rfl | rfl | rfl | rfl
  · unfold urlRule at applies
    split at applies
    · cases applies
    · split at applies <;> cases applies
      cases left
  · unfold connectRule at applies
    split at applies
    · cases applies
    · split at applies <;> cases applies
      cases left
  · obtain ⟨fault, failing, rfl⟩ := Option.map_eq_some_iff.mp applies
    exact ⟨fault, failing, rfl⟩
  · obtain ⟨fault, _, rfl⟩ := Option.map_eq_some_iff.mp applies
    cases left
  · unfold shapeRule at applies
    split at applies <;> cases applies
    cases left
  · cases applies
    cases left

/-- Closing once more does not change how a fetch ends. -/
theorem result_fetchOnce :
    (reader.fetchOnce server reference).result = (reader.fetch server reference).result := by
  unfold fetchOnce Outcome.closing
  cases held : (reader.fetch server reference).reader.connected with
  | false =>
    rw [close_of_free held]
    rfl
  | true =>
    obtain ⟨fault, failing, ended⟩ := result_of_heldAfter held
    unfold close
    rw [if_pos held, failing, ended]

/-- A reader is not made if the URL is refused, and then for that reason, or for an error of reading
a schema. -/
theorem ofUrl_eq_error {url : String} {defaultSchema : Option String} {timeout : Option Int}
    {failure : Failure} (refused : ofUrl url defaultSchema timeout = .error failure) :
    (∃ fault, Url.ofText url.toList = .error fault ∧ failure = .url fault) ∨
      ∃ error, failure = .schema error := by
  unfold ofUrl Url.schemeOf at refused
  cases read : Url.ofText url.toList with
  | error fault =>
    rw [read] at refused
    cases refused
    exact Or.inl ⟨fault, rfl, rfl⟩
  | ok parts =>
    rw [read] at refused
    simp only [Except.map] at refused
    split at refused <;> cases refused
    exact Or.inr ⟨_, rfl⟩

theorem ofUrl_of_refused {url : String} {fault : Url.Fault}
    (refused : Url.ofText url.toList = .error fault) (defaultSchema : Option String)
    (timeout : Option Int) : ofUrl url defaultSchema timeout = .error (.url fault) := by
  unfold ofUrl Url.schemeOf
  rw [refused]
  rfl

/-- A fetch of a reader that was just made keeps its promise, or it opens a connection and cannot
close it. -/
theorem result_of_made {url : String} {defaultSchema : Option String} {timeout : Option Int}
    (made : ofUrl url defaultSchema timeout = .ok reader) (raised : server.RaisesDatabaseErrors)
    (full : server.HasFullRows) :
    (∃ fault, server.fault .connect = none ∧ server.fault .close = some fault ∧
        (reader.fetch server reference).result = .error (.driver fault)) ∨
      ((server.fault .connect = none → server.fault .close = none) ∧
        KeepsPromise (reader.fetch server reference).result) := by
  obtain ⟨target, accepted⟩ := redact_of_ofUrl made
  have free : reader.connected = false := by
    obtain rfl := Session.make_of_ofUrl made
    rfl
  cases refused : server.fault .connect with
  | some fault =>
    exact Or.inr ⟨nofun, keepsPromise_of_refused reference free accepted refused raised⟩
  | none =>
    have held := result_of_held server { reader with connected := true } reference rfl raised
      (full.hasRows _)
    rw [result_of_opened reference free accepted refused]
    cases failing : server.fault .close with
    | some fault =>
      rw [failing] at held
      exact Or.inl ⟨fault, rfl, rfl, held⟩
    | none =>
      rw [failing] at held
      exact Or.inr ⟨fun _ => rfl, held⟩

end Reader

namespace CommandLine

/-! ### What escapes -/

/-- What becomes of the table of a request at a URL: a reader is made for it, and fetches. -/
def tableResult (server : Server) (settings : Settings) (request : Request) (url : String) :
    Except Failure Table :=
  (readerFor settings request url).bind fun reader =>
    (reader.fetch server request.reference).result

/-- The failures that escape from the command of a table. -/
inductive Escapes (server : Server) (settings : Settings) (request : Request) : Failure → Prop
  /-- The URL is refused. -/
  | refused {url : String} {fault : Url.Fault} (given : databaseUrl? settings request = some url)
      (refused : Url.ofText url.toList = .error fault) :
      Escapes server settings request (.url fault)
  /-- A connection is opened and cannot be closed. -/
  | unclosed {url : String} {reader : Reader} {fault : DriverFault}
      (given : databaseUrl? settings request = some url)
      (made : readerFor settings request url = .ok reader)
      (opened : server.fault .connect = none) (failing : server.fault .close = some fault) :
      Escapes server settings request (.driver fault)

variable {server : Server} {settings : Settings} {request : Request} {url : String}

theorem run_of_asked {arguments : List String}
    (asked : command? arguments = some (.table request)) (console : Console) (files : FileTree) :
    run console server settings files arguments =
      (tablePlan console server settings request).runOn files := by
  unfold run plan
  rw [asked]

/-- What escapes is what the reading of the table ends with, unless that is an error of reading a
schema. -/
theorem escapes_iff (raised : server.RaisesDatabaseErrors) (full : server.HasFullRows)
    (given : databaseUrl? settings request = some url) (failure : Failure) :
    Escapes server settings request failure ↔
      tableResult server settings request url = .error failure ∧
        ∀ error, failure ≠ .schema error := by
  constructor
  · intro escapes
    cases escapes with
    | refused same refused =>
      obtain rfl := Option.some.inj (given.symm.trans same)
      refine ⟨?_, nofun⟩
      unfold tableResult readerFor
      dsimp only
      rw [Reader.ofUrl_of_refused refused]
      rfl
    | unclosed same made opened failing =>
      obtain rfl := Option.some.inj (given.symm.trans same)
      refine ⟨?_, nofun⟩
      unfold tableResult
      rw [made]
      rcases Reader.result_of_made made raised full with ⟨fault, -, own, ended⟩ | ⟨sound, -⟩
      · obtain rfl := Option.some.inj (failing.symm.trans own)
        exact ended
      · rw [sound opened] at failing
        cases failing
  · rintro ⟨ended, plain⟩
    unfold tableResult at ended
    cases made : readerFor settings request url with
    | error other =>
      rw [made] at ended
      obtain rfl : other = failure := Except.error.inj ended
      rcases Reader.ofUrl_eq_error made with ⟨fault, refused, rfl⟩ | ⟨error, same⟩
      · exact .refused given refused
      · exact absurd same (plain error)
    | ok reader =>
      rw [made] at ended
      change (reader.fetch server request.reference).result = _ at ended
      rcases Reader.result_of_made made raised full with ⟨fault, opened, failing, own⟩ | ⟨-, kept⟩
      · obtain rfl := Except.error.inj (own.symm.trans ended)
        exact .unclosed given made opened failing
      · rw [ended] at kept
        cases failure with
        | schema error => exact absurd rfl (plain error)
        | _ => exact kept.elim

end CommandLine

end CatalogReader
