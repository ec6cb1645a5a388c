/-
Two readers whose URLs differ in their passwords only, side by side. Whatever the server does, an
operation ends the same way for both, with the same failures and log entries, and leaves them alike
again. The one trace of the difference is the URL that the driver is handed, and with it erased the
events are the same too.
-/

import CatalogReader.Proofs.Credentials.Alike
import CatalogReader.Reader

namespace CatalogReader

/-! ### Hiding the URL -/

/-- An event without the URL that the driver is handed. -/
def Event.hidden : Event → Event
  | connect _ timeout opened => .connect "" timeout opened
  | event => event

/-- A reader without its URL. -/
def Reader.hidden (reader : Reader) : Reader :=
  { reader with url := "" }

theorem Event.opens_hidden (event : Event) : event.hidden.opens = event.opens := by
  cases event <;> rfl

theorem Event.closes_hidden (event : Event) : event.hidden.closes = event.closes := by
  cases event <;> rfl

/-- Readers that differ in the passwords of their URLs only. -/
structure Reader.Alike (first second : Reader) : Prop where
  url : Url.Alike first.url second.url
  hidden : first.hidden = second.hidden

/-- Outcomes that differ in the passwords of URLs only. -/
structure Outcome.Alike {Value : Type} (first second : Outcome Value) : Prop where
  result : first.result = second.result
  reader : first.reader.Alike second.reader
  events : first.events.map Event.hidden = second.events.map Event.hidden
  entries : first.entries = second.entries

namespace Outcome

variable {Value Next : Type}

theorem alike_quiet (result : Except Failure Value) {first second : Reader}
    (alike : first.Alike second) : (quiet result first).Alike (quiet result second) :=
  ⟨rfl, alike, rfl, rfl⟩

theorem Alike.andThen {first second : Outcome Value} {next : Value → Reader → Outcome Next}
    (alike : first.Alike second)
    (later : ∀ value {first second : Reader}, first.Alike second →
      (next value first).Alike (next value second)) :
    (first.andThen next).Alike (second.andThen next) := by
  unfold Outcome.andThen
  rw [← alike.result]
  cases first.result with
  | error failure => exact ⟨rfl, alike.reader, alike.events, alike.entries⟩
  | ok value =>
    have after := later value alike.reader
    refine ⟨after.result, after.reader, ?_, ?_⟩
    · show (_ ++ _ : List Event).map _ = (_ ++ _ : List Event).map _
      rw [List.map_append, List.map_append, alike.events, after.events]
    · show _ ++ _ = _ ++ _
      rw [alike.entries, after.entries]

theorem Alike.closing {first second : Outcome Value} {last : Reader → Outcome Unit}
    (alike : first.Alike second)
    (later : ∀ {first second : Reader}, first.Alike second → (last first).Alike (last second)) :
    (first.closing last).Alike (second.closing last) := by
  have after := later alike.reader
  refine ⟨?_, after.reader, ?_, ?_⟩
  · unfold Outcome.closing
    simp only [after.result, alike.result]
  · show (_ ++ _ : List Event).map _ = (_ ++ _ : List Event).map _
    rw [List.map_append, List.map_append, alike.events, after.events]
  · show _ ++ _ = _ ++ _
    rw [alike.entries, after.entries]

end Outcome

/-! ### Operations -/

namespace Reader

variable (server : Server) {first second : Reader}

theorem Alike.connected (alike : first.Alike second) : first.connected = second.connected :=
  show first.hidden.connected = second.hidden.connected from congrArg _ alike.hidden

theorem Alike.defaultSchema (alike : first.Alike second) :
    first.defaultSchema = second.defaultSchema :=
  show first.hidden.defaultSchema = second.hidden.defaultSchema from congrArg _ alike.hidden

theorem Alike.connectTimeout (alike : first.Alike second) :
    first.connectTimeout = second.connectTimeout :=
  show first.hidden.connectTimeout = second.hidden.connectTimeout from congrArg _ alike.hidden

theorem Alike.resolve (alike : first.Alike second) (reference : String) :
    first.resolve reference = second.resolve reference := by
  unfold Reader.resolve
  rw [alike.defaultSchema]

theorem Alike.setConnected (alike : first.Alike second) (connected : Bool) :
    Reader.Alike { first with connected } { second with connected } :=
  ⟨alike.url, congrArg (fun reader => { reader with connected }) alike.hidden⟩

theorem alike_connect (alike : first.Alike second) :
    (first.connect server).Alike (second.connect server) := by
  unfold connect
  rw [← alike.connected, ← Url.redact_of_alike alike.url]
  by_cases held : first.connected = true
  · rw [if_pos held, if_pos held]
    exact Outcome.alike_quiet _ alike
  · rw [if_neg held, if_neg held]
    have handed (opened : Bool) :
        [Event.connect first.url first.connectTimeout opened].map Event.hidden =
          [Event.connect second.url second.connectTimeout opened].map Event.hidden := by
      rw [alike.connectTimeout]
      rfl
    cases Url.redact first.url with
    | error fault => exact Outcome.alike_quiet _ alike
    | ok target =>
      cases server.fault .connect with
      | some fault => exact ⟨rfl, alike, handed false, rfl⟩
      | none => exact ⟨rfl, alike.setConnected true, handed true, rfl⟩

theorem alike_close (alike : first.Alike second) :
    (first.close server).Alike (second.close server) := by
  unfold close
  rw [← alike.connected]
  by_cases held : first.connected = true
  · rw [if_pos held, if_pos held]
    cases server.fault .close with
    | some fault => exact ⟨rfl, alike, rfl, rfl⟩
    | none => exact ⟨rfl, alike.setConnected false, rfl, rfl⟩
  · rw [if_neg held, if_neg held]
    exact Outcome.alike_quiet _ alike

theorem alike_query (name : TableName) (alike : first.Alike second) :
    (first.query server name).Alike (second.query server name) := by
  unfold query
  cases server.fault .cursor <;> exact ⟨rfl, alike, rfl, rfl⟩

theorem alike_rows (name : TableName) (alike : first.Alike second) :
    (first.rows server name).Alike (second.rows server name) :=
  (alike_connect server alike).andThen fun _ => alike_query server name

theorem alike_assemble (name : TableName) (rows : List CatalogRow) (alike : first.Alike second) :
    (assemble name rows first).Alike (assemble name rows second) := by
  unfold assemble
  cases Catalog.tableOfRows name.table rows <;> exact ⟨rfl, alike, rfl, rfl⟩

theorem alike_fetch (reference : String) (alike : first.Alike second) :
    (first.fetch server reference).Alike (second.fetch server reference) := by
  unfold fetch
  rw [alike.resolve]
  refine (alike_connect server alike).andThen fun _ => fun connected => ?_
  refine Outcome.Alike.andThen ?_ fun rows => alike_assemble _ rows
  exact (alike_rows server _ connected).closing (alike_close server)

theorem alike_fetchOnce (reference : String) (alike : first.Alike second) :
    (first.fetchOnce server reference).Alike (second.fetchOnce server reference) :=
  (alike_fetch server reference alike).closing (alike_close server)

/-! ### New readers -/

theorem alike_make {firstUrl secondUrl : String} (alike : Url.Alike firstUrl secondUrl)
    (defaultSchema : Option String) (connectTimeout : Option Int) :
    (make firstUrl defaultSchema connectTimeout).Alike
      (make secondUrl defaultSchema connectTimeout) :=
  ⟨alike, rfl⟩

/-- Two results that are the same failure or alike readers. -/
inductive AlikeResults : Except Failure Reader → Except Failure Reader → Prop
  | error (failure : Failure) : AlikeResults (.error failure) (.error failure)
  | ok {first second : Reader} (alike : first.Alike second) : AlikeResults (.ok first) (.ok second)

theorem alike_ofUrl {firstUrl secondUrl : String} (alike : Url.Alike firstUrl secondUrl)
    (defaultSchema : Option String) (connectTimeout : Option Int) :
    AlikeResults (ofUrl firstUrl defaultSchema connectTimeout)
      (ofUrl secondUrl defaultSchema connectTimeout) := by
  unfold ofUrl
  rw [Url.schemeOf_of_alike alike]
  cases Url.schemeOf secondUrl with
  | error fault => exact .error _
  | ok scheme =>
    by_cases known : scheme ∈ schemes
    · simp only [if_pos known]
      exact .ok (alike_make alike defaultSchema connectTimeout)
    · simp only [if_neg known]
      exact .error _

end Reader

end CatalogReader
