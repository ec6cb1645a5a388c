/-
What a reader asks of the driver, as a course between two states: a connection is held or none is.
A connection is asked for only while none is held, and the catalog is queried and a connection is
given back only while one is. Every operation of a reader takes a course from the state before it
to the state after it, whatever faults the driver raises, so that the connections opened and closed
on the way differ by what is held at the ends.
-/

import CatalogReader.Reader

namespace CatalogReader

/-! ### Courses -/

/-- An event that may occur while a connection is held or none is, and whether one is held after
it. A connection that is refused is not held, and one that cannot be closed stays held. -/
inductive Event.Leads : Bool → Event → Bool → Prop
  | connect (url : String) (timeout : Option Int) (opened : Bool) :
      Leads false (.connect url timeout opened) opened
  | execute (name : TableName) : Leads true (.execute name) true
  | cursorClosed : Leads true .cursorClosed true
  | close (closed : Bool) : Leads true (.close closed) !closed

/-- Events that may follow each other, from one state to another. -/
inductive Course : Bool → List Event → Bool → Prop
  | rest (held : Bool) : Course held [] held
  | step {held next last : Bool} {event : Event} {events : List Event}
      (first : event.Leads held next) (others : Course next events last) :
      Course held (event :: events) last

/-- How many connections are opened on a course. -/
def opened (events : List Event) : Nat := events.countP Event.opens

/-- How many connections are closed on a course. -/
def closed (events : List Event) : Nat := events.countP Event.closes

theorem opened_cons (event : Event) (events : List Event) :
    opened (event :: events) = opened events + event.opens.toNat := by
  unfold opened
  rw [List.countP_cons]
  cases event.opens <;> rfl

theorem closed_cons (event : Event) (events : List Event) :
    closed (event :: events) = closed events + event.closes.toNat := by
  unfold closed
  rw [List.countP_cons]
  cases event.closes <;> rfl

theorem Event.Leads.opens_add_held {event : Event} {held next : Bool}
    (leads : event.Leads held next) :
    event.opens.toNat + held.toNat = event.closes.toNat + next.toNat := by
  cases leads with
  | connect url timeout => exact Nat.add_comm next.toNat 0
  | execute name => rfl
  | cursorClosed => rfl
  | close closed => cases closed <;> rfl

namespace Course

variable {held middle last : Bool} {first second : List Event}

theorem append (before : Course held first middle) (after : Course middle second last) :
    Course held (first ++ second) last := by
  induction before with
  | rest held => exact after
  | step event _ inductionHypothesis => exact .step event (inductionHypothesis after)

/-- A course passes through one state between any two parts of it. -/
theorem of_append (course : Course held (first ++ second) last) :
    ∃ middle, Course held first middle ∧ Course middle second last := by
  induction first generalizing held with
  | nil => exact ⟨held, .rest held, course⟩
  | cons event events inductionHypothesis =>
    cases course with
    | step leads others =>
      obtain ⟨middle, before, after⟩ := inductionHypothesis others
      exact ⟨middle, .step leads before, after⟩

/-- The catalog is queried only while a connection is held. -/
theorem held_of_execute {name : TableName} (course : Course held (.execute name :: second) last) :
    held = true := by
  cases course with
  | step leads _ =>
    cases leads
    rfl

/-- What is held at first and what is opened make up what is closed and what is held at last. -/
theorem opened_add_held (course : Course held first last) :
    opened first + held.toNat = closed first + last.toNat := by
  induction course with
  | rest held => rfl
  | @step held next last event events leads _ inductionHypothesis =>
    have balanced := leads.opens_add_held
    rw [opened_cons, closed_cons]
    omega

end Course

/-! ### Courses of operations -/

/-- An operation of a reader that takes a course, and changes nothing of the reader but whether it
holds a connection. -/
structure Outcome.Sound {Value : Type} (reader : Reader) (outcome : Outcome Value) : Prop where
  course : Course reader.connected outcome.events outcome.reader.connected
  same : outcome.reader = { reader with connected := outcome.reader.connected }

theorem Reader.same_trans {first second last : Reader}
    (before : second = { first with connected := second.connected })
    (after : last = { second with connected := last.connected }) :
    last = { first with connected := last.connected } := by
  rw [after, before]

namespace Outcome

variable {Value Next : Type} {reader : Reader}

theorem sound_quiet (result : Except Failure Value) : (quiet result reader).Sound reader :=
  ⟨.rest _, rfl⟩

theorem Sound.andThen {first : Outcome Value} {next : Value → Reader → Outcome Next}
    (before : first.Sound reader)
    (after : ∀ value, first.result = .ok value → (next value first.reader).Sound first.reader) :
    (first.andThen next).Sound reader := by
  unfold Outcome.andThen
  cases found : first.result with
  | error failure => exact ⟨before.course, before.same⟩
  | ok value =>
    have second := after value found
    exact ⟨before.course.append second.course, Reader.same_trans before.same second.same⟩

theorem Sound.closing {first : Outcome Value} {last : Reader → Outcome Unit}
    (before : first.Sound reader) (after : (last first.reader).Sound first.reader) :
    (first.closing last).Sound reader :=
  ⟨before.course.append after.course, Reader.same_trans before.same after.same⟩

end Outcome

namespace Reader

variable (server : Server) (reader : Reader)

theorem sound_connect : (reader.connect server).Sound reader := by
  unfold connect
  by_cases held : reader.connected = true
  · rw [if_pos held]
    exact Outcome.sound_quiet _
  · rw [if_neg held]
    rw [Bool.not_eq_true] at held
    cases Url.redact reader.url with
    | error fault => exact Outcome.sound_quiet _
    | ok target =>
      cases server.fault .connect with
      | some fault =>
        refine ⟨?_, rfl⟩
        show Course reader.connected _ reader.connected
        rw [held]
        exact .step (.connect _ _ false) (.rest false)
      | none =>
        refine ⟨?_, rfl⟩
        show Course reader.connected _ true
        rw [held]
        exact .step (.connect _ _ true) (.rest true)

/-- A reader that has connected holds a connection. -/
theorem connected_of_connect {how : Connected}
    (success : (reader.connect server).result = .ok how) :
    (reader.connect server).reader.connected = true := by
  unfold connect at success ⊢
  by_cases held : reader.connected = true
  · rw [if_pos held]
    exact held
  · rw [if_neg held] at success ⊢
    cases redacted : Url.redact reader.url with
    | error fault =>
      rw [redacted] at success
      cases success
    | ok target =>
      rw [redacted] at success
      cases refused : server.fault .connect with
      | some fault =>
        simp only [refused] at success
        cases success
      | none => rfl

theorem sound_close : (reader.close server).Sound reader := by
  unfold close
  by_cases held : reader.connected = true
  · rw [if_pos held]
    cases server.fault .close with
    | some fault =>
      refine ⟨?_, rfl⟩
      show Course reader.connected _ reader.connected
      rw [held]
      exact .step (.close false) (.rest true)
    | none =>
      refine ⟨?_, rfl⟩
      show Course reader.connected _ false
      rw [held]
      exact .step (.close true) (.rest false)
  · rw [if_neg held]
    exact Outcome.sound_quiet _

theorem sound_query (name : TableName) (held : reader.connected = true) :
    (reader.query server name).Sound reader := by
  unfold query
  cases server.fault .cursor with
  | some fault => exact ⟨.rest _, rfl⟩
  | none =>
    refine ⟨?_, rfl⟩
    show Course reader.connected _ reader.connected
    rw [held]
    exact .step (.execute name) (.step .cursorClosed (.rest true))

theorem sound_rows (name : TableName) : (reader.rows server name).Sound reader :=
  (sound_connect server reader).andThen fun _ success =>
    sound_query server _ name (connected_of_connect server reader success)

theorem sound_assemble (name : TableName) (rows : List CatalogRow) :
    (assemble name rows reader).Sound reader := by
  unfold assemble
  cases Catalog.tableOfRows name.table rows <;> exact ⟨.rest _, rfl⟩

theorem sound_fetch (reference : String) : (reader.fetch server reference).Sound reader := by
  unfold fetch
  refine Outcome.Sound.andThen (sound_connect server reader) fun _ _ => ?_
  refine Outcome.Sound.andThen ?_ fun rows _ => sound_assemble _ _ rows
  exact (sound_rows server _ _).closing (sound_close server _)

theorem sound_fetchOnce (reference : String) :
    (reader.fetchOnce server reference).Sound reader :=
  (sound_fetch server reader reference).closing (sound_close server _)

end Reader

end CatalogReader
