/-
The accounts of a session's connections. The trace names the reader of every event, so each reader
has its own part of it, and that part is a course from holding nothing to what the reader holds in
the end. One reader is therefore never ahead by more than one opened connection, it is ahead exactly
while it holds one, and over all readers the opened connections exceed the closed ones by the number
of readers that still hold one. The readers that were replaced, and those made for a single fetch,
count like any other.
-/

import CatalogReader.Proofs.Connections.Moves
import Mathlib.Algebra.BigOperators.Group.Finset.Basic
import Mathlib.Algebra.BigOperators.Group.Finset.Piecewise

namespace CatalogReader.Session

/-! ### One reader's part of the trace -/

/-- The events of a trace that belong to one reader, in their order. -/
def eventsBy (number : Nat) (trace : List (Nat × Event)) : List Event :=
  (trace.filter fun entry => entry.1 == number).map Prod.snd

theorem eventsBy_append (number : Nat) (first second : List (Nat × Event)) :
    eventsBy number (first ++ second) = eventsBy number first ++ eventsBy number second := by
  unfold eventsBy
  rw [List.filter_append, List.map_append]

theorem eventsBy_cons (number : Nat) (entry : Nat × Event) (trace : List (Nat × Event)) :
    eventsBy number (entry :: trace) =
      if entry.1 = number then entry.2 :: eventsBy number trace else eventsBy number trace := by
  unfold eventsBy
  rw [List.filter_cons]
  by_cases same : entry.1 = number
  · rw [if_pos same, if_pos (beq_iff_eq.mpr same), List.map_cons]
  · rw [if_neg same, if_neg fun equal => same (beq_iff_eq.mp equal)]

/-- What one reader adds to the trace is its own part of the addition, and no other reader's. -/
theorem eventsBy_tagged (number other : Nat) (events : List Event) :
    eventsBy other (events.map fun event => (number, event)) =
      if number = other then events else [] := by
  induction events with
  | nil => exact (ite_self _).symm
  | cons event rest inductionHypothesis =>
    rw [List.map_cons, eventsBy_cons, inductionHypothesis]
    by_cases same : number = other
    · rw [if_pos same, if_pos same, if_pos same]
    · rw [if_neg same, if_neg same, if_neg same]

/-- A reader that no entry names has no part of a trace. -/
theorem eventsBy_eq_nil {number : Nat} {trace : List (Nat × Event)}
    (absent : ∀ entry ∈ trace, entry.1 ≠ number) : eventsBy number trace = [] := by
  unfold eventsBy
  rw [List.map_eq_nil_iff, List.filter_eq_nil_iff]
  exact fun entry member equal => absent entry member (beq_iff_eq.mp equal)

/-- The parts of all readers make up the trace: whatever is counted. -/
theorem sum_countP_eventsBy (counted : Event → Bool) (count : Nat) (trace : List (Nat × Event))
    (numbered : ∀ entry ∈ trace, entry.1 < count) :
    ∑ number ∈ Finset.range count, (eventsBy number trace).countP counted =
      trace.countP fun entry => counted entry.2 := by
  induction trace with
  | nil => exact Finset.sum_const_zero
  | cons entry rest inductionHypothesis =>
    have part : ∀ number, (eventsBy number (entry :: rest)).countP counted =
        (eventsBy number rest).countP counted +
          if entry.1 = number then (counted entry.2).toNat else 0 := by
      intro number
      rw [eventsBy_cons]
      by_cases same : entry.1 = number
      · rw [if_pos same, if_pos same, List.countP_cons]
        cases counted entry.2 <;> rfl
      · rw [if_neg same, if_neg same, Nat.add_zero]
    have known : entry.1 ∈ Finset.range count :=
      Finset.mem_range.mpr (numbered entry List.mem_cons_self)
    rw [Finset.sum_congr rfl fun number _ => part number, Finset.sum_add_distrib,
      Finset.sum_ite_eq, if_pos known, List.countP_cons,
      inductionHypothesis fun other member => numbered other (List.mem_cons_of_mem _ member)]
    cases counted entry.2 <;> rfl

/-! ### The invariant -/

/-- What holds of every session on its way: the trace names readers that there are, each reader's
part of it is a course to what the reader holds, and the current reader is one of them. -/
structure Accounted (session : Session) : Prop where
  courses : ∀ number < session.count,
    Course false (eventsBy number session.trace) (session.readers number).connected
  numbered : ∀ entry ∈ session.trace, entry.1 < session.count
  chosen : session.current < session.count

theorem accounted_start (server : Server) (reader : Reader) (fresh : reader.connected = false) :
    (start server reader).Accounted where
  courses := by
    intro number _
    show Course false [] reader.connected
    rw [fresh]
    exact .rest false
  numbered := by
    intro entry member
    cases member
  chosen := Nat.zero_lt_one

theorem Move.accounted {first second : Session} (move : Move first second)
    (kept : first.Accounted) : second.Accounted := by
  cases move with
  | server => exact ⟨kept.courses, kept.numbered, kept.chosen⟩
  | keep => exact ⟨kept.courses, kept.numbered, kept.chosen⟩
  | choose number known => exact ⟨kept.courses, kept.numbered, known⟩
  | add url defaultSchema timeout =>
    refine ⟨?_, fun entry member => Nat.lt_succ_of_lt (kept.numbered entry member),
      Nat.lt_succ_of_lt kept.chosen⟩
    intro number known
    show Course false (eventsBy number first.trace)
      (if number = first.count then _ else first.readers number).connected
    by_cases new : number = first.count
    · rw [if_pos new, connected_make, eventsBy_eq_nil fun entry member =>
        new ▸ Nat.ne_of_lt (kept.numbered entry member)]
      exact .rest false
    · rw [if_neg new]
      exact kept.courses number (Nat.lt_of_le_of_ne (Nat.le_of_lt_succ known) new)
  | perform number operation known sound =>
    refine ⟨?_, ?_, kept.chosen⟩
    · intro other _
      show Course false (eventsBy other (first.trace ++ _))
        (if other = number then _ else first.readers other).connected
      rw [eventsBy_append, eventsBy_tagged]
      by_cases same : other = number
      · subst same
        rw [if_pos rfl, if_pos rfl]
        exact (kept.courses other known).append (sound _ _).course
      · rw [if_neg same, if_neg (Ne.symm same), List.append_nil]
        exact kept.courses other ‹_›
    · intro entry member
      rcases List.mem_append.mp member with earlier | added
      · exact kept.numbered entry earlier
      · obtain ⟨event, _, rfl⟩ := List.mem_map.mp added
        exact known

/-! ### The accounts of a run -/

/-- How many readers hold a connection. -/
def heldCount (session : Session) : Nat :=
  ((Finset.range session.count).filter fun number => (session.readers number).connected).card

theorem Accounted.opened_eq {session : Session} (kept : session.Accounted) (number : Nat)
    (known : number < session.count) :
    opened (eventsBy number session.trace) =
      closed (eventsBy number session.trace) + (session.readers number).connected.toNat :=
  (kept.courses number known).opened_add_held

theorem Accounted.opens_eq {session : Session} (kept : session.Accounted) :
    session.opens = session.closes + session.heldCount := by
  have total := Finset.sum_congr (Eq.refl (Finset.range session.count)) fun number member =>
    kept.opened_eq number (Finset.mem_range.mp member)
  rw [Finset.sum_add_distrib] at total
  unfold opened closed at total
  rw [sum_countP_eventsBy _ _ _ kept.numbered, sum_countP_eventsBy _ _ _ kept.numbered] at total
  have held : ∑ number ∈ Finset.range session.count, (session.readers number).connected.toNat =
      session.heldCount := by
    unfold heldCount
    rw [Finset.card_filter]
    exact Finset.sum_congr rfl fun number _ => by cases (session.readers number).connected <;> rfl
  rw [held] at total
  exact total

/-- At every moment before the end, a reader's events so far are a course as well. -/
theorem Accounted.course_of_append {session : Session} (kept : session.Accounted)
    {earlier later : List (Nat × Event)} (split : session.trace = earlier ++ later)
    (number : Nat) : ∃ held, Course false (eventsBy number earlier) held := by
  by_cases known : number < session.count
  · have course := kept.courses number known
    rw [split, eventsBy_append] at course
    obtain ⟨held, before, _⟩ := course.of_append
    exact ⟨held, before⟩
  · refine ⟨false, ?_⟩
    rw [eventsBy_eq_nil]
    · exact .rest false
    · intro entry member equal
      exact known (equal ▸ kept.numbered entry (split ▸ List.mem_append_left later member))

/-- A query is made by a reader whose events so far leave it with a connection. -/
theorem Accounted.course_of_execute {session : Session} (kept : session.Accounted)
    {earlier later : List (Nat × Event)} {number : Nat} {name : TableName}
    (split : session.trace = earlier ++ (number, .execute name) :: later) :
    Course false (eventsBy number earlier) true := by
  have known : number < session.count :=
    kept.numbered (number, .execute name) (split ▸ List.mem_append_right _ List.mem_cons_self)
  have course := kept.courses number known
  rw [split, eventsBy_append, eventsBy_cons, if_pos rfl] at course
  obtain ⟨held, before, after⟩ := course.of_append
  exact after.held_of_execute ▸ before

/-- The accounts of a run, whatever its steps are and whichever faults the driver raises in the
course of them. Of each reader that was made, the opened connections exceed the closed ones by one
if it holds a connection in the end, and otherwise not at all; over all readers they exceed them by
the number of readers that hold one. At no moment before was a reader ahead by two connections, and
each query was made while its reader was ahead by one. -/
theorem run_balances_connections (server : Server) (request : Option ReaderRequest)
    (session : Session) (started : ofRequest server request = .ok session) (steps : List Step) :
    (∀ number < (session.run steps).count,
      opened (eventsBy number (session.run steps).trace) =
        closed (eventsBy number (session.run steps).trace) +
          ((session.run steps).readers number).connected.toNat) ∧
    (session.run steps).opens = (session.run steps).closes + (session.run steps).heldCount ∧
    (∀ earlier later number, (session.run steps).trace = earlier ++ later →
      closed (eventsBy number earlier) ≤ opened (eventsBy number earlier) ∧
        opened (eventsBy number earlier) ≤ closed (eventsBy number earlier) + 1) ∧
    ∀ earlier later number name,
      (session.run steps).trace = earlier ++ (number, .execute name) :: later →
        opened (eventsBy number earlier) = closed (eventsBy number earlier) + 1 := by
  have initial : session.Accounted := by
    cases request with
    | none =>
      cases started
      exact accounted_start server localReader rfl
    | some request =>
      rw [ofRequest] at started
      cases made : request.reader with
      | error failure =>
        rw [made] at started
        cases started
      | ok reader =>
        rw [made] at started
        cases started
        exact accounted_start server reader
          (make_of_request made ▸ connected_make _ _ _)
  have kept : (session.run steps).Accounted :=
    (moves_run session initial.chosen steps).keeps Accounted Move.accounted initial
  refine ⟨kept.opened_eq, kept.opens_eq, ?_, ?_⟩
  · intro earlier later number split
    obtain ⟨held, course⟩ := kept.course_of_append split number
    have balanced := course.opened_add_held
    have bounded := Bool.toNat_le held
    rw [Bool.toNat_false] at balanced
    omega
  · intro earlier later number name split
    exact (kept.course_of_execute split).opened_add_held

/-- Steps that leave two readers with connections: of one the closing fails, and the other is never
closed. -/
def unclosedSteps : List Step :=
  [.connect, .server [.fault .close (some ⟨.operational, "gone"⟩)],
    .block [.rows ⟨"public", "t"⟩, .close], .new ⟨"postgres://db/app", none, none, true⟩,
    .rows ⟨"public", "t"⟩, .server [.fault .close none], .fetchOnce "postgres://db/app" none "t"]

theorem run_balances_connections_unclosed :
    ofRequest Server.empty none = .ok (start Server.empty localReader) ∧
      ((start Server.empty localReader).run unclosedSteps).opens = 3 ∧
      ((start Server.empty localReader).run unclosedSteps).heldCount = 2 ∧
      ((start Server.empty localReader).run unclosedSteps).opens =
        ((start Server.empty localReader).run unclosedSteps).closes +
          ((start Server.empty localReader).run unclosedSteps).heldCount := by
  refine ⟨rfl, by decide +kernel, by decide +kernel, ?_⟩
  exact (run_balances_connections Server.empty none _ rfl unclosedSteps).2.1

end CatalogReader.Session
