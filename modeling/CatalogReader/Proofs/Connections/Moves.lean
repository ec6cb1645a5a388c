/-
Every step of a session, and so every run, is a chain of five moves: the server changes, a reader is
added, another reader becomes the current one, one reader takes a course, or a table is kept. The
readers of a block are those of its steps, so that a block is the moves of its steps and one more
course. What every move keeps is therefore kept by every run, with no look at the steps again.
-/

import CatalogReader.Proofs.Connections.Course
import CatalogReader.Session
import Mathlib.Logic.Relation

namespace CatalogReader.Session

/-! ### Moves -/

/-- One change of a session. A reader that is added was just made, so it holds no connection. -/
inductive Move (session : Session) : Session → Prop
  | server (changes : List ServerChange) :
      Move session { session with server := session.server.changes changes }
  | add (url : String) (defaultSchema : Option String) (timeout : Option Int) :
      Move session (session.addReader (.make url defaultSchema timeout))
  | choose (number : Nat) (known : number < session.count) :
      Move session { session with current := number }
  | perform {Value : Type} (number : Nat) (operation : Server → Reader → Outcome Value)
      (known : number < session.count)
      (sound : ∀ server reader, (operation server reader).Sound reader) :
      Move session (session.perform number operation).2
  | keep (table : Table) : Move session { session with table := some table }

/-- A chain of changes. -/
abbrev Moves : Session → Session → Prop := Relation.ReflTransGen Move

/-- What every move keeps is kept by a chain of moves. -/
theorem Moves.keeps (Kept : Session → Prop)
    (each : ∀ {first second : Session}, Move first second → Kept first → Kept second)
    {first last : Session} (moves : Moves first last) (kept : Kept first) : Kept last := by
  induction moves with
  | refl => exact kept
  | tail _ move inductionHypothesis => exact each move inductionHypothesis

theorem Moves.count_le {first last : Session} (moves : Moves first last) :
    first.count ≤ last.count := by
  refine moves.keeps (fun session => first.count ≤ session.count)
    (fun move bound => Nat.le_trans bound ?_) (Nat.le_refl _)
  cases move with
  | server | choose | perform | keep => exact Nat.le_refl _
  | add => exact Nat.le_succ _

theorem Moves.current_lt {first last : Session} (moves : Moves first last)
    (known : first.current < first.count) : last.current < last.count := by
  refine moves.keeps (fun session => session.current < session.count) (fun move known => ?_) known
  cases move with
  | server | perform | keep => exact known
  | choose _ chosen => exact chosen
  | add => exact Nat.lt_succ_of_lt known

/-! ### Readers that are made -/

theorem connected_make (url : String) (defaultSchema : Option String) (timeout : Option Int) :
    (Reader.make url defaultSchema timeout).connected = false := rfl

/-- A reader made for a URL is the one that is made for it without a look at its scheme. -/
theorem make_of_ofUrl {url : String} {defaultSchema : Option String} {timeout : Option Int}
    {reader : Reader} (made : Reader.ofUrl url defaultSchema timeout = .ok reader) :
    reader = .make url defaultSchema timeout := by
  unfold Reader.ofUrl at made
  cases scheme : Url.schemeOf url with
  | error fault =>
    rw [scheme] at made
    cases made
  | ok scheme' =>
    rw [scheme] at made
    by_cases known : scheme' ∈ Reader.schemes
    · simp only [if_pos known] at made
      cases made
      rfl
    · simp only [if_neg known] at made
      cases made

theorem make_of_request {request : ReaderRequest} {reader : Reader}
    (made : request.reader = .ok reader) :
    reader = .make request.url request.defaultSchema request.connectTimeout := by
  unfold ReaderRequest.reader at made
  by_cases direct : request.direct = true
  · rw [if_pos direct] at made
    cases made
    rfl
  · rw [if_neg direct] at made
    exact make_of_ofUrl made

/-! ### Steps as moves -/

/-- Keeping the result of a fetch is at most one move. -/
theorem moves_keep {session : Session} (ending : Except Failure Table × Session)
    (moves : Moves session ending.2) : Moves session (keep ending).2 := by
  obtain ⟨result, next⟩ := ending
  cases result with
  | error failure => exact moves
  | ok table => exact moves.tail (.keep table)

theorem moves_addReader (session : Session) {reader : Reader} {url : String}
    {defaultSchema : Option String} {timeout : Option Int}
    (made : reader = .make url defaultSchema timeout) : Moves session (session.addReader reader) :=
  made ▸ .single (.add url defaultSchema timeout)

theorem moves_perform {Value : Type} (session : Session) (number : Nat)
    (operation : Server → Reader → Outcome Value) (known : number < session.count)
    (sound : ∀ server reader, (operation server reader).Sound reader) :
    Moves session (session.perform number operation).2 :=
  .single (.perform number operation known sound)

mutual

/-- Every step is a chain of moves. -/
theorem moves_step (session : Session) (known : session.current < session.count) :
    (step : Step) → Moves session (session.step step).2
  | .server changes => .single (.server changes)
  | .new request => by
    rw [Session.step]
    cases made : request.reader with
    | error failure => exact .refl
    | ok reader =>
      exact (moves_addReader session (make_of_request made)).tail
        (.choose session.count (Nat.lt_succ_self _))
  | .connect => moves_perform session _ _ known Reader.sound_connect
  | .close => moves_perform session _ _ known Reader.sound_close
  | .rows name =>
    moves_perform session _ _ known fun server reader => Reader.sound_rows server reader name
  | .fetch reference =>
    moves_keep _ (moves_perform session _ _ known fun server reader =>
      Reader.sound_fetch server reader reference)
  | .fetchOnce url defaultSchema reference => by
    rw [Session.step]
    cases made : Reader.ofUrl url defaultSchema none with
    | error failure => exact .refl
    | ok reader =>
      refine moves_keep _ ((moves_addReader session (make_of_ofUrl made)).trans ?_)
      exact moves_perform (session.addReader reader) session.count _ (Nat.lt_succ_self _)
        fun server reader => Reader.sound_fetchOnce server reader reference
  | .block inner => by
    have moves := moves_steps session known inner
    rw [step_block]
    -- The reader that is closed is the one from before the block, which is still a known one.
    exact moves.trans (moves_perform _ session.current Reader.close
      (Nat.lt_of_lt_of_le known moves.count_le) Reader.sound_close)
  | .resolve _ => .refl
  | .quote _ => .refl
  | .selectList => .refl
  | .column _ => .refl
  | .json => .refl

/-- Steps up to the first failing one are a chain of moves. -/
theorem moves_steps (session : Session) (known : session.current < session.count) :
    (steps : List Step) → Moves session (session.steps steps).2
  | [] => .refl
  | first :: others => by
    rw [Session.steps]
    have moves := moves_step session known first
    generalize session.step first = ending at moves ⊢
    obtain ⟨result, next⟩ := ending
    cases result with
    | error failure => exact moves
    | ok answer => exact moves.trans (moves_steps next (moves.current_lt known) others)

end

/-- Every run is a chain of moves. -/
theorem moves_run (session : Session) (known : session.current < session.count)
    (steps : List Step) : Moves session (session.run steps) := by
  induction steps generalizing session with
  | nil => exact .refl
  | cons first others inductionHypothesis =>
    have moves := moves_step session known first
    exact moves.trans (inductionHypothesis _ (moves.current_lt known))

end CatalogReader.Session
