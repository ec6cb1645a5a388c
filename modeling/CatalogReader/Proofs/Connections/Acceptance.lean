/-
Accepted URLs and connections. A URL is read twice: when a reader is made, to look at its scheme,
and when the reader connects, to log it without its passwords. The second reading goes on to mask
and to write what was read, and none of this can fail, so that the URL of a reader that was given is
never refused later on. No step of a session changes where a reader connects. So whatever happens
before, a reader that holds no connection comes to ask the driver for one.
-/

import CatalogReader.Proofs.Connections.Recovery
import CatalogReader.Proofs.Runs.Escapes
import CatalogReader.Proofs.Url.Masking

namespace CatalogReader

open CatalogReader.Text

/-! ### Readers that are given -/

/-- What is read as a scheme has no capitals. -/
theorem Url.lowerAscii_scheme {text : List Char} {parts : Url} (read : ofText text = .ok parts) :
    lowerAscii parts.scheme = parts.scheme := by
  rcases (sound_of_ofText read).scheme with none | isScheme
  · rw [none]
    rfl
  · exact isScheme.small

/-- The scheme decides about a URL that can be read. -/
theorem Reader.ofUrl_of_read {url : String} {parts : Url} (read : Url.ofText url.toList = .ok parts)
    (defaultSchema : Option String) (timeout : Option Int) :
    ofUrl url defaultSchema timeout =
      if String.ofList parts.scheme ∈ schemes then .ok (make url defaultSchema timeout)
      else .error (.schema (.unsupportedDatabase (some (String.ofList parts.scheme)))) := by
  unfold ofUrl Url.schemeOf
  rw [read]
  rfl

/-- A reader is given for the two schemes. -/
theorem Reader.exists_ofUrl_iff (url : String) (defaultSchema : Option String)
    (timeout : Option Int) :
    (∃ reader, ofUrl url defaultSchema timeout = .ok reader) ↔
      ∃ parts, Url.ofText url.toList = .ok parts ∧ String.ofList parts.scheme ∈ schemes := by
  constructor
  · rintro ⟨reader, given⟩
    cases read : Url.ofText url.toList with
    | error fault =>
      rw [ofUrl_of_refused read] at given
      cases given
    | ok parts =>
      rw [ofUrl_of_read read] at given
      split at given
      case isTrue handled => exact ⟨parts, rfl, handled⟩
      case isFalse => cases given
  · rintro ⟨parts, read, handled⟩
    rw [ofUrl_of_read read, if_pos handled]
    exact ⟨_, rfl⟩

/-- Every other scheme is named by the error. -/
theorem Reader.ofUrl_eq_unsupported_iff (url : String) (defaultSchema : Option String)
    (timeout : Option Int) (scheme : String) :
    ofUrl url defaultSchema timeout = .error (.schema (.unsupportedDatabase (some scheme))) ↔
      ∃ parts, Url.ofText url.toList = .ok parts ∧ String.ofList parts.scheme = scheme ∧
        scheme ∉ schemes := by
  constructor
  · intro refused
    cases read : Url.ofText url.toList with
    | error fault =>
      rw [ofUrl_of_refused read] at refused
      cases refused
    | ok parts =>
      rw [ofUrl_of_read read] at refused
      split at refused
      case isTrue => cases refused
      case isFalse other =>
        have named := congrArg SchemaError.cause (Failure.schema.inj (Except.error.inj refused))
        obtain rfl := Option.some.inj (Cause.unsupportedDatabase.inj named)
        exact ⟨parts, rfl, rfl, other⟩
  · rintro ⟨parts, read, rfl, other⟩
    rw [ofUrl_of_read read, if_neg other]

/-- The URL of a reader that was given is not refused when its passwords are masked. -/
theorem Reader.exists_redacted {url : String} {defaultSchema : Option String}
    {timeout : Option Int} {reader : Reader}
    (given : ofUrl url defaultSchema timeout = .ok reader) :
    ∃ target, Url.redact url = .ok target := by
  have masked := redact_of_ofUrl given
  rw [Session.make_of_ofUrl given] at masked
  exact masked

namespace Session

/-! ### Readers in the course of a session -/

/-- However a session goes on, a reader only changes in whether it holds a connection. -/
theorem Moves.exists_connected {first last : Session} (moves : Moves first last) {number : Nat}
    (known : number < first.count) :
    ∃ connected, last.readers number = { first.readers number with connected } := by
  refine (moves.keeps (fun session => number < session.count ∧
    ∃ connected, session.readers number = { first.readers number with connected }) ?_
    ⟨known, _, rfl⟩).2
  rintro before after move ⟨known, connected, same⟩
  cases move with
  | server | choose | keep => exact ⟨known, connected, same⟩
  | add url schema timeout =>
    refine ⟨Nat.lt_succ_of_lt known, connected, ?_⟩
    exact (if_neg (Nat.ne_of_lt known)).trans same
  | perform other operation _ sound =>
    refine ⟨known, ?_⟩
    show ∃ connected, (if number = other then _ else before.readers number) = _
    by_cases performed : number = other
    · subst performed
      rw [if_pos rfl, (sound before.server (before.readers number)).same, same]
      exact ⟨_, rfl⟩
    · rw [if_neg performed]
      exact ⟨connected, same⟩

/-- The session after a step that makes a reader has this reader, under the next number. -/
theorem step_new_of_ofUrl (session : Session) {url : String} {defaultSchema : Option String}
    {timeout : Option Int} {reader : Reader}
    (given : Reader.ofUrl url defaultSchema timeout = .ok reader) :
    session.step (.new ⟨url, defaultSchema, timeout, false⟩) =
      (.ok (.reader reader), { session.addReader reader with current := session.count }) := by
  have asked : ReaderRequest.reader ⟨url, defaultSchema, timeout, false⟩ = .ok reader := given
  rw [Session.step, asked]

/-- A reader whose URL is not refused when it connects: while it holds no connection the driver is
asked for one, which is opened unless the driver refuses. -/
structure ReachesDriver (session : Session) (number : Nat) (url : String) (timeout : Option Int) :
    Prop where
  unrefused : ∀ fault, (session.perform number Reader.connect).1 ≠ .error (.url fault)
  asks : (session.readers number).connected = false →
    (session.perform number Reader.connect).2.trace =
      session.trace ++ [(number, .connect url timeout (session.server.fault .connect).isNone)]

theorem reachesDriver_of_redacted {session : Session} {number : Nat} {target : String}
    (accepted : Url.redact (session.readers number).url = .ok target) :
    session.ReachesDriver number (session.readers number).url
      (session.readers number).connectTimeout := by
  have result : (session.perform number Reader.connect).1 =
      ((session.readers number).connect session.server).result := rfl
  have trace : (session.perform number Reader.connect).2.trace = session.trace ++
      ((session.readers number).connect session.server).events.map fun event => (number, event) :=
    rfl
  constructor
  case unrefused =>
    intro fault
    rw [result]
    cases held : (session.readers number).connected with
    | true =>
      rw [Reader.connect_of_held held]
      exact nofun
    | false =>
      cases refusal : session.server.fault .connect with
      | none =>
        rw [Reader.connect_of_opened held accepted refusal]
        exact nofun
      | some raised =>
        rw [Reader.connect_of_refused held accepted refusal]
        unfold seenAs
        split <;> exact nofun
  case asks =>
    intro free
    rw [trace]
    cases refusal : session.server.fault .connect with
    | none => rw [Reader.connect_of_opened free accepted refusal]; rfl
    | some raised => rw [Reader.connect_of_refused free accepted refusal]; rfl

/-- A reader with an accepted URL reaches the driver in all states that its session comes to. -/
theorem reachesDriver_run {session : Session} (reached : session.Reachable) {number : Nat}
    (known : number < session.count) {target : String}
    (accepted : Url.redact (session.readers number).url = .ok target) (steps : List Step) :
    (session.run steps).ReachesDriver number (session.readers number).url
      (session.readers number).connectTimeout := by
  have moves := moves_run session (accounted_of_reachable reached).chosen steps
  obtain ⟨connected, same⟩ := moves.exists_connected known
  have later : Url.redact ((session.run steps).readers number).url = .ok target := by
    rw [same]
    exact accepted
  have reaches := reachesDriver_of_redacted later
  rw [same] at reaches
  exact reaches

end Session

/-! ### Acceptance -/

/-- What is made of a URL: a reader, if it can be read and has one of the two schemes in any mix of
small letters and capitals; an error that names another scheme in small letters; and otherwise the
fault for which redaction refuses it too. Every session on its way can make the reader, and then the
reader reaches the driver in all states that the session comes to. -/
structure Acceptance (url : String) (defaultSchema : Option String) (timeout : Option Int) :
    Prop where
  given : (∃ reader, Reader.ofUrl url defaultSchema timeout = .ok reader) ↔
    ∃ parts, Url.ofText url.toList = .ok parts ∧
      String.ofList (lowerAscii parts.scheme) ∈ ["postgres", "postgresql"]
  unsupported : ∀ scheme,
    Reader.ofUrl url defaultSchema timeout =
        .error (.schema (.unsupportedDatabase (some scheme))) ↔
      ∃ parts, Url.ofText url.toList = .ok parts ∧
        String.ofList (lowerAscii parts.scheme) = scheme ∧ scheme ∉ ["postgres", "postgresql"]
  refused : (∀ reader, Reader.ofUrl url defaultSchema timeout ≠ .ok reader) →
    (∀ scheme, Reader.ofUrl url defaultSchema timeout ≠
      .error (.schema (.unsupportedDatabase (some scheme)))) →
    ∃ fault, Reader.ofUrl url defaultSchema timeout = .error (.url fault) ∧
      Url.redact url = .error fault
  redacted : ∀ reader, Reader.ofUrl url defaultSchema timeout = .ok reader →
    ∃ target, Url.redact url = .ok target
  made : ∀ reader, Reader.ofUrl url defaultSchema timeout = .ok reader →
    ∀ session : Session, session.Reachable →
      let next := (session.step (.new ⟨url, defaultSchema, timeout, false⟩)).2
      next.Reachable ∧ session.count < next.count ∧ next.readers session.count = reader
  connects : ∀ reader, Reader.ofUrl url defaultSchema timeout = .ok reader →
    ∀ (session : Session) (number : Nat), session.Reachable → number < session.count →
      session.readers number = reader →
      ∀ steps, (session.run steps).ReachesDriver number url timeout

/-- Whether a URL is accepted for a reader and whether it can be connected to is one question, for
whatever text is given as a URL and whatever a session does with the reader. -/
theorem acceptance_agrees_with_connecting (url : String) (defaultSchema : Option String)
    (timeout : Option Int) : Acceptance url defaultSchema timeout where
  given := by
    rw [Reader.exists_ofUrl_iff]
    refine exists_congr fun parts => and_congr_right fun read => ?_
    rw [Url.lowerAscii_scheme read]
    rfl
  unsupported scheme := by
    rw [Reader.ofUrl_eq_unsupported_iff]
    refine exists_congr fun parts => and_congr_right fun read => ?_
    rw [Url.lowerAscii_scheme read]
    rfl
  refused := by
    intro ungiven unnamed
    cases read : Url.ofText url.toList with
    | error fault =>
      exact ⟨fault, Reader.ofUrl_of_refused read _ _, Url.redact_of_refused read⟩
    | ok parts =>
      have decided := Reader.ofUrl_of_read read defaultSchema timeout
      split at decided
      case isTrue => exact absurd decided (ungiven _)
      case isFalse => exact absurd decided (unnamed _)
  redacted _ := Reader.exists_redacted
  made := by
    intro reader given session reached
    have reached := Session.reachable_step reached (.new ⟨url, defaultSchema, timeout, false⟩)
    rw [Session.step_new_of_ofUrl session given] at reached ⊢
    exact ⟨reached, Nat.lt_succ_self _, if_pos rfl⟩
  connects := by
    intro reader given session number reached known same steps
    obtain ⟨target, accepted⟩ := Reader.exists_redacted given
    rw [Session.make_of_ofUrl given] at same
    have reaches := @Session.reachesDriver_run session reached number known target
    rw [same] at reaches
    exact reaches accepted steps

/-- A URL with a blank in front, capitals in its scheme, an address and a zone in brackets, and
escapes that stand for nothing. -/
def oddUrl : String := " PostGres://bob:%zz@[fe80::1%eth0]/db?password=%e9&x"

theorem acceptance_agrees_with_connecting_odd :
    ∃ reader, Reader.ofUrl oddUrl none (some 5) = .ok reader ∧
      (Session.start Server.unreachable Session.localReader).Reachable ∧
      ∀ steps, (((Session.start Server.unreachable Session.localReader).step
        (.new ⟨oddUrl, none, some 5, false⟩)).2.run steps).ReachesDriver 1 oddUrl (some 5) := by
  have accepts := acceptance_agrees_with_connecting oddUrl none (some 5)
  obtain ⟨reader, given⟩ := accepts.given.mpr ⟨_, rfl, by decide⟩
  have started : (Session.start Server.unreachable Session.localReader).Reachable :=
    ⟨Server.unreachable, none, _, [], rfl, rfl⟩
  obtain ⟨reached, known, same⟩ := accepts.made reader given _ started
  exact ⟨reader, given, started, accepts.connects reader given _ 1 reached known same⟩

end CatalogReader
